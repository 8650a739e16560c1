import DocTemplate.Json.Fault

/-!
# Problems of a layout

Why a layout is refused, and how each problem is reported: where it is, and what is wrong there.
-/

namespace DocTemplate

/-- What is wrong with a field or with a value in a layout. -/
inductive Reason
  | required
  | notText
  | notUnicode
  | notTuple
  /-- No record, where one of the named class is wanted. -/
  | notRecord (noun : String)
  | notOperator
  | notAlign
  | notFormat
  | notNumberText
  | notNumber
  | negative
  | notWholeText
  | notWhole
  | fractional
  | notFinite
  | tooManyDigits
  | notBooleanText
  | notBoolean
deriving DecidableEq, Repr

def Reason.text : Reason → String
  | required => "Field required"
  | notText => "Input should be a valid string"
  | notUnicode => "Input should be a valid string, unable to parse raw data as a unicode string"
  | notTuple => "Input should be a valid tuple"
  | notRecord noun => "Input should be a valid dictionary or instance of " ++ noun
  | notOperator => "Input should be 'exists', 'equals' or 'not_equals'"
  | notAlign => "Input should be 'left', 'center' or 'right'"
  | notFormat => "Input should be 'text', 'currency', 'number' or 'date'"
  | notNumberText => "Input should be a valid number, unable to parse string as a number"
  | notNumber => "Input should be a valid number"
  | negative => "Input should be greater than or equal to 0"
  | notWholeText => "Input should be a valid integer, unable to parse string as an integer"
  | notWhole => "Input should be a valid integer"
  | fractional => "Input should be a valid integer, got a number with a fractional part"
  | notFinite => "Input should be a finite number"
  | tooManyDigits => "Unable to parse input string as an integer, exceeded maximum size"
  | notBooleanText => "Input should be a valid boolean, unable to interpret input"
  | notBoolean => "Input should be a valid boolean"

/-- A problem with a part of a layout: the names and indexes that lead to it, and the reason. -/
structure Problem where
  path : List String
  reason : Reason
deriving DecidableEq, Repr

def Problem.text (p : Problem) : String := ".".intercalate p.path ++ ": " ++ p.reason.text

/-- Why a layout is refused. -/
inductive Refusal
  /-- Text that is no JSON; the report says where. -/
  | badText (report : String)
  | noComponents
  | notAList
  /-- A component that is inside itself, and the path that leads to it. -/
  | cyclic (path : String)
  | problems (first : Problem) (rest : List Problem)
deriving DecidableEq, Repr

/-- The reports of a refusal; there is at least one. -/
def Refusal.reports : Refusal → List String
  | badText report => ["layout is not valid JSON: " ++ report]
  | noComponents => ["layout mapping has no 'components' list"]
  | notAList => ["layout must be a list of components"]
  | cyclic path => [path ++ ": component contains itself"]
  | problems first rest => (first :: rest).map Problem.text

theorem Refusal.reports_ne_nil (r : Refusal) : r.reports ≠ [] := by
  cases r <;> simp [reports]

end DocTemplate
