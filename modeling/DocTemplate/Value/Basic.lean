import DocTemplate.Calendar.Moment
import DocTemplate.Number.Decimal

/-!
# Values

The loose data that documents are filled with: context records, raw layouts and payloads. Records
keep the order in which their fields were added. Texts are made of Unicode characters: no surrogate stands alone in
them.
-/

namespace DocTemplate

open DocTemplate.Number DocTemplate.Calendar

/-- A piece of data. -/
inductive Value where
  | null
  | bool (b : Bool)
  | int (n : Int)
  | float (x : Float)
  | decimal (d : Decimal)
  | text (s : String)
  | bytes (bs : List UInt8)
  | date (d : Date)
  | moment (m : Moment)
  | list (items : List Value)
  | tuple (items : List Value)
  | record (fields : List (String × Value))

instance : Inhabited Value := ⟨.null⟩

abbrev Fields := List (String × Value)

namespace Fields

/-- The value of a field, if the record has it. -/
def get? (fields : Fields) (key : String) : Option Value := fields.lookup key

def has (fields : Fields) (key : String) : Bool := fields.any (·.1 == key)

/-- A record with a field set: an existing field keeps its place, a new one comes last. -/
def set (fields : Fields) (key : String) (value : Value) : Fields :=
  if has fields key then fields.map fun f => if f.1 == key then (key, value) else f
  else fields ++ [(key, value)]

/-- A record without a field. -/
def remove (fields : Fields) (key : String) : Fields := fields.filter (·.1 != key)

/-- A record with the fields of another one laid over it. -/
def overlay (fields upper : Fields) : Fields := upper.foldl (fun fs f => set fs f.1 f.2) fields

end Fields

namespace Value

def isNull : Value → Bool
  | null => true
  | _ => false

/-- Whether a value counts as present: not null, not false, not zero, not empty. -/
def isTruthy : Value → Bool
  | null => false
  | bool b => b
  | int n => n != 0
  | float x => x != 0
  | decimal (.finite n) => n.coefficient != 0
  | decimal _ => true
  | text s => s != ""
  | bytes bs => !bs.isEmpty
  | date _ => true
  | moment _ => true
  | list items => !items.isEmpty
  | tuple items => !items.isEmpty
  | record fields => !fields.isEmpty

/-- The elements of a list or tuple. -/
def items? : Value → Option (List Value)
  | list items => some items
  | tuple items => some items
  | _ => none

def fields? : Value → Option Fields
  | record fields => some fields
  | _ => none

def text? : Value → Option String
  | text s => some s
  | _ => none

end Value

end DocTemplate
