import DocTemplate.Layout.Content
import DocTemplate.Value.Size

/-!
# Namesakes

A component may be loaded as one of an unknown kind and have the name of a known one all the same: a name
that is given in bytes is not found among the kinds, but kept as text. Such a component is shown by its name.
What it shows is read from its extra fields, which may hold anything, where it is shown.
-/

namespace DocTemplate

open DocTemplate.Number

/-- A field that has to be there. -/
def Fields.member (fields : Fields) (name : String) : Except Failure Value :=
  match Fields.get? fields name with
  | some v => .ok v
  | none => .error .missingMember

/-- How many parts a value has that can be gone through. -/
def Value.partCount? : Value → Option Nat
  | .text s => some s.length
  | .bytes bs => some bs.length
  | .list items => some items.length
  | .tuple items => some items.length
  | .record fields => some fields.length
  | _ => none

/-- There are four levels of headings. -/
def headingLevel (level : Int) : Nat := (min (max level 1) 4).toNat

theorem headingLevel_mem (level : Int) : headingLevel level ∈ [1, 2, 3, 4] := by
  simp only [headingLevel, List.mem_cons, List.not_mem_nil, or_false]
  omega

/-- The level that a decimal number is: itself between the first and the last. -/
def Number.Numeral.levelText (n : Numeral) : String :=
  if n.negative || n.coefficient == 0 || decide (leadingExponent n.coefficient n.exponent < 0) then "1"
  else if 0 < leadingExponent n.coefficient n.exponent
    ∨ 4 * Nat.pow 10 (-n.exponent).toNat < n.coefficient then "4"
  else String.ofList (Decimal.finite n).text

namespace Value

/-- The level of a heading as it is written: the value itself between the first level and the last. -/
def levelText : Value → Except Failure String
  | .bool b => .ok (if b then "True" else "1")
  | .int n => .ok (toString (headingLevel n))
  | .float x => .ok (if x < 1 then "1" else if 4 < x then "4" else String.ofList (floatText x))
  | .decimal (.finite n) => .ok n.levelText
  | .decimal (.infinite negative) => .ok (if negative then "1" else "4")
  | .decimal (.nan ..) => .error .undefinedLength
  | _ => .error .wrongKind

/-- The path that a value is; what counts as absent is none. -/
def asPath : Value → Except Failure (Option String)
  | .text s => .ok (some s)
  | v => if v.isTruthy then .error .wrongKind else .ok none

/-- The address that a value is. -/
def asAddress : Value → Except Failure String
  | .text s => .ok s
  | _ => .error .wrongKind

/-- The height that a value is without being converted. -/
def asHeight : Value → Except Failure Float
  | .bool b => toSize (.bool b)
  | .int n => toSize (.int n)
  | .float x => toSize (.float x)
  | _ => .error .wrongKind

/-- The size that a value is, if it counts as present. -/
def givenSize (v : Value) : Except Failure (Option Float) :=
  if v.isTruthy then (toSize v).map some else .ok none

end Value

namespace Namesake

variable (extras : Fields)

def level : Except Failure String := extras.member "level" >>= Value.levelText

/-- The items of a list or of chips. An item in an extra field has neither a label nor a binding, so only
where there is none does nothing go wrong. -/
def noItems : Except Failure Unit := do
  let items ← extras.member "items"
  if items.partCount? = some 0 then .ok () else .error .missingMember

/-- The room that a spacer leaves, as it is written. -/
def gap : Except Failure String := extras.member "size" >>= Value.plain

/-- The room that a spacer leaves on a page. -/
def room : Except Failure Float := extras.member "size" >>= Value.asHeight

/-- The source of an image, which is its own or a bound text. -/
def source (context : Value) (binding : Option String) : Except Failure Value := do
  let url ← extras.member "url"
  if url.isTruthy then .ok url else (boundText context binding).map .text

/-- The size of an image in a field. -/
def extent (name : String) : Except Failure (Option Float) := extras.member name >>= Value.givenSize

/-- What is inside a box. A part of an extra field is no component and shows nothing. -/
def insides : Except Failure Unit := do
  let children ← extras.member "children"
  if children.partCount?.isSome then .ok () else .error .wrongKind

/-- How many columns a table has. A column in an extra field has neither a label nor a binding. -/
def columnCount? : Except Failure (Option Nat) := (extras.member "columns").map Value.partCount?

/-- The path to the rows of a table. -/
def rowsPath : Except Failure (Option String) := extras.member "rows_binding" >>= Value.asPath

def showsHeader : Except Failure Bool := (extras.member "show_header").map Value.isTruthy

end Namesake

/-- The kind that a component is shown as, known by its name. -/
def Component.shownKind? (c : Component) : Option Kind := Kind.named? c.kindName

theorem Component.shownKind?_of_kind? {c : Component} {k : Kind} (h : c.kind? = some k) :
    c.shownKind? = some k := by
  rw [shownKind?, c.kindName_of_kind? h, Kind.named?_name]

/-- A component that is not shown has been loaded as one of an unknown kind. -/
theorem Component.kind?_of_shownKind?_none {c : Component} (h : c.shownKind? = none) : c.kind? = none := by
  cases hkind : c.kind? with
  | none => rfl
  | some k => cases (shownKind?_of_kind? hkind).symm.trans h

/-- A component that is shown as one of a kind and has been loaded as one of an unknown kind. -/
def Component.IsNamesake (c : Component) (kind : Kind) : Prop := c.kind? = none ∧ c.shownKind? = some kind

end DocTemplate
