import DocTemplate.Number.Exact
import DocTemplate.Value.Basic

/-!
# Equality of values

`Value.same` compares data: numbers of any kind and booleans by their exact value, lists with lists,
tuples with tuples, records by their fields in any order. `strictEquals` is what conditions compare
with: at the outermost level a boolean equals only itself, and text never equals a number.
-/

namespace DocTemplate

open DocTemplate.Number DocTemplate.Calendar

/-- A record without the first field of a key. -/
def removeFirst (key : String) : List (String × Value) → List (String × Value)
  | [] => []
  | f :: fs => if f.1 == key then fs else f :: removeFirst key fs

/-- Whether two moments are the same: by instant if both have an offset, and by date and time if
neither has. -/
def sameMoment (a b : Moment) : Bool :=
  match a.instant?, b.instant? with
  | some s, some t => s == t
  | none, none => a.localTime == b.localTime
  | _, _ => false

namespace Value

/-- How a number or boolean is compared, for values that are one. -/
def comparable? : Value → Option (Option Comparable)
  | bool b => some (some (.finite (.ofInt (if b then 1 else 0))))
  | int n => some (some (.finite (.ofInt n)))
  | float x => some (Comparable.ofFloat? x)
  | decimal d => some (Comparable.ofDecimal? d)
  | _ => none

/-- Whether two numbers are equal; a value that is no number equals nothing. -/
def sameNumber (a b : Option Comparable) : Bool := a.isSome && a == b

mutual

/-- Whether two values are equal as data. -/
def same : Value → Value → Bool
  | null, null => true
  | text s, text t => s == t
  | bytes s, bytes t => s == t
  | date d, date e => d == e
  | moment m, moment n => sameMoment m n
  | list xs, list ys => sameItems xs ys
  | tuple xs, tuple ys => sameItems xs ys
  | record fs, record gs => sameFields fs gs
  | v, w =>
    match v.comparable?, w.comparable? with
    | some a, some b => sameNumber a b
    | _, _ => false

/-- Whether two lists of items are equal as data. -/
def sameItems : List Value → List Value → Bool
  | [], [] => true
  | v :: vs, w :: ws => same v w && sameItems vs ws
  | _, _ => false

/-- Whether two lists of fields hold the same values under the same keys. -/
def sameFields : List (String × Value) → List (String × Value) → Bool
  | [], gs => gs.isEmpty
  | (key, v) :: fs, gs =>
    match gs.lookup key with
    | some w => same v w && sameFields fs (removeFirst key gs)
    | none => false

end

/-- Equality without coercion. -/
def strictEquals : Value → Value → Bool
  | bool a, bool b => a == b
  | bool _, _ => false
  | _, bool _ => false
  | v, w => same v w

end Value

end DocTemplate
