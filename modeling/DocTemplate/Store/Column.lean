import DocTemplate.Value.Plain

/-!
# Data in columns

What a column of JSON keeps of a value. Tuples come back as lists; values that JSON does not have, and
whole numbers with too many digits, cannot be kept.
-/

namespace DocTemplate.Store

mutual

/-- A value as it comes back from a column, if the column can keep it. -/
def kept? : Value → Option Value
  | .int n => (integerText n).toOption.map fun _ => .int n
  | .decimal _ => none
  | .bytes _ => none
  | .date _ => none
  | .moment _ => none
  | .list items => (keptItems? items).map .list
  | .tuple items => (keptItems? items).map .list
  | .record fields => (keptFields? fields).map .record
  | v => some v

/-- Items as they come back from a column. -/
def keptItems? : List Value → Option (List Value)
  | [] => some []
  | v :: vs => do
    let w ← kept? v
    let ws ← keptItems? vs
    some (w :: ws)

/-- Fields as they come back from a column. -/
def keptFields? : List (String × Value) → Option (List (String × Value))
  | [] => some []
  | (key, v) :: fields => do
    let w ← kept? v
    let rest ← keptFields? fields
    some ((key, w) :: rest)

end

end DocTemplate.Store
