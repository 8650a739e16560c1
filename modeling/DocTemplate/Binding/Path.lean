import DocTemplate.Text.Blank
import DocTemplate.Text.Digit
import DocTemplate.Number.Numeral
import DocTemplate.Value.Basic
import DocTemplate.Value.Failure

/-!
# Paths

A dotted path leads from a value to a value inside it: a segment names a field of a record or, in
digits, an item of a list or tuple. A segment may end in `[]`, which is dropped. What is missing is
null, and a walk that meets null stays there.

Main statement: walking two paths one after the other is walking the paths joined by a dot
(`walk_append`).
-/

namespace DocTemplate

open DocTemplate.Text DocTemplate.Number

/-- A segment without the mark of a repeated field. -/
def plainSegment (segment : List Char) : List Char :=
  match segment.reverse with
  | ']' :: '[' :: rest => rest.reverse
  | _ => segment

def isIndex (segment : List Char) : Bool := !segment.isEmpty && segment.all isAsciiDigit

def indexOf (segment : List Char) : Nat := ofDigits 10 (segment.filterMap asciiDigit?)

def step (v : Value) (segment : List Char) : Except Failure Value :=
  match v with
  | .record fields => .ok ((Fields.get? fields (String.ofList segment)).getD .null)
  | .list items | .tuple items =>
    if isIndex segment then
      if digitLimit < segment.length then .error (.indexTooLong segment.length)
      else .ok (items.getD (indexOf segment) .null)
    else .ok .null
  | _ => .ok .null

/-- A walk along segments, which ends where null is met. -/
def walk (v : Value) : List (List Char) → Except Failure Value
  | [] => .ok v
  | segment :: segments => do
    let next ← step v (plainSegment segment)
    if next.isNull then .ok .null else walk next segments

/-- The value a path leads to; an absent or empty path leads nowhere. -/
def resolve (context : Value) (path : Option String) : Except Failure Value :=
  match path with
  | none => .ok .null
  | some path => if path = "" then .ok .null else walk context (pieces '.' path.toList)

theorem step_null (segment : List Char) : step .null segment = .ok .null := rfl

theorem walk_null (segments : List (List Char)) : walk .null segments = .ok .null := by
  cases segments with
  | nil => rfl
  | cons s ss => simp [walk, step_null, bind, Except.bind, Value.isNull]

/-- Two walks one after the other are one walk. -/
theorem walk_append (v : Value) (first second : List (List Char)) :
    walk v (first ++ second) = (walk v first).bind (walk · second) := by
  induction first generalizing v with
  | nil => rfl
  | cons s ss ih =>
    simp only [List.cons_append, walk, bind, Except.bind]
    cases step v (plainSegment s) with
    | error e => rfl
    | ok next =>
      simp only
      split
      · simp [walk_null]
      · simpa [Except.bind] using ih next

end DocTemplate
