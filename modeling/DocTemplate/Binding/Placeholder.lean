import DocTemplate.Binding.Path
import DocTemplate.Value.Plain

/-!
# Placeholders

Text may hold placeholders: two opening braces, a path without closing braces, two closing braces.
`scan` cuts a text into literal characters and placeholders from the left, and `interpolate` puts
the bound values in. What is put in is not looked at again.
-/

namespace DocTemplate

open DocTemplate.Text

inductive Part where
  | literal (c : Char)
  /-- A placeholder with the text between its braces. -/
  | placeholder (path : List Char)
deriving DecidableEq, Repr

/-- The placeholder that a text begins with: its path, and the text after it. -/
def placeholder? : List Char → Option (List Char × List Char)
  | '\x7b' :: '\x7b' :: cs =>
    match cs.dropWhile (· != '\x7d') with
    | '\x7d' :: '\x7d' :: rest =>
      let path := cs.takeWhile (· != '\x7d')
      if path.isEmpty then none else some (path, rest)
    | _ => none
  | _ => none

theorem length_dropWhile_le {α : Type} (p : α → Bool) (xs : List α) :
    (xs.dropWhile p).length ≤ xs.length := (List.dropWhile_sublist p).length_le

theorem placeholder?_length {cs path rest : List Char} (h : placeholder? cs = some (path, rest)) :
    rest.length < cs.length := by
  unfold placeholder? at h
  split at h
  · next cs =>
    split at h
    · next r hr =>
      simp only [Option.ite_none_left_eq_some, Option.some.injEq, Prod.mk.injEq] at h
      have hl := length_dropWhile_le (· != '\x7d') cs
      rw [hr] at hl
      simp only [List.length_cons] at hl ⊢
      rw [← h.2.2]
      omega
    · cases h
  · cases h

def scan : List Char → List Part
  | [] => []
  | c :: cs =>
    match _h : placeholder? (c :: cs) with
    | some (path, rest) => .placeholder path :: scan rest
    | none => .literal c :: scan cs
termination_by cs => cs.length
decreasing_by
  · exact placeholder?_length (by assumption)
  · simp

/-- What a part of a text shows as. -/
def Part.shown (context : Value) : Part → Except Failure (List Char)
  | .literal c => .ok [c]
  | .placeholder path => do
    let v ← resolve context (some (String.ofList (trim path)))
    (v.plain).map String.toList

/-- What the parts of a text show as, one after another. -/
def showParts (context : Value) : List Part → Except Failure (List Char)
  | [] => .ok []
  | p :: ps => do
    let t ← p.shown context
    let ts ← showParts context ps
    .ok (t ++ ts)

/-- A text with its placeholders filled in; an absent text is empty. -/
def interpolate (text : Option String) (context : Value) : Except Failure String :=
  match text with
  | none => .ok ""
  | some text => (showParts context (scan text.toList)).map String.ofList

end DocTemplate
