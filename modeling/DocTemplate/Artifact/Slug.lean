import DocTemplate.Artifact.Digest
import DocTemplate.Number.Numeral
import DocTemplate.Text.Compatibility
import DocTemplate.Text.Encoding
import DocTemplate.Text.Entity
import DocTemplate.Text.Transliteration
import DocTemplate.Value.Failure

/-!
# Slugs

A slug is a title made fit for a path: lower-case letters and digits of ASCII and hyphens. The words of a title
are found by a function that slugs are given; `latinWords` is one such function. A title without words gets a slug
from its digest, for which it has to be a text: a title with a lone surrogate and without words has no slug. A
slug is checked before it is used, and the check refuses none: `slugFrom_eq`.
-/

namespace DocTemplate.Artifact

open DocTemplate.Text DocTemplate.Number

/-! ## Character references -/

/-- A text with the references in it read: each stands between an ampersand and a semicolon, and no
ampersand is inside one. -/
def replaceReferences (read? : List Char → Option (Char × List Char)) (cs : List Char) : List Char :=
  match pieces '&' cs with
  | [] => []
  | first :: rest => first ++ rest.flatMap fun piece =>
    match read? piece with
    | some (c, after) => c :: after
    | none => '&' :: piece

def namedReference? (piece : List Char) : Option (Char × List Char) :=
  match piece.dropWhile (· != ';') with
  | ';' :: after => (entity? (piece.takeWhile (· != ';'))).map (·, after)
  | _ => none

/-- The digits of a numbered reference: a mark, digits of a base, a semicolon. -/
def referenceDigits? (mark : List Char) (base : Nat) (piece : List Char) :
    Option (List Nat × List Char) :=
  if mark.isPrefixOf piece then
    let rest := piece.drop mark.length
    let digits := rest.takeWhile (· != ';')
    let value? (c : Char) : Option Nat := if c.toNat < 0x80 then digitIn? base c else none
    match rest.dropWhile (· != ';'), digits.mapM value? with
    | ';' :: after, some (d :: ds) => some (d :: ds, after)
    | _, _ => none
  else none

def lastCodePoint : Nat := 0x10FFFF

/-- Whether the digits of a numbered reference name a code point. Only decimal digits are limited in number. -/
def namesCodePoint (base : Nat) (digits : List Nat) : Bool :=
  !(base = 10 && digitLimit < digits.length) && ofDigits base digits ≤ lastCodePoint

/-- A text with its numbered references read. One that has no code point keeps all of them from being read. -/
def replaceNumbered (mark : List Char) (base : Nat) (cs : List Char) : List Char :=
  let numbers := ((pieces '&' cs).drop 1).filterMap (referenceDigits? mark base)
  if numbers.all fun n => namesCodePoint base n.1 then replaceReferences reference? cs else cs
where
  /-- The character of a numbered reference. -/
  reference? (piece : List Char) : Option (Char × List Char) :=
    (referenceDigits? mark base piece).map fun n => (codePoint (ofDigits base n.1), n.2)
  /-- The character of a code point; a surrogate has none, and stands for no letter either way. -/
  codePoint (n : Nat) : Char := if n.isValidChar then Char.ofNat n else '\ufffd'

/-! ## Words -/

/-- A text in which each run of some characters is one hyphen. -/
def hyphenate (isGap : Char → Bool) (inGap : Bool) : List Char → List Char
  | [] => []
  | c :: cs =>
    if isGap c then (if inGap then hyphenate isGap true cs else '-' :: hyphenate isGap true cs)
    else c :: hyphenate isGap false cs

/-- A text without the commas that stand between digits. -/
def dropDigitCommas (afterDigit : Bool) : List Char → List Char
  | [] => []
  | c :: cs =>
    if c = ',' && afterDigit && cs.head?.any isAsciiDigit then dropDigitCommas false cs
    else c :: dropDigitCommas (isAsciiDigit c) cs

/-- The letters and digits that words are made of, and the hyphen. -/
def isWordChar (c : Char) : Bool :=
  c = '-' || ('a' ≤ c && c ≤ 'z') || ('A' ≤ c && c ≤ 'Z') || isAsciiDigit c

/-- A text in words with hyphens between them. -/
def hyphenated (title : List Char) : List Char :=
  let ascii := transliterate (decompose (hyphenate (· == '\'') false title))
  let read := replaceNumbered ['#'] 10 (replaceReferences namedReference? ascii)
  let read := replaceNumbered ['#', 'x'] 16 read
  let lower := (decompose read).map Char.toLower
  let plain := dropDigitCommas false (lower.filter (· != '\''))
  dropAround (· == '-') (hyphenate (· == '-') false (hyphenate (!isWordChar ·) false plain))

/-- A way to find the words of a title. -/
abbrev Words := Points → Points

/-- The words of a title whose letters are Latin ones. Surrogates are no part of words. -/
def latinWords : Words := fun title => (hyphenated (title.filterMap charOf?)).map pointOf

/-! ## Slugs -/

def isSlugChar (c : Char) : Bool := c = '-' || ('a' ≤ c && c ≤ 'z') || isAsciiDigit c

/-- A character in lower case. Two letters beyond ASCII have letters of ASCII there; the other ones have
none, and stay out of slugs in either case. -/
def lowered (c : Char) : List Char :=
  if c = '\u212a' then ['k']
  else if c = '\u0130' then ['i', '\u0307']
  else [c.toLower]

/-- Words as a slug, or nothing. A surrogate is no character of a slug. -/
def asSlug (found : Points) : List Char :=
  dropAround (· == '-') (hyphenate (!isSlugChar ·) false ((replaced found).flatMap lowered))

/-- A slug for a text that leaves nothing: the first twelve digits of its digest. -/
def digestSlug (title : String) : List Char := (hexText (digest title.toUTF8.toList)).take 12

/-- Whether a text leads out of the directory that it is put in, or into another one there. -/
def isStray (cs : List Char) : Bool :=
  (cs.zip cs.tail).contains ('.', '.') || cs.contains '/' || cs.contains '\\'

/-- The slug of a title with some words, before it is checked. -/
def slugText (found title : Points) : Except Failure (List Char) :=
  match asSlug found with
  | [] =>
    match textOf? title with
    | some title => .ok (digestSlug title)
    | none => .error .loneSurrogate
  | slug => .ok slug

/-- The slug of a title with some words. -/
def slugFrom (found title : Points) : Except Failure (List Char) := do
  let slug ← slugText found title
  if isStray slug then .error .straySlug else .ok slug

/-- The slug of a title. -/
def slugOf (words : Words) (title : Points) : Except Failure String :=
  (slugFrom (words title) title).map String.ofList

/-! ## No slug is stray -/

theorem mem_hyphenate {isGap : Char → Bool} {inGap : Bool} {cs : List Char} {c : Char}
    (h : c ∈ hyphenate isGap inGap cs) : c = '-' ∨ isGap c = false := by
  induction cs generalizing inGap with
  | nil => simp [hyphenate] at h
  | cons d cs ih =>
    unfold hyphenate at h
    by_cases hgap : isGap d
    · cases inGap
      · simp only [hgap, if_true, Bool.false_eq_true, if_false, List.mem_cons] at h
        exact h.elim .inl ih
      · simp only [hgap, if_true] at h
        exact ih h
    · simp only [hgap, Bool.false_eq_true, if_false, List.mem_cons] at h
      rcases h with rfl | h
      · exact .inr (by simpa using hgap)
      · exact ih h

theorem mem_of_mem_dropAround {p : Char → Bool} {cs : List Char} {c : Char}
    (h : c ∈ dropAround p cs) : c ∈ cs := by
  unfold dropAround dropEnd dropStart at h
  have h := (List.dropWhile_sublist _).subset (List.mem_reverse.mp h)
  exact (List.dropWhile_sublist _).subset (List.mem_reverse.mp h)

theorem isSlugChar_of_mem_asSlug {found : Points} {c : Char} (h : c ∈ asSlug found) : isSlugChar c := by
  rcases mem_hyphenate (mem_of_mem_dropAround h) with rfl | hc
  · rfl
  · simpa using hc

theorem mem_digestSlug {title : String} {c : Char} (h : c ∈ digestSlug title) :
    ∃ d < 16, c = hexDigit d := by
  obtain ⟨b, -, hc⟩ := List.mem_flatMap.mp (List.mem_of_mem_take h)
  simp only [hexDigits, List.nil_append, List.singleton_append, List.mem_cons, List.not_mem_nil,
    or_false] at hc
  rcases hc with hc | hc
  · exact ⟨_, Nat.mod_lt _ (by decide), hc⟩
  · exact ⟨_, Nat.mod_lt _ (by decide), hc⟩

theorem isSlugChar_of_mem_digestSlug {title : String} {c : Char} (h : c ∈ digestSlug title) :
    isSlugChar c := by
  obtain ⟨d, hd, rfl⟩ := mem_digestSlug h
  exact (by decide : ∀ d < 16, isSlugChar (hexDigit d)) d hd

theorem isStray_eq_false {cs : List Char} (h : ∀ c ∈ cs, isSlugChar c) : isStray cs = false := by
  have hne {c : Char} (hc : isSlugChar c = false) : c ∉ cs := by
    intro hmem
    simp [h c hmem] at hc
  have hdots : ('.', '.') ∉ cs.zip cs.tail := fun hmem => hne rfl (List.of_mem_zip hmem).1
  simp [isStray, hdots, hne (c := '/') rfl, hne (c := '\\') rfl]

theorem isSlugChar_of_mem_slugText {found title : Points} {slug : List Char}
    (h : slugText found title = .ok slug) {c : Char} (hc : c ∈ slug) : isSlugChar c := by
  unfold slugText at h
  split at h
  · split at h
    · cases h
      exact isSlugChar_of_mem_digestSlug hc
    · cases h
  · cases h
    exact isSlugChar_of_mem_asSlug hc

/-- No slug is refused by the check. -/
theorem slugFrom_eq (found title : Points) : slugFrom found title = slugText found title := by
  unfold slugFrom
  cases hslug : slugText found title with
  | error e => rfl
  | ok slug =>
    change (if isStray slug then _ else _) = _
    rw [isStray_eq_false fun _ => isSlugChar_of_mem_slugText hslug, if_neg (by decide)]

end DocTemplate.Artifact
