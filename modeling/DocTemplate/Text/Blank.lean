/-!
# Blank characters

White space, trimming, and the words and pieces of a text, as lists of characters.
-/

namespace DocTemplate.Text

/-- The characters that count as white space. -/
def isBlank (c : Char) : Bool :=
  let n := c.toNat
  (0x09 ≤ n && n ≤ 0x0D) || (0x1C ≤ n && n ≤ 0x20) || n == 0x85 || n == 0xA0 || n == 0x1680
    || (0x2000 ≤ n && n ≤ 0x200A) || n == 0x2028 || n == 0x2029 || n == 0x202F || n == 0x205F
    || n == 0x3000

/-- White space around typed numbers. -/
def isGapChar (c : Char) : Bool := isBlank c && !(0x1C ≤ c.toNat && c.toNat ≤ 0x1F)

/-- Text without the characters of a class at its start. -/
def dropStart (p : Char → Bool) (cs : List Char) : List Char := cs.dropWhile p

/-- Text without the characters of a class at its end. -/
def dropEnd (p : Char → Bool) (cs : List Char) : List Char := (cs.reverse.dropWhile p).reverse

/-- Text without the characters of a class at both ends. -/
def dropAround (p : Char → Bool) (cs : List Char) : List Char := dropEnd p (dropStart p cs)

/-- Text without white space at both ends. -/
def trim (cs : List Char) : List Char := dropAround isBlank cs

/-- The maximal runs of characters that are not blank. -/
def words : List Char → List (List Char)
  | [] => []
  | [c] => if isBlank c then [] else [[c]]
  | c :: d :: cs =>
    if isBlank c then words (d :: cs)
    else if isBlank d then [c] :: words (d :: cs)
    else match words (d :: cs) with
      | [] => [[c]]
      | w :: ws => (c :: w) :: ws

/-- The pieces between the occurrences of a separator; never empty. -/
def pieces (separator : Char) : List Char → List (List Char)
  | [] => [[]]
  | c :: cs =>
    if c = separator then [] :: pieces separator cs
    else match pieces separator cs with
      | [] => [[c]]
      | p :: ps => (c :: p) :: ps

/-- Pieces written one after another with a separator between them. -/
def join (separator : List Char) : List (List Char) → List Char
  | [] => []
  | [p] => p
  | p :: q :: ps => p ++ separator ++ join separator (q :: ps)

theorem pieces_ne_nil (separator : Char) (cs : List Char) : pieces separator cs ≠ [] := by
  cases cs with
  | nil => simp [pieces]
  | cons c cs =>
    unfold pieces
    split
    · simp
    · split <;> simp

theorem join_cons_cons (separator : List Char) (c : Char) (p : List Char) (ps : List (List Char)) :
    join separator ((c :: p) :: ps) = c :: join separator (p :: ps) := by
  cases ps <;> simp [join]

theorem join_concat {separator : List Char} {ps : List (List Char)} (h : ps ≠ []) (p : List Char) :
    join separator (ps ++ [p]) = join separator ps ++ separator ++ p := by
  induction ps using join.induct with
  | case1 => exact absurd rfl h
  | case2 q => rfl
  | case3 q r ps ih =>
    rw [List.cons_append, List.cons_append, join, ← List.cons_append, ih (List.cons_ne_nil r ps), join]
    simp only [List.append_assoc]

/-- Joining the pieces gives the text back. -/
theorem join_pieces (separator : Char) (cs : List Char) :
    join [separator] (pieces separator cs) = cs := by
  induction cs with
  | nil => rfl
  | cons c cs ih =>
    cases hp : pieces separator cs with
    | nil => exact absurd hp (pieces_ne_nil separator cs)
    | cons p ps =>
      rw [hp] at ih
      unfold pieces
      split
      · next h => simp [hp, join, ih, h]
      · simp [hp, join_cons_cons, ih]

example : words " one  two ".toList = ["one".toList, "two".toList] := by decide
example : trim " a b ".toList = "a b".toList := by decide

end DocTemplate.Text
