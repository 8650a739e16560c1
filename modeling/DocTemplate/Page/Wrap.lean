import DocTemplate.Page.Length
import DocTemplate.Text.Blank

/-!
# Lines

Text is broken into lines that fit a width, for any way to measure it. Words stay whole unless one is
too wide for a line of its own; such a word is broken between characters.
-/

namespace DocTemplate.Page

open DocTemplate.Text

variable {α : Type} [Length α]

/-- A way to measure text, and the width that lines have. -/
structure Slot (α : Type) where
  measure : List Char → α
  width : α

def Slot.fits (s : Slot α) (cs : List Char) : Bool := s.measure cs ≤ s.width

/-- Whether text is too wide. -/
def Slot.overflows (s : Slot α) (cs : List Char) : Bool := s.width < s.measure cs

/-- The pieces of a word: those that end where one more character would be too wide, and the last
one. The piece that is begun comes first. -/
def splitFrom (s : Slot α) (piece : List Char) : List Char → List (List Char) × List Char
  | [] => ([], piece)
  | c :: cs =>
    if !piece.isEmpty && s.overflows (piece ++ [c]) then
      let (full, last) := splitFrom s [c] cs
      (piece :: full, last)
    else splitFrom s (piece ++ [c]) cs

/-- The pieces of a word: the full ones and the last one. -/
def splitWord (s : Slot α) (word : List Char) : List (List Char) × List Char := splitFrom s [] word

def lineOf (words : List (List Char)) : List Char := join [' '] words

/-- A line that is begun, if it has words. -/
def begun (line : List (List Char)) : List (List Char) :=
  if line.isEmpty then [] else [lineOf line]

/-- The lines of words, the first of which is begun. -/
def wrapFrom (s : Slot α) (line : List (List Char)) : List (List Char) → List (List Char)
  | [] => begun line
  | w :: ws =>
    if s.fits (lineOf (line ++ [w])) then wrapFrom s (line ++ [w]) ws
    else if s.fits w then begun line ++ wrapFrom s [w] ws
    else
      let (full, last) := splitWord s w
      begun line ++ full ++ wrapFrom s [last] ws

/-- The lines of a paragraph; one without words is an empty line. -/
def wrapParagraph (s : Slot α) (paragraph : List Char) : List (List Char) :=
  match words paragraph with
  | [] => [[]]
  | ws => wrapFrom s [] ws

/-- The lines of text; every line end begins a paragraph. -/
def wrap (s : Slot α) (text : List Char) : List (List Char) :=
  (pieces '\n' text).flatMap (wrapParagraph s)

def leastSize : α := 7.0

/-- The first size, going down by halves, at which text is not too wide; the least size if there is
none above it. -/
def fitFrom (measure : α → α) (width : α) : (steps : Nat) → (size : α) → α
  | 0, _ => leastSize
  | steps + 1, size =>
    if leastSize < size then
      if measure size ≤ width then size else fitFrom measure width steps (size - 0.5)
    else leastSize

/-- The size at which text fits a width, given the size it should have. There are fewer halves above the
least size than in the whole number above the size. -/
def fitSize (measure : α → α) (width base : α) : α :=
  fitFrom measure width (2 * Length.ceil base + 1) base

theorem wrapFrom_ne_nil (s : Slot α) (line ws : List (List Char)) (h : line ≠ [] ∨ ws ≠ []) :
    wrapFrom s line ws ≠ [] := by
  induction ws generalizing line with
  | nil => simp_all [wrapFrom, begun]
  | cons w ws ih =>
    simp only [wrapFrom]
    split
    · exact ih _ (.inl (by simp))
    · split <;> simp [ih]

end DocTemplate.Page
