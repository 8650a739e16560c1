import DocTemplate.Page.Glyph
import DocTemplate.Page.Length

/-!
# Faces

The four faces that text can be set in, and the width of text.
-/

namespace DocTemplate.Page

inductive Face
  | regular
  | bold
  | italic
  | boldItalic
deriving DecidableEq, Repr

namespace Face

/-- All faces. -/
def all : List Face := [regular, bold, italic, boldItalic]

def name : Face → String
  | regular => "Helvetica"
  | bold => "Helvetica-Bold"
  | italic => "Helvetica-Oblique"
  | boldItalic => "Helvetica-BoldOblique"

def named? (s : String) : Option Face := all.find? (·.name == s)

def isBold (f : Face) : Bool := f == bold || f == boldItalic

/-- The width of text in thousandths of the font size. -/
def units (f : Face) (cs : List Char) : Nat :=
  cs.foldl (fun n c => n + glyphWidth f.isBold c) 0

def width {α : Type} [Length α] (f : Face) (size : α) (cs : List Char) : α :=
  Length.ofNat (f.units cs) * 0.001 * size

end Face

end DocTemplate.Page
