import DocTemplate.Page.Length

/-!
# Page geometry

The size of a page and the width of its margins. Heights are measured from the bottom of the page.
-/

namespace DocTemplate.Page

/-- A page size and its margin. -/
structure Geometry (α : Type) where
  width : α
  height : α
  margin : α

namespace Geometry

variable {α : Type} [Length α]

/-- An upright A4 page. -/
def standard : Geometry α := ⟨595.28, 841.89, 40.0⟩

/-- The upper edge of the content. -/
def top (g : Geometry α) : α := g.height - g.margin

/-- The left edge of the content. -/
def left (g : Geometry α) : α := g.margin

/-- The right edge of the content. -/
def right (g : Geometry α) : α := g.width - g.margin

def contentWidth (g : Geometry α) : α := g.width - 2.0 * g.margin

def contentHeight (g : Geometry α) : α := g.height - 2.0 * g.margin

end Geometry

end DocTemplate.Page
