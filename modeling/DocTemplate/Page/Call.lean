import DocTemplate.Layout.Component
import DocTemplate.Page.Color
import DocTemplate.Page.Face

/-!
# Calls on a canvas

What can be asked of the canvas that a document is drawn on, and what it refuses: lengths that have no
finite value, fonts it does not have, and pictures that cannot be drawn.
-/

namespace DocTemplate.Page

inductive Call (α : Type) where
  | setTitle (title : String)
  | showPage
  | setFillColor (color : Color)
  | setStrokeColor (color : Color)
  | setLineWidth (width : α)
  | setFont (name : String) (size : α)
  /-- Text with its left end, middle or right end at a point. -/
  | drawText (align : Align) (x y : α) (text : String)
  | drawLine (x1 y1 x2 y2 : α)
  | drawRect (x y width height : α) (stroke fill : Bool)
  | drawRoundRect (x y width height radius : α) (stroke fill : Bool)
  /-- A picture in an area; the reader of the picture may know why it cannot be drawn there. -/
  | drawImage (x y width height : α) (refusal : Option Failure)

namespace Call

variable {α : Type} [Length α]

def lengths : Call α → List α
  | setFont _ size => [size]
  | drawText _ x y _ => [x, y]
  | drawLine x1 y1 x2 y2 => [x1, y1, x2, y2]
  | drawRect x y width height _ _ => [x, y, width, height]
  | drawRoundRect x y width height radius _ _ => [x, y, width, height, radius]
  | drawImage x y width height _ => [x, y, width, height]
  | _ => []

/-- The font that a call asks for and that there is none of. -/
def missingFont? : Call α → Option String
  | setFont name _ => if (Face.named? name).isNone then some name else none
  | _ => none

/-- Why the picture of a call cannot be drawn, if it cannot. -/
def pictureRefusal? : Call α → Option Failure
  | drawImage _ _ _ _ refusal => refusal
  | _ => none

/-- Why a canvas refuses a call, if it does. -/
def refusal? (c : Call α) : Option Failure :=
  match c.missingFont? with
  | some name => some (.unknownFace name)
  | none => (c.lengths.findSome? Length.refusal?).or c.pictureRefusal?

end Call

end DocTemplate.Page
