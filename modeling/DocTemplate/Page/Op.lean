/-!
# Drawn parts

The record of what was drawn: text, lines, frames, images and the bands of table rows, each with its
page, its place and its part in the document.
-/

namespace DocTemplate.Page

/-- The part that something drawn has in the document. -/
inductive Role
  | heading
  | text
  | listItem
  | chip
  | chipLabel
  | divider
  | image
  | imagePlaceholder
  | boxBorder
  | tableHeader
  | tableRule
  | tableCell
  | tableRow
deriving DecidableEq, Repr

def Role.name : Role → String
  | heading => "heading"
  | text => "text"
  | listItem => "list-item"
  | chip => "chip"
  | chipLabel => "chip-label"
  | divider => "divider"
  | image => "image"
  | imagePlaceholder => "image-placeholder"
  | boxBorder => "box-border"
  | tableHeader => "table-header"
  | tableRule => "table-rule"
  | tableCell => "table-cell"
  | tableRow => "table-row"

/-- What was drawn. -/
inductive Shape (α : Type) where
  | text (content font : String) (size : α)
  | line
  | rect
  | image
  | row

/-- Something drawn: what it is, where it is, and its part in the document. -/
structure Op (α : Type) where
  shape : Shape α
  page : Nat
  x : α
  y : α
  width : α
  height : α
  role : Role

end DocTemplate.Page
