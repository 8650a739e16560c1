import DocTemplate.Binding.Placeholder
import DocTemplate.Layout.Component

/-!
# Content of components

What a component shows for a context, however it is shown: the texts of list items, the source of an
image, the rows of a table and the texts of its cells.
-/

namespace DocTemplate

/-- A text that is set and not empty. -/
def given? (s : Option String) : Option String := s.filter (· != "")

/-- A size that is set and not zero. -/
def nonzero? (x : Option Float) : Option Float := x.filter (· != 0)

/-- What a path leads to, as text. -/
def boundText (context : Value) (path : Option String) : Except Failure String :=
  resolve context path >>= Value.plain

/-- The text of a list item: the bound value, or the label. -/
def ListItem.shown (context : Value) (i : ListItem) : Except Failure String :=
  match given? i.binding with
  | some path => boundText context (some path)
  | none => interpolate i.label context

/-- The source of an image: its own, or a bound one. -/
def imageSource (context : Value) (url binding : Option String) : Except Failure String :=
  match given? url with
  | some url => .ok url
  | none => boundText context binding

def tableRows (context : Value) (path : Option String) : Except Failure (List Value) :=
  (resolve context path).map fun v => v.items?.getD []

/-- What a column takes from a row: the value at its path, or the field of its key. -/
def Column.take (row : Value) (c : Column) : Except Failure Value :=
  match given? c.binding with
  | some path => resolve row (some path)
  | none => .ok (((row.fields?).bind (·.get? c.key)).getD .null)

/-- The text of a cell. -/
def Column.shown (row : Value) (c : Column) : Except Failure String := do
  let v ← c.take row
  formatValue .standard v c.format

end DocTemplate
