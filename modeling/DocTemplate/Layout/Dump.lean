import DocTemplate.Layout.Component
import DocTemplate.Number.FloatText
import DocTemplate.Text.Encoding
import DocTemplate.Value.Failure

/-!
# Writing a layout

A layout as plain records and lists: the raw layout that reads back as the same one. Fields that are
not set are left out. The depth of loose values is not limited: a writer that guards its stack gives up at a depth
of about 255.
-/

namespace DocTemplate

open DocTemplate.Number DocTemplate.Text

namespace Value

mutual

/-- A value as plain data: tuples are lists, and dates, decimals and bytes are text. A double that is
no finite number has no plain form. -/
def toPlain : Value → Except Failure Value
  | .float x => .ok (if isFinite x then .float x else .null)
  | .decimal d => .ok (.text (String.ofList d.text))
  | .bytes bs =>
    match decodeUtf8? bs with
    | some cs => .ok (.text (String.ofList cs))
    | none => .error .unreadableBytes
  | .date d => .ok (.text (String.ofList d.text))
  | .moment m => .ok (.text (String.ofList m.text))
  | .list items => (toPlainItems items).map .list
  | .tuple items => (toPlainItems items).map .list
  | .record fields => (toPlainFields fields).map .record
  | v => .ok v

def toPlainItems : List Value → Except Failure (List Value)
  | [] => .ok []
  | v :: vs => do
    let w ← toPlain v
    let ws ← toPlainItems vs
    .ok (w :: ws)

def toPlainFields : List (String × Value) → Except Failure (List (String × Value))
  | [] => .ok []
  | (key, v) :: fields => do
    let w ← toPlain v
    let rest ← toPlainFields fields
    .ok ((key, w) :: rest)

end

end Value

/-- A field, if it is set. -/
def entry {α : Type} (key : String) (toValue : α → Value) (a? : Option α) : Fields :=
  (a?.map fun a => (key, toValue a)).toList

def Border.dump (b : Border) : Value :=
  .record (entry "width" .float b.width ++ entry "color" .text b.color)

def Style.dump (s : Style) : Value :=
  .record (entry "fontSize" .float s.fontSize
    ++ [("bold", .bool s.bold), ("italic", .bool s.italic)]
    ++ entry "color" .text s.color
    ++ entry "background" .text s.background
    ++ entry "padding" .float s.padding
    ++ entry "marginBottom" .float s.marginBottom
    ++ entry "align" .text s.align
    ++ entry "border" Border.dump s.border)

def Condition.dump (c : Condition) : Except Failure Value := do
  let value ← c.value.toPlain
  .ok (.record ([("field", .text c.field), ("operator", .text c.operator.name)]
    ++ if c.value.isNull then [] else [("value", value)]))

def ListItem.dump (i : ListItem) : Value :=
  .record (entry "label" .text i.label ++ entry "binding" .text i.binding)

def Chip.dump (c : Chip) : Value :=
  .record (entry "label" .text c.label ++ entry "color" .text c.color)

def Column.dump (c : Column) : Value :=
  .record ([("key", .text c.key), ("label", .text c.label)]
    ++ entry "binding" .text c.binding
    ++ entry "width" .float c.width
    ++ entry "align" (.text ·.name) c.align
    ++ entry "format" (.text ·.name) c.format)

/-- What all components have, and the name of the kind. -/
def Common.dump (c : Common) (kind : String) : Except Failure Fields := do
  let conditions ← c.visibleWhen.mapM Condition.dump
  .ok ([("id", .text c.id)]
    ++ entry "text" .text c.text
    ++ entry "label" .text c.label
    ++ entry "binding" .text c.binding
    ++ entry "style" Style.dump c.style
    ++ [("visibleWhen", .list conditions), ("type", .text kind)])

/-- A component without children, with the fields of its own kind. -/
def Component.dumpWith (c : Component) (own : Fields) : Except Failure Value := do
  let shared ← c.common.dump c.kindName
  .ok (.record (shared ++ own))

mutual

def Component.dump : Component → Except Failure Value
  | .heading c level => (Component.heading c level).dumpWith [("level", .int level)]
  | .text c => (Component.text c).dumpWith []
  | .list c items => (Component.list c items).dumpWith [("items", .list (items.map ListItem.dump))]
  | .chips c items => (Component.chips c items).dumpWith [("items", .list (items.map Chip.dump))]
  | .divider c => (Component.divider c).dumpWith []
  | .spacer c size => (Component.spacer c size).dumpWith [("size", .float size)]
  | .image c url width height => (Component.image c url width height).dumpWith
      (entry "url" .text url ++ entry "width" .float width ++ entry "height" .float height)
  | .box c children => do
    let inner ← dumpComponents children
    (Component.box c children).dumpWith [("children", .list inner)]
  | .table c rows columns header => (Component.table c rows columns header).dumpWith
      (entry "rowsBinding" .text rows
        ++ [("columns", .list (columns.map Column.dump)), ("showHeader", .bool header)])
  | .unknown c kind extras => do
    let own ← Value.toPlainFields extras
    (Component.unknown c kind extras).dumpWith own

def dumpComponents : List Component → Except Failure (List Value)
  | [] => .ok []
  | c :: cs => do
    let v ← c.dump
    let vs ← dumpComponents cs
    .ok (v :: vs)

end

def dumpLayout (layout : Layout) : Except Failure (List Value) := dumpComponents layout

end DocTemplate
