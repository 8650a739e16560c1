import DocTemplate.Json.Reader
import DocTemplate.Layout.Field

/-!
# Reading a layout

A raw layout is a list of component records, a record that holds such a list under `components`, or
JSON text of either. The problems of all components are found, in the order of the components and, in
each, of the fields.

Components that are built already are a layout as they are, and nothing is read of them here. Nor is the depth of
components and values limited here, as it is in JSON text: a reader that guards its stack gives up at a depth of
about 255.
-/

namespace DocTemplate

open DocTemplate.Text

/-- The frame of a box. -/
def readBorder : Value → Checked Border :=
  readRecord "Border" fun fields => Border.mk
    <$> optional fields (.word "width") readSize
    <*> optional fields (.word "color") readText

def readStyle : Value → Checked Style :=
  readRecord "Style" fun fields => Style.mk
    <$> optional fields ⟨"fontSize", "font_size"⟩ readSize
    <*> withDefault fields (.word "bold") false readFlag
    <*> withDefault fields (.word "italic") false readFlag
    <*> optional fields (.word "color") readText
    <*> optional fields (.word "background") readText
    <*> optional fields (.word "padding") readSize
    <*> optional fields ⟨"marginBottom", "margin_bottom"⟩ readSize
    <*> optional fields (.word "align") readText
    <*> optional fields (.word "border") readBorder

def readCondition : Value → Checked Condition :=
  readRecord "Condition" fun fields => Condition.mk
    <$> required fields (.word "field") readText
    <*> withDefault fields (.word "operator") .exists (readChoice Operator.named? .notOperator)
    <*> withDefault fields (.word "value") .null .accepted

/-- Conditions: a sequence of them, or one that stands alone. -/
def readConditions : Value → Checked (List Condition)
  | .record fields => readSequence readCondition (.list [.record fields])
  | v => readSequence readCondition v

def readListItem : Value → Checked ListItem :=
  readRecord "ListItem" fun fields => ListItem.mk
    <$> optional fields (.word "label") readText
    <*> optional fields (.word "binding") readText

def readChip : Value → Checked Chip :=
  readRecord "Chip" fun fields => Chip.mk
    <$> optional fields (.word "label") readText
    <*> optional fields (.word "color") readText

def readColumn : Value → Checked Column :=
  readRecord "Column" fun fields => Column.mk
    <$> required fields (.word "key") readText
    <*> required fields (.word "label") readText
    <*> optional fields (.word "binding") readText
    <*> optional fields (.word "width") readSize
    <*> optional fields (.word "align") (readChoice Align.named? .notAlign)
    <*> optional fields (.word "format") (readChoice FormatKind.named? .notFormat)

/-- The field that holds the conditions of a component. -/
def visibleWhenName : FieldName := ⟨"visibleWhen", "visible_when"⟩

/-- What all components have. -/
def readCommon (fields : Fields) : Checked Common := Common.mk
  <$> required fields (.word "id") readText
  <*> optional fields (.word "text") readText
  <*> optional fields (.word "label") readText
  <*> optional fields (.word "binding") readText
  <*> optional fields (.word "style") readStyle
  <*> withDefault fields visibleWhenName [] readConditions

/-- The kind that a record names, if it is a known one. -/
def kindOf? (fields : Fields) : Option Kind :=
  match fields.get? "type" with
  | some (.text name) => Kind.named? name
  | _ => none

/-- The fields of an unknown component that are its own. -/
def extrasOf (fields : Fields) : Fields :=
  let conditions := ((visibleWhenName.find? fields).map (·.1)).toList
  fields.filter fun f =>
    !(f.1 ∈ ["id", "text", "label", "binding", "style", "type"] || f.1 ∈ conditions)

/-- A component of a kind that is not known. -/
def readUnknown (fields : Fields) : Checked Component :=
  (Component.unknown · · (extrasOf fields))
    <$> readCommon fields
    <*> required fields (.word "type") readText

/-- A component of a known kind, given how its children are read. -/
def readKind (fields : Fields) (children : Unit → Checked (List Component)) : Kind → Checked Component
  | .heading => .heading <$> readCommon fields <*> withDefault fields (.word "level") 2 readWhole
  | .text => .text <$> readCommon fields
  | .list => .list <$> readCommon fields
      <*> withDefault fields (.word "items") [] (readSequence readListItem)
  | .chips => .chips <$> readCommon fields
      <*> withDefault fields (.word "items") [] (readSequence readChip)
  | .divider => .divider <$> readCommon fields
  | .spacer => .spacer <$> readCommon fields <*> withDefault fields (.word "size") 12.0 readSize
  | .image => .image <$> readCommon fields
      <*> optional fields (.word "url") readText
      <*> optional fields (.word "width") readSize
      <*> optional fields (.word "height") readSize
  | .box => .box <$> readCommon fields <*> children ()
  | .table => .table <$> readCommon fields
      <*> optional fields ⟨"rowsBinding", "rows_binding"⟩ readText
      <*> withDefault fields (.word "columns") [] (readSequence readColumn)
      <*> withDefault fields ⟨"showHeader", "show_header"⟩ true readFlag

mutual

/-- A component, in its kind's place. -/
def readComponent : Value → Checked Component
  | .record fields =>
    let set := dropNulls fields
    match kindOf? set with
    | some kind => (readKind set (fun _ => readChildren fields) kind).inside kind.name
    | none => (readUnknown set).inside "unknown"
  | _ => (Checked.reject (.notRecord "UnknownComponent")).inside "unknown"

/-- The children among the fields of a box. -/
def readChildren : List (String × Value) → Checked (List Component)
  | [] => .accepted []
  | (key, v) :: fields =>
    if key == "children" && !v.isNull then (readChildList v).inside key else readChildren fields

/-- The children that a value holds. -/
def readChildList : Value → Checked (List Component)
  | .list items => readComponents 0 items
  | .tuple items => readComponents 0 items
  | _ => .reject .notTuple

/-- Components, numbered from an index on. -/
def readComponents (index : Nat) : List Value → Checked (List Component)
  | [] => .accepted []
  | v :: vs =>
    List.cons <$> (readComponent v).inside (toString index) <*> readComponents (index + 1) vs

end

/-- Why no layout was read. -/
inductive LoadFailure where
  | refused (refusal : Refusal)
  /-- Bytes that are no text. -/
  | undecodable
  /-- JSON text with a whole number of more digits than are read. -/
  | integerTooLong (digits : Nat)
  /-- JSON text nested too deeply. -/
  | tooDeep
deriving DecidableEq, Repr

def parseText (parsed : Except Json.ReadFailure Value) (cs : List Char) : Except LoadFailure Value :=
  match parsed with
  | .ok v => .ok v
  | .error (.malformed fault place) => .error (.refused (.badText (Json.faultText cs fault place)))
  | .error (.integerTooLong digits) => .error (.integerTooLong digits)
  | .error .tooDeep => .error .tooDeep

/-- A raw layout, with text and bytes read as JSON. Texts are made of characters here: where a surrogate stands alone
in bytes, or is named alone in a text, the layout is refused, whatever would be made of it elsewhere. -/
def rawLayout : Value → Except LoadFailure Value
  | .text s => parseText (Json.read s.toList) s.toList
  | .bytes bs =>
    match decodeDetected? bs with
    | some ps =>
      match characters? ps with
      | some cs => parseText (Json.readChars cs) cs
      | none => .error (.refused (.badText Json.Fault.loneSurrogate.text))
    | none => .error .undecodable
  | v => .ok v

def rawComponents : Value → Except Refusal (List Value)
  | .record fields =>
    match fields.lookup "components" with
    | none => .error .noComponents
    | some v =>
      match v.items? with
      | some items => .ok items
      | none => .error .notAList
  | v =>
    match v.items? with
    | some items => .ok items
    | none => .error .notAList

/-- The layout that raw components write, or its problems. -/
def checkComponents (items : List Value) : Except Refusal Layout :=
  match readComponents 0 items with
  | .accepted layout => .ok layout
  | .rejected p ps => .error (.problems p ps)

def loadLayout (source : Value) : Except LoadFailure Layout := do
  let v ← rawLayout source
  ((rawComponents v).bind checkComponents).mapError .refused

end DocTemplate
