import DocTemplate.Format.Basic

/-!
# Components

A layout is an ordered tree of components. Boxes hold further components; a component of a kind
that is not known keeps its extra fields and shows nothing.
-/

namespace DocTemplate

/-- A frame around a box. -/
structure Border where
  width : Option Float := none
  color : Option String := none

/-- How a component looks. -/
structure Style where
  fontSize : Option Float := none
  bold : Bool := false
  italic : Bool := false
  color : Option String := none
  background : Option String := none
  padding : Option Float := none
  marginBottom : Option Float := none
  align : Option String := none
  border : Option Border := none

/-- The style of a component that has none. -/
def Style.plain : Style := {}

/-- What a condition asks of a value. -/
inductive Operator
  | exists
  | equals
  | notEquals
deriving DecidableEq, Repr

namespace Operator

def all : List Operator := [.exists, .equals, .notEquals]

def name : Operator → String
  | .exists => "exists"
  | .equals => "equals"
  | .notEquals => "not_equals"

def named? (s : String) : Option Operator := all.find? (·.name == s)

end Operator

/-- A condition on the value that a path leads to. A value that is not set is null. -/
structure Condition where
  field : String
  operator : Operator
  value : Value

structure ListItem where
  label : Option String := none
  binding : Option String := none

/-- A small label on a coloured ground. -/
structure Chip where
  label : Option String := none
  color : Option String := none

/-- Where text stands in its place. -/
inductive Align
  | left
  | center
  | right
deriving DecidableEq, Repr

namespace Align

/-- All alignments. -/
def all : List Align := [left, center, right]

def name : Align → String
  | left => "left"
  | center => "center"
  | right => "right"

def named? (s : String) : Option Align := all.find? (·.name == s)

end Align

structure Column where
  key : String
  label : String
  binding : Option String := none
  width : Option Float := none
  align : Option Align := none
  format : Option FormatKind := none

/-- The kinds of components that can be shown. -/
inductive Kind
  | heading
  | text
  | list
  | chips
  | divider
  | spacer
  | image
  | box
  | table
deriving DecidableEq, Repr

namespace Kind

def all : List Kind := [heading, text, list, chips, divider, spacer, image, box, table]

def name : Kind → String
  | heading => "heading"
  | text => "text"
  | list => "list"
  | chips => "chips"
  | divider => "divider"
  | spacer => "spacer"
  | image => "image"
  | box => "box"
  | table => "table"

def named? (s : String) : Option Kind := all.find? (·.name == s)

theorem named?_name (k : Kind) : named? k.name = some k := by cases k <;> rfl

end Kind

/-- What all components have. -/
structure Common where
  id : String
  text : Option String := none
  label : Option String := none
  binding : Option String := none
  style : Option Style := none
  visibleWhen : List Condition := []

inductive Component where
  | heading (common : Common) (level : Int)
  | text (common : Common)
  | list (common : Common) (items : List ListItem)
  | chips (common : Common) (items : List Chip)
  | divider (common : Common)
  | spacer (common : Common) (size : Float)
  | image (common : Common) (url : Option String) (width height : Option Float)
  | box (common : Common) (children : List Component)
  | table (common : Common) (rowsBinding : Option String) (columns : List Column) (showHeader : Bool)
  | unknown (common : Common) (kind : String) (extras : Fields)

abbrev Layout := List Component

namespace Component

def common : Component → Common
  | heading c _ => c
  | text c => c
  | list c _ => c
  | chips c _ => c
  | divider c => c
  | spacer c _ => c
  | image c _ _ _ => c
  | box c _ => c
  | table c _ _ _ => c
  | unknown c _ _ => c

/-- The kind of a component, if it is known. -/
def kind? : Component → Option Kind
  | heading .. => some .heading
  | text .. => some .text
  | list .. => some .list
  | chips .. => some .chips
  | divider .. => some .divider
  | spacer .. => some .spacer
  | image .. => some .image
  | box .. => some .box
  | table .. => some .table
  | unknown .. => none

/-- The name of a component's kind, known or not. -/
def kindName : Component → String
  | unknown _ name _ => name
  | c => (c.kind?.map Kind.name).getD ""

theorem kindName_of_kind? {c : Component} {k : Kind} (h : c.kind? = some k) : c.kindName = k.name := by
  cases c with
  | unknown => cases h
  | _ =>
    obtain rfl := Option.some.inj h
    rfl

def children : Component → List Component
  | box _ cs => cs
  | _ => []

def style (c : Component) : Style := c.common.style.getD .plain

mutual

/-- A component and all components inside it, from the outside in. -/
def subtree : Component → List Component
  | box c cs => box c cs :: Component.subtrees cs
  | c => [c]

/-- The components of a list and all components inside them, in order. -/
def subtrees : List Component → List Component
  | [] => []
  | c :: cs => c.subtree ++ Component.subtrees cs

end

end Component

/-- All components of a layout, each before those inside it. -/
def Layout.components (layout : Layout) : List Component := Component.subtrees layout

end DocTemplate
