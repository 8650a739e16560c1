/-!
# Elements

The body of an HTML document as a tree of elements, and the text of such a tree. Texts and attribute
values are escaped when the tree is printed, and nowhere else; only the height of a gap is printed as it is.
-/

namespace DocTemplate.Html

/-- The elements with content. -/
inductive Tag
  /-- A heading of a level. -/
  | h (level : String)
  | p
  | ul
  | li
  | div
  | span
  | table
  | thead
  | tbody
  | tr
  | th
  | td
deriving DecidableEq, Repr

def Tag.name : Tag → String
  | h level => "h" ++ level
  | p => "p"
  | ul => "ul"
  | li => "li"
  | div => "div"
  | span => "span"
  | table => "table"
  | thead => "thead"
  | tbody => "tbody"
  | tr => "tr"
  | th => "th"
  | td => "td"

/-- The elements without content. -/
inductive VoidTag
  | hr
  | img
deriving DecidableEq, Repr

/-- The name of an element without content. -/
def VoidTag.name : VoidTag → String
  | hr => "hr"
  | img => "img"

/-- The attributes that elements have. -/
inductive Attribute
  | style
  | src
deriving DecidableEq, Repr

def Attribute.name : Attribute → String
  | style => "style"
  | src => "src"

/-- Attributes with their values. -/
abbrev Attributes := List (Attribute × String)

/-- A text or an element. -/
inductive Node where
  | text (s : String)
  | element (tag : Tag) (attributes : Attributes) (children : List Node)
  | void (tag : VoidTag) (attributes : Attributes)
  /-- Nothing, of a height in pixels. -/
  | gap (height : String)

/-- The character entity that stands for a character, or the character. -/
def escapeChar (c : Char) : List Char :=
  if c = '&' then "&amp;".toList
  else if c = '<' then "&lt;".toList
  else if c = '>' then "&gt;".toList
  else if c = '"' then "&quot;".toList
  else if c = '\'' then "&#x27;".toList
  else [c]

/-- Text in which no character begins markup or ends an attribute value. -/
def escape (cs : List Char) : List Char := cs.flatMap escapeChar

def printAttribute (a : Attribute × String) : List Char :=
  ' ' :: a.1.name.toList ++ ['=', '"'] ++ escape a.2.toList ++ ['"']

/-- A name with attributes, as it stands in a tag. -/
def printOpening (name : String) (attributes : Attributes) : List Char :=
  name.toList ++ attributes.flatMap printAttribute

/-- An empty element of a height. -/
def printGap (height : String) : List Char :=
  "<div style=\"height:".toList ++ height.toList ++ "px;\"></div>".toList

mutual

/-- A text or an element as it is written. -/
def Node.print : Node → List Char
  | .text s => escape s.toList
  | .element tag attributes children =>
    '<' :: printOpening tag.name attributes ++ ['>'] ++ printNodes children
      ++ ['<', '/'] ++ tag.name.toList ++ ['>']
  | .void tag attributes => '<' :: printOpening tag.name attributes ++ [' ', '/', '>']
  | .gap height => printGap height

/-- Texts and elements as they are written, one after the other. -/
def printNodes : List Node → List Char
  | [] => []
  | n :: ns => n.print ++ printNodes ns

end

theorem printNodes_append (ms ns : List Node) :
    printNodes (ms ++ ns) = printNodes ms ++ printNodes ns := by
  induction ms with
  | nil => rfl
  | cons m ms ih => simp [printNodes, ih]

end DocTemplate.Html
