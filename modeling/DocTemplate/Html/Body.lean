import DocTemplate.Html.Css
import DocTemplate.Html.Node
import DocTemplate.Layout.Namesake
import DocTemplate.Layout.Visible

/-!
# Components as elements

The elements that show a layout for a context. A component that is hidden, or has the name of no known kind,
or in which something goes wrong has none.
-/

namespace DocTemplate.Html

def styled (tag : Tag) (style : String) (children : List Node) : Node :=
  .element tag [(.style, style)] children

def headingNodes (context : Value) (c : Common) (style level : String) : Except Failure (List Node) := do
  let s ← interpolate c.text context
  .ok [styled (.h level) style [.text s]]

def paragraphNodes (context : Value) (c : Common) (style : String) : Except Failure (List Node) := do
  let s ← interpolate c.text context
  .ok [styled .p style [.text s]]

def rule (style : String) : Node :=
  .void .hr [(.style, "border:0;border-top:1px solid " ++ lineColor ++ ";" ++ style)]

/-- The element of a box around what is inside it. -/
def frame (style : String) (children : List Node) : Node :=
  styled .div ("border:1px solid " ++ lineColor ++ ";border-radius:8px;padding:12px;" ++ style) children

/-- The items of a list; an item without text has no element. -/
def listItems (context : Value) (items : List ListItem) : Except Failure (List Node) := do
  let shown ← items.mapM (·.shown context)
  .ok ((shown.filter (· != "")).map fun s => .element .li [] [.text s])

def chipStyle (c : Chip) : String :=
  "display:inline-block;padding:4px 8px;border-radius:12px;margin-right:6px;background:"
    ++ (given? c.color).getD lineColor ++ ";"

/-- A chip; without a label it has no element. -/
def chipNodes (context : Value) (c : Chip) : Except Failure (List Node) := do
  let label ← interpolate c.label context
  .ok (if label = "" then [] else [styled .span (chipStyle c) [.text label]])

def imageStyle (width height : Option Float) (style : String) : String :=
  ((nonzero? width).map fun x => "width:" ++ pixels x ++ ";").getD ""
    ++ ((nonzero? height).map fun x => "height:" ++ pixels x ++ ";").getD ""
    ++ style

/-- An image; without a source it has no element. -/
def imageNodes (source style : String) : List Node :=
  if source = "" then [] else [.void .img [(.src, source), (.style, style)]]

def alignDeclaration (c : Column) : String := "text-align:" ++ (c.align.getD .left).name ++ ";"

def headCell (c : Column) : Node :=
  let width :=
    ((nonzero? c.width).map fun x => "width:" ++ String.ofList (Number.wholeOrFull x) ++ "%;").getD ""
  styled .th (alignDeclaration c ++ width ++ "border-bottom:1px solid " ++ lineColor
    ++ ";padding:6px 8px;") [.text c.label]

def bodyRow (columns : List Column) (row : Value) : Except Failure Node := do
  let cells ← columns.mapM fun c => do
    let s ← c.shown row
    .ok (styled .td (alignDeclaration c ++ "padding:6px 8px;border-bottom:1px solid #f1f5f9;") [.text s])
  .ok (.element .tr [] cells)

/-- The parts of a table: its head, if that is shown, and its body. -/
def tableNodes (context : Value) (path : Option String) (columns : List Column) (showHeader : Bool) :
    Except Failure (List Node) := do
  let rows ← tableRows context path
  let body ← rows.mapM (bodyRow columns)
  let head := if showHeader then [.element .thead [] [.element .tr [] (columns.map headCell)]] else []
  .ok (head ++ [.element .tbody [] body])

def grid (style : String) (parts : List Node) : Node :=
  styled .table ("width:100%;border-collapse:collapse;" ++ style) parts

/-- A width or height that an extra field sets. -/
def extentDeclaration (extras : Fields) (name : String) : Except Failure String := do
  let v ← extras.member name
  if v.isTruthy then v.plain.map fun s => name ++ ":" ++ s ++ "px;" else .ok ""

/-- The elements of a component that has only the name of a kind, by its extra fields. -/
def namesakeNodes (context : Value) (c : Common) (style : String) (extras : Fields) :
    Kind → Except Failure (List Node)
  | .heading => Namesake.level extras >>= headingNodes context c style
  | .text => paragraphNodes context c style
  | .list => do
    Namesake.noItems extras
    .ok [styled .ul style []]
  | .chips => do
    Namesake.noItems extras
    .ok [styled .div style []]
  | .divider => .ok [rule style]
  | .spacer => (Namesake.gap extras).map fun height => [.gap height]
  | .image => do
    let source ← Namesake.source extras context c.binding
    if source.isTruthy then
      let width ← extentDeclaration extras "width"
      let height ← extentDeclaration extras "height"
      let address ← source.shown
      .ok [.void .img [(.src, String.ofList address), (.style, width ++ height ++ style)]]
    else .ok []
  | .box => do
    Namesake.insides extras
    .ok [frame style []]
  | .table => do
    let columns ← Namesake.columnCount? extras
    let path ← Namesake.rowsPath extras
    let showHeader ← Namesake.showsHeader extras
    let rows ← tableRows context path
    if columns ≠ some 0 ∧ (showHeader || !rows.isEmpty) then .error .missingMember
    else do
      let parts ← tableNodes context path [] showHeader
      .ok [grid style parts]

/-- The elements of a component that is shown, given those of its children. -/
def shownNodes (context : Value) (children : List Node) (c : Component) :
    Except Failure (List Node) :=
  let style := css c.style
  match c with
  | .heading common level => headingNodes context common style (toString (headingLevel level))
  | .text common => paragraphNodes context common style
  | .list _ items => do
    let items ← listItems context items
    .ok [styled .ul style items]
  | .chips _ chips => do
    let spans ← chips.mapM (chipNodes context)
    .ok [styled .div style spans.flatten]
  | .divider _ => .ok [rule style]
  | .spacer _ size => .ok [.gap (String.ofList (Number.wholeOrFull size))]
  | .image common url width height => do
    let source ← imageSource context url common.binding
    .ok (imageNodes source (imageStyle width height style))
  | .box _ _ => .ok [frame style children]
  | .table _ path columns showHeader => do
    let parts ← tableNodes context path columns showHeader
    .ok [grid style parts]
  | .unknown common name extras =>
    match Kind.named? name with
    | some kind => namesakeNodes context common style extras kind
    | none => .ok []

/-- The elements of a component, given those of its children: none if it is hidden, or if something
goes wrong. -/
def contained (context : Value) (children : List Node) (c : Component) : List Node :=
  match c.isVisible context with
  | .ok true => (shownNodes context children c).toOption.getD []
  | _ => []

/-- A component that has the name of no known kind has no elements, visible or not. -/
theorem contained_of_shownKind?_none {context : Value} {children : List Node} {c : Component}
    (h : c.shownKind? = none) : contained context children c = [] := by
  cases c with
  | unknown common name extras =>
    have hnodes : shownNodes context children (.unknown common name extras) = .ok [] := by
      rw [shownNodes, show Kind.named? name = none from h]
    rw [contained, hnodes]
    split <;> rfl
  | _ => cases Component.kind?_of_shownKind?_none h

mutual

def nodes (context : Value) : Component → List Node
  | .box common children => contained context (nodesOfAll context children) (.box common children)
  | c => contained context [] c

/-- The elements of components, one after the other. -/
def nodesOfAll (context : Value) : List Component → List Node
  | [] => []
  | c :: cs => nodes context c ++ nodesOfAll context cs

end

def body (layout : Layout) (context : Value) : List Node := nodesOfAll context layout

end DocTemplate.Html
