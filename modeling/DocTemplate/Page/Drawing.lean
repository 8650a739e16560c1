import DocTemplate.Layout.Namesake
import DocTemplate.Layout.Visible
import DocTemplate.Page.Sheet

/-!
# Drawing components

Each kind of component is drawn from the cursor down. A failure ends the component in which it comes
about and nothing else; what was drawn before it stays.
-/

namespace DocTemplate.Page

open DocTemplate.Text

/-- The alignment that a style asks for; all but two ask for the left. -/
def alignOf (s : Style) : Align := (s.align.bind Align.named?).getD .left

/-- The colour that a style asks for. -/
def inkOf? (color : Option String) : Option Color := color.bind fun s => Color.read? s.toList

variable {α : Type} [Length α]

/-- The lines of text in a font. Text without words has lines in any font, even one that there is not. -/
def linesIn (font : String) (size width : α) (cs : List Char) : Except Failure (List (List Char)) :=
  match Face.named? font with
  | some face => .ok (wrap ⟨face.width size, width⟩ cs)
  | none => if cs.all isBlank then .ok ((pieces '\n' cs).map fun _ => []) else .error (.unknownFace font)

/-- The size at which text in a font fits a width; text without characters keeps its size. -/
def sizeToFit (font : String) (base width : α) (cs : List Char) : Except Failure α :=
  if cs.isEmpty then .ok base
  else match Face.named? font with
    | some face => .ok (fitSize (fun size => face.width size cs) width base)
    | none => if leastSize < base then .error (.unknownFace font) else .ok leastSize

structure ChipMeasures (α : Type) where
  font : String
  size : α
  padX : α
  padY : α
  gap : α

def ChipMeasures.height (m : ChipMeasures α) : α := m.size + 2.0 * m.padY

def ChipMeasures.rowHeight (m : ChipMeasures α) : α := m.height + m.gap

def chipWidth (m : ChipMeasures α) (label : String) : Except Failure α :=
  match Face.named? m.font with
  | some face => .ok (face.width m.size label.toList + 2.0 * m.padX)
  | none => .error (.unknownFace m.font)

/-- The head of a column: its label, or else its key. -/
def headText (c : Column) : String := if c.label = "" then c.key else c.label

/-- The state after an action, whether it fails or not. -/
def after (action : Draw α Unit) (s : Sheet α) : Sheet α := (action.run.run s).2

/-- The room that a style leaves below a component. -/
def leaveMargin (style : Style) (s : Sheet α) : Sheet α :=
  match nonzero? style.marginBottom with
  | some x => { s with y := s.y - Length.ofFloat x }
  | none => s

namespace Setup

variable (d : Setup α)

/-- Where text of an alignment is anchored. -/
def anchor : Align → α
  | .left => d.geometry.left
  | .center => d.geometry.left + d.geometry.contentWidth / 2.0
  | .right => d.geometry.right

/-- A size that is given, or one of the preset. -/
def givenOr (x : Option Float) (s : SizeSetting) : Draw α α :=
  match x with
  | some x => pure (Length.ofFloat x)
  | none => d.size s

/-- A size that a component sets, or one of the preset. -/
def sizeOr (x : Option Float) (s : SizeSetting) : Draw α α := d.givenOr (nonzero? x) s

/-- Lines of text are drawn, each below the one before it. -/
def drawEach (align : Align) (font : String) (size lineHeight : α) (color : Color) (role : Role) :
    List (List Char) → Draw α Unit
  | [] => pure ()
  | line :: lines => do
    d.ensureSpace lineHeight
    let s ← get
    drawText align (d.anchor align) (s.y - size) (String.ofList line) font size color role
    moveDown lineHeight
    drawEach align font size lineHeight color role lines

/-- Text is drawn in lines. -/
def drawLines (content : String) (size : α) (bold italic : Bool) (style : Style) (role : Role) :
    Draw α Unit := do
  let font ← d.preset.font bold italic
  let gap ← d.size .lineGap
  let color := (inkOf? style.color).getD (d.preset.color .text)
  let lines ← linesIn font size d.geometry.contentWidth content.toList
  d.drawEach (alignOf style) font size (size + gap) color role lines

def drawHeading (c : Common) (style : Style) (level : String) : Draw α Unit := do
  let size ← match nonzero? style.fontSize with
    | some x => pure x
    | none => d.preset.headingSize level
  let content ← interpolate c.text d.context
  d.drawLines content (Length.ofFloat size) true style.italic style .heading

def drawParagraph (c : Common) (style : Style) : Draw α Unit := do
  let size ← d.sizeOr style.fontSize .bodySize
  let content ← interpolate c.text d.context
  d.drawLines content size style.bold style.italic style .text

/-- Items of a list are drawn; one without text is passed over. -/
def drawItems (style : Style) (size : α) (bullet : String) : List ListItem → Draw α Unit
  | [] => pure ()
  | item :: items => do
    let content ← item.shown d.context
    if content ≠ "" then
      d.drawLines (bullet ++ " " ++ content) size style.bold style.italic style .listItem
    drawItems style size bullet items

def drawList (style : Style) (items : List ListItem) : Draw α Unit := do
  let size ← d.sizeOr style.fontSize .bodySize
  let bullet ← d.preset.bullet
  d.drawItems style size bullet items

def chipColor (c : Chip) : Color :=
  match given? c.color with
  | some s => (Color.read? s.toList).getD .black
  | none => d.preset.color .chip

/-- A chip is drawn at a place in the row of the cursor. -/
def drawChip (m : ChipMeasures α) (style : Style) (c : Chip) (label : String) (x width : α) :
    Draw α Unit := do
  let s ← get
  let bottom := s.y - m.height
  drawPlate x bottom width m.height (m.height / 2.0) (d.chipColor c) .chip
  drawText .left (x + m.padX) (bottom + m.padY + m.size * 0.2) label m.font m.size
    ((inkOf? style.color).getD (d.preset.color .text)) .chipLabel

/-- Chips are drawn in rows. The row that is open, if one is, goes on at a place; the row below is
begun where a chip does not fit into it. -/
def drawChips (m : ChipMeasures α) (style : Style) : Option α → List Chip → Draw α Unit
  | row?, [] =>
    match row? with
    | some _ => moveDown m.rowHeight
    | none => pure ()
  | row?, c :: chips => do
    let label ← interpolate c.label d.context
    if label = "" then drawChips m style row? chips
    else
      let width ← chipWidth m label
      let place? := row?.filter fun x => !(d.geometry.right < x + width)
      match place? with
      | some x =>
        d.drawChip m style c label x width
        drawChips m style (some (x + (width + m.gap))) chips
      | none =>
        if row?.isSome then moveDown m.rowHeight
        d.ensureSpace m.rowHeight
        d.drawChip m style c label d.geometry.left width
        drawChips m style (some (d.geometry.left + (width + m.gap))) chips

/-- A component of chips is drawn. -/
def drawChipRows (style : Style) (chips : List Chip) : Draw α Unit := do
  let size ← d.sizeOr style.fontSize .chipSize
  let padX ← d.size .chipPadX
  let padY ← d.size .chipPadY
  let gap ← d.size .chipGap
  let font ← d.preset.font style.bold style.italic
  d.drawChips ⟨font, size, padX, padY, gap⟩ style none chips

def drawDivider : Draw α Unit := do
  let height ← d.size .dividerHeight
  d.ensureSpace height
  let s ← get
  drawLine d.geometry.left (s.y - height / 2.0) d.geometry.right (d.preset.color .rule) .divider
  moveDown height

/-- Room is left. -/
def drawSpacer (size : α) : Draw α Unit := do
  d.ensureSpace size
  moveDown size

/-- The picture at an address is drawn, or a frame in its place if there is none. An address that there is
not fails when room has been made. -/
def drawPicture (address : Except Failure String) (width height : Option Float) : Draw α Unit := do
  let w ← d.givenOr width .imageWidth
  let h ← d.givenOr height .imageHeight
  let w := smaller w d.geometry.contentWidth
  let h := smaller h d.geometry.contentHeight
  d.ensureSpace h
  let s ← get
  let bottom := s.y - h
  let source ← address
  match d.pictures.at source with
  | .picture refusal? =>
    call (.drawImage d.geometry.left bottom w h (refusal? w h))
    record .image d.geometry.left bottom w h .image
  | .noPicture =>
    drawFrame d.geometry.left bottom w h (d.preset.color .border) 1.0 .imagePlaceholder
  | .failed f => throw f
  moveDown h

/-- An image is drawn; without an address nothing is. -/
def drawImage (c : Common) (url : Option String) (width height : Option Float) : Draw α Unit := do
  let source ← imageSource d.context url c.binding
  if source ≠ "" then d.drawPicture (.ok source) (nonzero? width) (nonzero? height)

/-- The width and colour of the border of a box. -/
def borderOf (style : Style) : α × Color :=
  let width := nonzero? (style.border.bind (·.width))
  let color := match given? (style.border.bind (·.color)) with
    | some s => (Color.read? s.toList).getD .black
    | none => d.preset.color .border
  ((width.map Length.ofFloat).getD 1.0, color)

/-- A box is drawn around what it holds. Its border covers what is on the page where it ends. -/
def drawBox (style : Style) (inside : Draw α Unit) : Draw α Unit := do
  let pad ← match style.padding with
    | some x => pure (Length.ofFloat x)
    | none => d.size .boxPadding
  let inset ← d.size .boxInset
  let start ← get
  moveDown pad
  inside
  moveDown pad
  let s ← get
  let top := if s.page ≠ start.page then d.geometry.top else start.y
  let (width, color) := d.borderOf style
  drawFrame (d.geometry.left - inset) s.y (d.geometry.contentWidth + 2.0 * inset) (top - s.y) color
    width .boxBorder

/-- The cells of a row are drawn, in slots of equal width from an index on. -/
def drawCells (slot rowHeight : α) (font : String) (base : α) (role : Role) (index : Nat) :
    List (Column × Except Failure String) → Draw α Unit
  | [] => pure ()
  | (column, content) :: cells => do
    let content ← content
    let pad ← d.size .tableCellPad
    let size ← sizeToFit font base (slot - 2.0 * pad) content.toList
    let left := d.geometry.left + Length.ofNat index * slot
    let align := column.align.getD .left
    let x := match align with
      | .right => left + slot - pad
      | .center => left + slot / 2.0
      | .left => left + pad
    let s ← get
    drawText align x (s.y - (rowHeight + size * 0.6) / 2.0) content font size
      (d.preset.color .text) role
    drawCells slot rowHeight font base role (index + 1) cells

/-- The head of a table is drawn. -/
def drawHead (slot rowHeight : α) (columns : List Column) : Draw α Unit := do
  d.ensureSpace rowHeight
  let font ← d.preset.font true false
  let size ← d.size .tableHeaderSize
  d.drawCells slot rowHeight font size .tableHeader 0 (columns.map fun c => (c, .ok (headText c)))
  let s ← get
  drawLine d.geometry.left (s.y - rowHeight) d.geometry.right (d.preset.color .rule) .tableRule
  moveDown rowHeight

/-- The rows of a table are drawn; no row is divided between pages. -/
def drawRows (slot rowHeight : α) (font : String) (size : α) (columns : List Column) :
    List Value → Draw α Unit
  | [] => pure ()
  | row :: rows => do
    d.ensureSpace rowHeight
    d.drawCells slot rowHeight font size .tableCell 0 (columns.map fun c => (c, c.shown row))
    let s ← get
    record .row d.geometry.left (s.y - rowHeight) d.geometry.contentWidth rowHeight .tableRow
    moveDown rowHeight
    drawRows slot rowHeight font size columns rows

def drawTable (path : Option String) (columns : List Column) (showHeader : Bool) : Draw α Unit := do
  let rows ← tableRows d.context path
  let rowHeight ← d.size .tableRowHeight
  let slot := d.geometry.contentWidth / Length.ofNat (max columns.length 1)
  if showHeader then d.drawHead slot rowHeight columns
  let font ← d.preset.font false false
  let size ← d.size .tableCellSize
  d.drawRows slot rowHeight font size columns rows

/-- An image is drawn by extra fields. -/
def drawNamesakeImage (c : Common) (extras : Fields) : Draw α Unit := do
  let source ← Namesake.source extras d.context c.binding
  if source.isTruthy then
    let width ← Namesake.extent extras "width"
    let height ← Namesake.extent extras "height"
    d.drawPicture source.asAddress width height

/-- A table is drawn by extra fields. A column fails where the first row begins. -/
def drawNamesakeTable (extras : Fields) : Draw α Unit := do
  let columns ← Namesake.columnCount? extras
  let path ← Namesake.rowsPath extras
  let showHeader ← Namesake.showsHeader extras
  match columns with
  | none => throw .wrongKind
  | some 0 => d.drawTable path [] showHeader
  | some _ => do
    let rows ← tableRows d.context path
    let rowHeight ← d.size .tableRowHeight
    if showHeader || !rows.isEmpty then do
      d.ensureSpace rowHeight
      throw .missingMember

/-- What a component draws that has only the name of a kind, by its extra fields. -/
def drawNamesake (c : Common) (style : Style) (extras : Fields) : Kind → Draw α Unit
  | .heading => do
    let level ← Namesake.level extras
    d.drawHeading c style level
  | .text => d.drawParagraph c style
  | .list => do
    Namesake.noItems extras
    d.drawList style []
  | .chips => do
    Namesake.noItems extras
    d.drawChipRows style []
  | .divider => d.drawDivider
  | .spacer => do
    let size ← Namesake.room extras
    d.drawSpacer (Length.ofFloat size)
  | .image => d.drawNamesakeImage c extras
  | .box => d.drawBox style (liftM (Namesake.insides extras))
  | .table => d.drawNamesakeTable extras

/-- What a component draws, given what is drawn for its children. -/
def drawKind (children : Draw α Unit) (c : Component) : Draw α Unit :=
  match c with
  | .heading common level => d.drawHeading common c.style (toString (headingLevel level))
  | .text common => d.drawParagraph common c.style
  | .list _ items => d.drawList c.style items
  | .chips _ chips => d.drawChipRows c.style chips
  | .divider _ => d.drawDivider
  | .spacer _ size => d.drawSpacer (Length.ofFloat size)
  | .image common url width height => d.drawImage common url width height
  | .box _ _ => d.drawBox c.style children
  | .table _ path columns showHeader => d.drawTable path columns showHeader
  | .unknown common name extras =>
    match Kind.named? name with
    | some kind => d.drawNamesake common c.style extras kind
    | none => pure ()

/-- The state after a component is drawn: nothing happens for one that is hidden or has the name of no
known kind. The margin below a component is left also where drawing it has failed. -/
def place (children : Draw α Unit) (c : Component) (s : Sheet α) : Sheet α :=
  if c.shownKind?.isNone then s
  else match c.isVisible d.context with
    | .ok false => s
    | .ok true => leaveMargin c.style (after (d.drawKind children c) s)
    | .error _ => leaveMargin c.style s

mutual

/-- The state after a component and what it holds are drawn. -/
def placeComponent (s : Sheet α) : Component → Sheet α
  | .box common children =>
    d.place (modify fun s => placeAll s children) (.box common children) s
  | c => d.place (pure ()) c s

/-- The state after components are drawn, one below the other. -/
def placeAll (s : Sheet α) : List Component → Sheet α
  | [] => s
  | c :: cs => placeAll (placeComponent s c) cs

end

end Setup

end DocTemplate.Page
