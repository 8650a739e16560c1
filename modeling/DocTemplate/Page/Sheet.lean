import DocTemplate.Page.Call
import DocTemplate.Page.Geometry
import DocTemplate.Page.Op
import DocTemplate.Page.Picture
import DocTemplate.Page.Preset
import DocTemplate.Page.Wrap

/-!
# Drawing state

Drawing goes down a page and on to the next one. Its state is a cursor and a log in which calls on the
canvas, drawn parts and page starts stand in the order in which they came about. A failure ends what
is being drawn, and keeps the state reached.
-/

namespace DocTemplate.Page

/-- An entry of the log. -/
inductive Event (α : Type) where
  | call (c : Call α)
  | op (o : Op α)
  | pageStart (page : Nat) (title : String)

/-- The cursor, the number of the page it is on, and the log. -/
structure Sheet (α : Type) where
  y : α
  page : Nat
  log : Array (Event α)

def callsOf {α : Type} (log : Array (Event α)) : List (Call α) :=
  log.toList.filterMap fun
    | .call c => some c
    | _ => none

/-- The drawn parts in a log. -/
def opsOf {α : Type} (log : Array (Event α)) : List (Op α) :=
  log.toList.filterMap fun
    | .op o => some o
    | _ => none

def pageStartsOf {α : Type} (log : Array (Event α)) : List (Nat × String) :=
  log.toList.filterMap fun
    | .pageStart page title => some (page, title)
    | _ => none

abbrev Draw (α : Type) := ExceptT Failure (StateM (Sheet α))

/-- What is done at the start of a page, given its number and the title: calls on the canvas, and a
failure after them if there is one. -/
abbrev PageHook (α : Type) := (page : Nat) → (title : String) → List (Call α) × Option Failure

def PageHook.idle {α : Type} : PageHook α := fun _ _ => ([], none)

/-- What a document is drawn with. -/
structure Setup (α : Type) where
  geometry : Geometry α
  preset : Preset
  context : Value
  title : String
  hook : PageHook α
  pictures : Pictures α

variable {α : Type} [Length α]

/-- An entry is added to the log. -/
def note (e : Event α) : Draw α Unit := modify fun s => { s with log := s.log.push e }

/-- A call is made on the canvas; one that is refused is in the log, and fails. -/
def call (c : Call α) : Draw α Unit := do
  note (.call c)
  match c.refusal? with
  | some f => throw f
  | none => pure ()

/-- Calls are made on the canvas, one after the other. -/
def callAll : List (Call α) → Draw α Unit
  | [] => pure ()
  | c :: cs => do
    call c
    callAll cs

/-- Something drawn on the page of the cursor is added to the log. -/
def record (shape : Shape α) (x y width height : α) (role : Role) : Draw α Unit := do
  let s ← get
  note (.op ⟨shape, s.page, x, y, width, height, role⟩)

/-- The cursor goes down. -/
def moveDown (h : α) : Draw α Unit := modify fun s => { s with y := s.y - h }

def drawText (align : Align) (x y : α) (content font : String) (size : α) (color : Color)
    (role : Role) : Draw α Unit := do
  call (.setFillColor color)
  call (.setFont font size)
  call (.drawText align x y content)
  let face := (Face.named? font).getD .regular
  record (.text content font size) x y (face.width size content.toList) size role

/-- A level line is drawn. -/
def drawLine (x1 y x2 : α) (color : Color) (role : Role) : Draw α Unit := do
  call (.setStrokeColor color)
  call (.setLineWidth 1.0)
  call (.drawLine x1 y x2 y)
  record .line x1 y (x2 - x1) 0.0 role

def drawFrame (x y width height : α) (color : Color) (lineWidth : α) (role : Role) : Draw α Unit := do
  call (.setStrokeColor color)
  call (.setLineWidth lineWidth)
  call (.drawRect x y width height true false)
  record .rect x y width height role

/-- A filled area with round corners is drawn; with a radius of zero its corners are square. -/
def drawPlate (x y width height radius : α) (color : Color) (role : Role) : Draw α Unit := do
  call (.setFillColor color)
  if radius ≤ 0.0 ∧ 0.0 ≤ radius then call (.drawRect x y width height false true)
  else call (.drawRoundRect x y width height radius false true)
  record .rect x y width height role

namespace Setup

variable (d : Setup α)

def startPage : Draw α Unit := do
  let s ← get
  note (.pageStart s.page d.title)
  let (calls, failure?) := d.hook s.page d.title
  callAll calls
  match failure? with
  | some f => throw f
  | none => pure ()

/-- The page is ended and the next one started. -/
def newPage : Draw α Unit := do
  call .showPage
  modify fun s => { s with page := s.page + 1, y := d.geometry.top }
  d.startPage

/-- Room is made for a height: a new page is started if the height does not fit above the margin. Where
nothing has been used of a page, nothing is gained by a new one. -/
def ensureSpace (height : α) : Draw α Unit := do
  let s ← get
  if s.y - height < d.geometry.margin ∧ s.y < d.geometry.top then d.newPage

def size (s : SizeSetting) : Draw α α := do
  let x ← d.preset.size s
  pure (Length.ofFloat x)

end Setup

end DocTemplate.Page
