import DocTemplate.Page.Drawing
import DocTemplate.Page.Frame

/-!
# Documents on pages

A whole document on pages: a title, the components of a layout from the top of the first page down, and
the end of the last page.
-/

namespace DocTemplate.Page

/-- A drawn document: how many pages it has, and the log. -/
structure Drawn (α : Type) where
  pageCount : Nat
  log : Array (Event α)

def defaultTitle : String := "Document"

variable {α : Type} [Length α]

/-- The state before anything is drawn. -/
def blank (g : Geometry α) : Sheet α := ⟨g.top, 1, #[]⟩

namespace Setup

/-- The beginning of a document. -/
def opening (d : Setup α) : Draw α Unit := do
  call (.setTitle d.title)
  d.startPage

/-- The document that shows a layout. It fails only if its first page cannot be started. -/
def document (d : Setup α) (layout : Layout) : Except Failure (Drawn α) :=
  match d.opening.run.run (blank d.geometry) with
  | (.error f, _) => .error f
  | (.ok (), s) =>
    let s := d.placeAll s layout
    .ok ⟨s.page, s.log.push (.call .showPage)⟩

end Setup

/-- The document that shows a layout for a context. Without a page hook its pages have frames. -/
def drawDocument (g : Geometry α) (p : Preset) (hook : Option (PageHook α)) (pictures : Pictures α)
    (layout : Layout) (context : Value) (title : Option String) : Except Failure (Drawn α) :=
  let setup : Setup α :=
    ⟨g, p, context, (given? title).getD defaultTitle, hook.getD (frameHook g p), pictures⟩
  setup.document layout

end DocTemplate.Page
