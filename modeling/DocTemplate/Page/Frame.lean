import DocTemplate.Page.Sheet

/-!
# The frame of a page

What stands on every page outside its content: the title and a rule above it, and the page number below
it.
-/

namespace DocTemplate.Page

variable {α : Type} [Length α]

/-- The calls for the title and the rule above the content. -/
def header (g : Geometry α) (p : Preset) (font title : String) (size : α) : List (Call α) :=
  let y := g.top + 8.0
  [.setStrokeColor (p.color .border),
    .setLineWidth 1.0,
    .drawLine g.left y g.right y,
    .setFont font size,
    .setFillColor (p.color .muted),
    .drawText .left g.left (g.top + 16.0) title]

/-- The calls for the page number below the content. -/
def footer (g : Geometry α) (font : String) (page : Int) (size : α) : List (Call α) :=
  [.setFont font size, .drawText .right g.right (g.margin * 0.45) ("Page " ++ toString page)]

/-- The calls for the frame of a page. A size that is no number fails where it is needed. -/
def frame (g : Geometry α) (p : Preset) (page : Int) (title : String) :
    List (Call α) × Option Failure :=
  match p.font false false, p.size .headerSize with
  | .error f, _ => ([], some f)
  | .ok _, .error f => ([], some f)
  | .ok font, .ok size =>
    let above := header g p font title (Length.ofFloat size)
    match p.size .footerSize with
    | .error f => (above, some f)
    | .ok size => (above ++ footer g font page (Length.ofFloat size), none)

def frameHook (g : Geometry α) (p : Preset) : PageHook α := fun page title => frame g p page title

end DocTemplate.Page
