import DocTemplate.Page.File
import DocTemplate.Page.Raster

/-!
# Sketches of pages

A small picture of a page shows its areas, frames and lines in grey, and its text as bars.
-/

namespace DocTemplate.Page

open DocTemplate.Number

/-- An area of one shade. -/
structure Patch where
  left : Float
  bottom : Float
  right : Float
  top : Float
  shade : UInt8

/-- The shades and the font that the next calls use. -/
structure Ink where
  fill : UInt8
  stroke : UInt8
  setting : Setting

/-- The shade of a colour: green counts for most, blue for least. -/
def Color.shade (c : Color) : UInt8 :=
  let n := c.bits.toNat
  ((3 * (n / 0x10000) + 6 * (n / 0x100 % 0x100) + n % 0x100) / 10).toUInt8

/-- How wide lines are shown. -/
def lineWidth : Float := 0.7

/-- The four sides of a frame. -/
def framePatches (x y w h : Float) (shade : UInt8) : List Patch :=
  let r := x + w
  let t := y + h
  [⟨x, y, r, y + lineWidth, shade⟩, ⟨x, t - lineWidth, r, t, shade⟩, ⟨x, y, x + lineWidth, t, shade⟩,
    ⟨r - lineWidth, y, r, t, shade⟩]

def areaPatches (ink : Ink) (x y w h : Float) (stroke fill : Bool) : List Patch :=
  (if fill then [⟨x, y, x + w, y + h, ink.fill⟩] else [])
    ++ (if stroke then framePatches x y w h ink.stroke else [])

/-- The patches of a call, and what the next calls use. -/
def callPatches (ink : Ink) (c : Call Float) : Ink × List Patch :=
  match c with
  | .setTitle _ | .showPage | .setLineWidth _ => (ink, [])
  | .setFillColor color => ({ ink with fill := color.shade }, [])
  | .setStrokeColor color => ({ ink with stroke := color.shade }, [])
  | .setFont name size => ({ ink with setting := ⟨(Face.named? name).getD .regular, size⟩ }, [])
  | .drawText align x y content =>
    let s := ink.setting
    let left := s.leftEnd align x content
    (ink, [⟨left, y, left + s.width content, y + s.size * 0.5, ink.fill⟩])
  | .drawLine x1 y1 x2 y2 => (ink, [⟨x1, y1, x2, y2 + lineWidth, ink.stroke⟩])
  | .drawRect x y w h stroke fill => (ink, areaPatches ink x y w h stroke fill)
  | .drawRoundRect x y w h _ stroke fill => (ink, areaPatches ink x y w h stroke fill)
  | .drawImage x y w h _ => (ink, areaPatches ink x y w h true false)

/-- The patches of a page, the ones drawn last first. -/
def pagePatches (calls : List (Call Float)) : List Patch :=
  (calls.foldl (fun (ink, patches) c =>
    let (ink, more) := callPatches ink c
    (ink, more.reverse ++ patches)) ((⟨0, 0, ⟨.regular, 12.0⟩⟩ : Ink), [])).2

/-- How many pixels the short side of a sketch has at least. -/
def leastPixels : Float := 1200.0

/-- The picture file of a page. -/
def sketchFile (g : Geometry Float) (calls : List (Call Float)) : ByteArray :=
  let zoom := leastPixels / (if g.width < g.height then g.width else g.height)
  let zoom := if zoom < 1.0 then 1.0 else zoom
  let columns := ceilOfFloat (g.width * zoom)
  let rows := ceilOfFloat (g.height * zoom)
  let patches := pagePatches calls
  rasterFile columns ((List.range rows).map fun (j : Nat) =>
    let y := g.height - (ofInt j + 0.5) / zoom
    let here := patches.filter fun p => p.bottom ≤ y && y < p.top
    ⟨Array.ofFn fun i : Fin columns =>
      let x := (ofInt i + 0.5) / zoom
      match here.find? fun p => p.left ≤ x && x < p.right with
      | some p => p.shade
      | none => 0xFF⟩)

end DocTemplate.Page
