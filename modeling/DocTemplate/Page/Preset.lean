import DocTemplate.Page.Color
import DocTemplate.Value.Size

/-!
# Presets

A preset is a record of the sizes, colours and fonts of pages. What it does not set has a standard
value. A setting that is no number fails only where it is used.
-/

namespace DocTemplate.Page

/-- The sizes that can be set. -/
inductive SizeSetting
  | headerSize
  | footerSize
  | bodySize
  | lineGap
  | chipSize
  | chipPadX
  | chipPadY
  | chipGap
  | dividerHeight
  | imageWidth
  | imageHeight
  | boxPadding
  | boxInset
  | tableHeaderSize
  | tableCellSize
  | tableRowHeight
  | tableCellPad
deriving DecidableEq, Repr

/-- The name of a size and its standard value. -/
def SizeSetting.entry : SizeSetting → String × Nat
  | headerSize => ("header_size", 9)
  | footerSize => ("footer_size", 8)
  | bodySize => ("body_size", 12)
  | lineGap => ("line_gap", 6)
  | chipSize => ("chip_size", 11)
  | chipPadX => ("chip_pad_x", 8)
  | chipPadY => ("chip_pad_y", 4)
  | chipGap => ("chip_gap", 6)
  | dividerHeight => ("divider_height", 12)
  | imageWidth => ("image_width", 96)
  | imageHeight => ("image_height", 96)
  | boxPadding => ("box_padding", 6)
  | boxInset => ("box_inset", 4)
  | tableHeaderSize => ("table_header_size", 10)
  | tableCellSize => ("table_cell_size", 11)
  | tableRowHeight => ("table_row_height", 18)
  | tableCellPad => ("table_cell_pad", 4)

/-- The colours that can be set. -/
inductive ColorSetting
  | text
  | muted
  | rule
  | border
  | chip
deriving DecidableEq, Repr

/-- The name of a colour and its standard value. -/
def ColorSetting.entry : ColorSetting → String × String
  | text => ("text_color", "#0F172A")
  | muted => ("muted_color", "#64748B")
  | rule => ("rule_color", "#D9E3F2")
  | border => ("border_color", "#E2E8F0")
  | chip => ("chip_color", "#E2E8F0")

/-- The name and standard value of the font for text that is bold, italic, both or neither. -/
def fontEntry (bold italic : Bool) : String × String :=
  match bold, italic with
  | true, true => ("font_bold_italic", "Helvetica-BoldOblique")
  | true, false => ("font_bold", "Helvetica-Bold")
  | false, true => ("font_italic", "Helvetica-Oblique")
  | false, false => ("font_name", "Helvetica")

/-- A record of settings. -/
abbrev Preset := Fields

namespace Preset

/-- A setting, or its standard value. -/
def setting (p : Preset) (name : String) (standard : Value) : Value := (p.get? name).getD standard

def size (p : Preset) (s : SizeSetting) : Except Failure Float :=
  (p.setting s.entry.1 (.int s.entry.2)).toSize

def headingSize (p : Preset) (level : String) : Except Failure Float :=
  match p.setting "heading_sizes" (.record []) with
  | .record sizes => ((Fields.get? sizes level).getD (.int 18)).toSize
  | _ => .error .missingMember

/-- A colour; a setting that is no colour is black. -/
def color (p : Preset) (s : ColorSetting) : Color :=
  (Color.ofValue? (p.setting s.entry.1 (.text s.entry.2))).getD .black

def font (p : Preset) (bold italic : Bool) : Except Failure String :=
  (p.setting (fontEntry bold italic).1 (.text (fontEntry bold italic).2)).shown.map String.ofList

/-- What stands before the items of a list. -/
def bullet (p : Preset) : Except Failure String :=
  (p.setting "list_bullet" (.text "•")).shown.map String.ofList

/-- The preset in use: four sizes of headings, and otherwise standard values. -/
def standard : Preset :=
  [("heading_sizes", .record [("1", .int 22), ("2", .int 18), ("3", .int 15), ("4", .int 13)])]

end Preset

end DocTemplate.Page
