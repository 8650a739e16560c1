import DocTemplate.Text.Encoding
import DocTemplate.Value.Failure

/-!
# Pictures

Pictures come inside their address: a media type, a comma, and the bytes of the picture in base 64. Other
addresses are not followed. Whether bytes are a picture is told by a reader that documents are drawn with;
`pngPictures` is one such reader.
-/

namespace DocTemplate.Page

open DocTemplate.Text

/-- What becomes of bytes that should be a picture. -/
inductive PictureReading (α : Type) where
  /-- A picture, and why it cannot be drawn in a size, if it cannot. -/
  | picture (refusal? : (width height : α) → Option Failure)
  | noPicture
  | failed (f : Failure)

/-- A reader of pictures. -/
abbrev Pictures (α : Type) := List UInt8 → PictureReading α

/-- The bytes that every PNG picture begins with. -/
def pngSignature : List UInt8 := [0x89, 0x50, 0x4E, 0x47, 0x0D, 0x0A, 0x1A, 0x0A]

/-- PNG pictures, all of which can be drawn. -/
def pngPictures {α : Type} : Pictures α := fun bytes =>
  if pngSignature.isPrefixOf bytes then .picture fun _ _ => none else .noPicture

/-- Whether a run of characters stands anywhere in a text. -/
def hasRun (run : List Char) : List Char → Bool
  | [] => run.isEmpty
  | c :: cs => run.isPrefixOf (c :: cs) || hasRun run cs

/-- The bytes in an address, if there are any. -/
def bytesIn? (address : String) : Option (List UInt8) :=
  let cs := address.toList
  let media := cs.takeWhile (· != ',')
  match cs.dropWhile (· != ',') with
  | [] => none
  | _ :: payload =>
    if "data:".toList.isPrefixOf media && hasRun ";base64".toList media then decodeBase64? payload
    else none

/-- What becomes of an address that should hold a picture. -/
def Pictures.at {α : Type} (pictures : Pictures α) (address : String) : PictureReading α :=
  match bytesIn? address with
  | some bytes => pictures bytes
  | none => .noPicture

end DocTemplate.Page
