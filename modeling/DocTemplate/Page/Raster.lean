/-!
# Raster pictures

Pictures in shades of grey, row by row, as PNG files. The rows are not compressed: each of them is a
stored block of its own.
-/

namespace DocTemplate.Page

/-- A number in four bytes, the most significant one first. -/
def bytes32 (n : UInt32) : ByteArray :=
  ⟨#[(n >>> 24).toUInt8, (n >>> 16).toUInt8, (n >>> 8).toUInt8, n.toUInt8]⟩

/-- A number in two bytes, the least significant one first. -/
def bytes16 (n : UInt16) : ByteArray := ⟨#[n.toUInt8, (n >>> 8).toUInt8]⟩

/-- A remainder of the checksum of a chunk after one more bit. -/
def checkBit (r : UInt32) : UInt32 := if r &&& 1 = 1 then (r >>> 1) ^^^ 0xEDB88320 else r >>> 1

/-- A remainder of the checksum of a chunk after one more byte. -/
def checkByte (r : UInt32) (b : UInt8) : UInt32 :=
  Nat.repeat checkBit 8 (r ^^^ b.toUInt32)

def chunkChecksum (bs : ByteArray) : UInt32 := bs.foldl checkByte 0xFFFFFFFF ^^^ 0xFFFFFFFF

/-- A chunk of a picture file. -/
def chunk (name : String) (content : ByteArray) : ByteArray :=
  let body := name.toUTF8 ++ content
  bytes32 content.size.toUInt32 ++ body ++ bytes32 (chunkChecksum body)

/-- The two sums of the checksum of a stream after one more byte. -/
def sumByte (s : UInt32 × UInt32) (b : UInt8) : UInt32 × UInt32 :=
  let low := (s.1 + b.toUInt32) % 65521
  (low, (s.2 + low) % 65521)

def storedRows (rows : List ByteArray) : ByteArray :=
  let last : ByteArray := ⟨#[1, 0, 0, 0xFF, 0xFF]⟩
  let blocks := rows.foldl (fun out row =>
    out ++ ⟨#[0]⟩ ++ bytes16 row.size.toUInt16 ++ bytes16 (row.size.toUInt16 ^^^ 0xFFFF) ++ row)
    (⟨#[0x78, 0x01]⟩ : ByteArray)
  let (low, high) := rows.foldl (fun s row => row.foldl sumByte s) (1, 0)
  blocks ++ last ++ bytes32 ((high <<< 16) ||| low)

/-- The bytes that every picture file begins with. -/
def rasterSignature : ByteArray := ⟨#[0x89, 0x50, 0x4E, 0x47, 0x0D, 0x0A, 0x1A, 0x0A]⟩

/-- A picture file, given the width of the rows. -/
def rasterFile (width : Nat) (rows : List ByteArray) : ByteArray :=
  let header := bytes32 width.toUInt32 ++ bytes32 rows.length.toUInt32 ++ ⟨#[8, 0, 0, 0, 0]⟩
  rasterSignature ++ chunk "IHDR" header
    ++ chunk "IDAT" (storedRows (rows.map fun row => (⟨#[0]⟩ : ByteArray) ++ row))
    ++ chunk "IEND" .empty

end DocTemplate.Page
