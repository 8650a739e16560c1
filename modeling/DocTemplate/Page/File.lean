import DocTemplate.Page.Document

/-!
# Page files

A drawn document as a PDF file: numbered objects, a table of where each of them begins, and a trailer.
The whole file is ASCII; text is written by its bytes in base sixteen.
-/

namespace DocTemplate.Page

open DocTemplate.Number DocTemplate.Text

/-- The characters of the bytes from 128 to 159, by code point; 0 where there is none. -/
def upperControls : List Nat :=
  [0x20AC, 0, 0x201A, 0x192, 0x201E, 0x2026, 0x2020, 0x2021, 0x2C6, 0x2030, 0x160, 0x2039, 0x152, 0,
   0x17D, 0, 0, 0x2018, 0x2019, 0x201C, 0x201D, 0x2022, 0x2013, 0x2014, 0x2DC, 0x2122, 0x161, 0x203A,
   0x153, 0, 0x17E, 0x178]

/-- The byte of a character in a font; a character that the font does not have becomes a bullet. -/
def fontByte (c : Char) : Nat :=
  let n := c.toNat
  if 0x20 ≤ n ∧ n < 0x7F ∨ 0xA0 ≤ n ∧ n < 0x100 then n
  else match upperControls.findIdx? (· == n) with
    | some i => 0x80 + i
    | none => 0x95

def hexText (bytes : List Nat) : String :=
  "<" ++ String.ofList (bytes.flatMap (hexDigits 2)) ++ ">"

/-- A character of a title in units of sixteen bits. -/
def titleUnits (c : Char) : List Nat :=
  if c.toNat < 0x10000 then [c.toNat]
  else [0xD800 + (c.toNat - 0x10000) / 0x400, 0xDC00 + (c.toNat - 0x10000) % 0x400]

def titleText (title : String) : String :=
  "<FEFF" ++ String.ofList ((title.toList.flatMap titleUnits).flatMap (hexDigits 4)) ++ ">"

/-- Numbers, one after the other. -/
def numbersText (xs : List Float) : String :=
  " ".intercalate (xs.map fun x => String.ofList (fixedText x))

def operation (xs : List Float) (operator : String) : String :=
  numbersText xs ++ " " ++ operator ++ "\n"

/-- A colour as three shares of light. -/
def Color.shares (c : Color) : List Float :=
  [c.bits.toNat / 0x10000, c.bits.toNat / 0x100 % 0x100, c.bits.toNat % 0x100].map fun (n : Nat) =>
    ofInt n / 255.0

def paintOperator (stroke fill : Bool) : String :=
  match stroke, fill with
  | true, true => "B"
  | true, false => "S"
  | false, true => "f"
  | false, false => "n"

/-- How far the handles of a round corner are from its ends, for a radius of one. -/
def cornerHandle : Float := 0.5523

def roundOutline (x y w h r : Float) : String :=
  let k := r * (1.0 - cornerHandle)
  operation [x + r, y] "m" ++ operation [x + w - r, y] "l"
    ++ operation [x + w - k, y, x + w, y + k, x + w, y + r] "c" ++ operation [x + w, y + h - r] "l"
    ++ operation [x + w, y + h - k, x + w - k, y + h, x + w - r, y + h] "c" ++ operation [x + r, y + h] "l"
    ++ operation [x + k, y + h, x, y + h - k, x, y + h - r] "c" ++ operation [x, y + r] "l"
    ++ operation [x, y + k, x + k, y, x + r, y] "c"

/-- The place of a face among the fonts of a page file. -/
def Face.index (f : Face) : Nat := Face.all.idxOf f

/-- The font that text is set in. -/
structure Setting where
  face : Face
  size : Float

def Setting.width (s : Setting) (content : String) : Float := s.face.width s.size content.toList

/-- The left end of text that is anchored at a place. -/
def Setting.leftEnd (s : Setting) (align : Align) (x : Float) (content : String) : Float :=
  match align with
  | .left => x
  | .center => x - s.width content / 2.0
  | .right => x - s.width content

def textOperations (s : Setting) (align : Align) (x y : Float) (content : String) : String :=
  "BT\n" ++ operation [1.0, 0.0, 0.0, 1.0, s.leftEnd align x content, y] "Tm"
    ++ hexText (content.toList.map fontByte) ++ " Tj\nET\n"

/-- What a call does on a page, and the font after it. A picture is shown by its frame. -/
def callOperations (s : Setting) (c : Call Float) : Setting × String :=
  match c with
  | .setTitle _ | .showPage => (s, "")
  | .setFillColor color => (s, operation color.shares "rg")
  | .setStrokeColor color => (s, operation color.shares "RG")
  | .setLineWidth w => (s, operation [w] "w")
  | .setFont name size =>
    let face := (Face.named? name).getD .regular
    (⟨face, size⟩, "/F" ++ toString face.index ++ " " ++ operation [size] "Tf")
  | .drawText align x y content => (s, textOperations s align x y content)
  | .drawLine x1 y1 x2 y2 => (s, operation [x1, y1] "m" ++ operation [x2, y2] "l" ++ "S\n")
  | .drawRect x y w h stroke fill =>
    (s, operation [x, y, w, h] "re" ++ paintOperator stroke fill ++ "\n")
  | .drawRoundRect x y w h r stroke fill =>
    (s, roundOutline x y w h r ++ "h " ++ paintOperator stroke fill ++ "\n")
  | .drawImage x y w h _ => (s, operation [x, y, w, h] "re" ++ "S\n")

/-- The calls of each page; the last page ends with the last call. -/
def pagesOfCalls : List (Call Float) → List (List (Call Float))
  | [] => []
  | .showPage :: cs => [] :: pagesOfCalls cs
  | c :: cs =>
    match pagesOfCalls cs with
    | [] => [[c]]
    | page :: pages => (c :: page) :: pages

def pageContent (calls : List (Call Float)) : String :=
  (calls.foldl (fun (s, out) c =>
    let (s, text) := callOperations s c
    (s, out ++ text)) ((⟨.regular, 12.0⟩ : Setting), "")).2

def reference (n : Nat) : String := toString n ++ " 0 R"

/-- An object that holds a stream. -/
def stream (content : String) : String :=
  "<< /Length " ++ toString content.utf8ByteSize ++ " >>\nstream\n" ++ content ++ "endstream"

def fontObject (f : Face) : String :=
  "<< /Type /Font /Subtype /Type1 /BaseFont /" ++ f.name ++ " /Encoding /WinAnsiEncoding >>"

/-- The number of the object of a page, whose content is the object after it. -/
def pageNumber (i : Nat) : Nat := 4 + Face.all.length + 2 * i

/-- The object that lists the pages, with what they have in common. -/
def pagesObject (g : Geometry Float) (count : Nat) : String :=
  let kids := (List.range count).map fun i => reference (pageNumber i)
  let fonts := Face.all.map fun f => "/F" ++ toString f.index ++ " " ++ reference (4 + f.index)
  "<< /Type /Pages /Kids [" ++ " ".intercalate kids ++ "] /Count " ++ toString count
    ++ " /MediaBox [" ++ numbersText [0.0, 0.0, g.width, g.height] ++ "]"
    ++ " /Resources << /Font << " ++ " ".intercalate fonts ++ " >> >> >>"

/-- All objects of a page file, numbered from 1. -/
def objects (g : Geometry Float) (title : String) (pages : List (List (Call Float))) : List String :=
  ["<< /Type /Catalog /Pages 2 0 R >>", pagesObject g pages.length,
    "<< /Title " ++ titleText title ++ " >>"]
    ++ Face.all.map fontObject
    ++ pages.zipIdx.flatMap fun (calls, i) =>
      ["<< /Type /Page /Parent 2 0 R /Contents " ++ reference (pageNumber i + 1) ++ " >>",
        stream (pageContent calls)]

/-- The first line of a page file. -/
def fileHeader : String := "%PDF-1.4\n"

/-- Objects, numbered from `n` and written from an offset on, and where each of them begins. -/
def placeObjects (n offset : Nat) : List String → List String × List Nat
  | [] => ([], [])
  | o :: os =>
    let text := toString n ++ " 0 obj\n" ++ o ++ "\nendobj\n"
    let (texts, offsets) := placeObjects (n + 1) (offset + text.utf8ByteSize) os
    (text :: texts, offset :: offsets)

def offsetText (n : Nat) : String := String.ofList ((decimalDigits (Nat.pow 10 10 + n)).drop 1)

/-- The title of a document in a log. -/
def titleOf (calls : List (Call Float)) : String :=
  (calls.findSome? fun
    | .setTitle t => some t
    | _ => none).getD ""

def pageFile (g : Geometry Float) (d : Drawn Float) : String :=
  let calls := callsOf d.log
  let (texts, offsets) := placeObjects 1 fileHeader.utf8ByteSize
    (objects g (titleOf calls) (pagesOfCalls calls))
  let body := fileHeader ++ String.join texts
  let size := toString (offsets.length + 1)
  body ++ "xref\n0 " ++ size ++ "\n0000000000 65535 f \n"
    ++ String.join (offsets.map fun n => offsetText n ++ " 00000 n \n")
    ++ "trailer\n<< /Size " ++ size ++ " /Root 1 0 R /Info 3 0 R >>\nstartxref\n"
    ++ toString body.utf8ByteSize ++ "\n%%EOF\n"

end DocTemplate.Page
