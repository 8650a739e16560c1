/-!
# Bytes and text

Code points, text in UTF-8, UTF-16 and UTF-32, and bytes in base 64. Texts are lists of characters; what is
decoded is a list of code points, in which surrogates may stand alone, and is a text where none does. Decoders
give nothing for bytes that are not well formed.
-/

namespace DocTemplate.Text

/-! ## Code points -/

/-- A code point: a character, or a surrogate. -/
abbrev Point := Fin 0x110000

abbrev Points := List Point

/-- The code point of a number, if there is one. -/
def point? (n : Nat) : Option Point := if h : n < 0x110000 then some ⟨n, h⟩ else none

/-- The character of a code point; surrogates are no characters. -/
def charOf? (p : Point) : Option Char :=
  if 0xD800 ≤ p.val ∧ p.val ≤ 0xDFFF then none else some (Char.ofNat p.val)

def pointOf (c : Char) : Point :=
  ⟨c.toNat, by
    have h := c.valid
    simp only [UInt32.isValidChar, Nat.isValidChar] at h
    simp only [Char.toNat]
    omega⟩

/-- The characters of code points without surrogates among them. -/
def characters? (ps : Points) : Option (List Char) := ps.mapM charOf?

/-- Code points as characters, with a replacement where a surrogate stands. -/
def replaced (ps : Points) : List Char := ps.map fun p => (charOf? p).getD '\ufffd'

/-- The text of code points without surrogates among them. -/
def textOf? (ps : Points) : Option String := (characters? ps).map String.ofList

def pointsOf (s : String) : Points := s.toList.map pointOf

theorem charOf?_pointOf (c : Char) : charOf? (pointOf c) = some c := by
  have h := c.valid
  simp only [UInt32.isValidChar, Nat.isValidChar] at h
  have hnot : ¬(0xD800 ≤ (pointOf c).val ∧ (pointOf c).val ≤ 0xDFFF) := by
    simp only [pointOf, Char.toNat]
    omega
  rw [charOf?, if_neg hnot, pointOf, Char.ofNat_toNat]

theorem characters?_map_pointOf (cs : List Char) : characters? (cs.map pointOf) = some cs := by
  induction cs with
  | nil => rfl
  | cons c cs ih =>
    rw [characters?] at ih
    simp [characters?, List.mapM_cons, charOf?_pointOf, ih]

/-- Nothing is replaced where no surrogate stands. -/
theorem replaced_eq {ps : Points} {cs : List Char} (h : characters? ps = some cs) : replaced ps = cs := by
  induction ps generalizing cs with
  | nil =>
    obtain rfl := Option.some.inj h
    rfl
  | cons p ps ih =>
    rw [characters?, List.mapM_cons] at h
    obtain ⟨c, hc, h⟩ := Option.bind_eq_some_iff.mp h
    obtain ⟨ds, hds, h⟩ := Option.bind_eq_some_iff.mp h
    obtain rfl := Option.some.inj h
    have hrest : replaced ps = ds := ih hds
    rw [replaced] at hrest
    rw [replaced, List.map_cons, hc, hrest, Option.getD_some]

/-- The code points of a text make up the text. -/
theorem textOf?_pointsOf (s : String) : textOf? (pointsOf s) = some s := by
  rw [textOf?, pointsOf, characters?_map_pointOf, Option.map_some, String.ofList_toList]

/-! ## Decoding -/

/-- The payload of a continuation byte. -/
def continuation? (b : UInt8) : Option Nat :=
  if 0x80 ≤ b ∧ b ≤ 0xBF then some (b.toNat - 0x80) else none

/-- The first code point of UTF-8 bytes and the bytes after it. Overlong forms are refused. -/
def utf8Point? : List UInt8 → Option (Point × List UInt8)
  | [] => none
  | a :: bs =>
    if a < 0x80 then (point? a.toNat).map (·, bs)
    else if 0xC2 ≤ a ∧ a ≤ 0xDF then
      match bs with
      | b :: bs => do
        let x ← continuation? b
        (point? ((a.toNat - 0xC0) * 64 + x)).map (·, bs)
      | [] => none
    else if 0xE0 ≤ a ∧ a ≤ 0xEF then
      match bs with
      | b :: c :: bs => do
        let x ← continuation? b
        let y ← continuation? c
        let n := ((a.toNat - 0xE0) * 64 + x) * 64 + y
        if n < 0x800 then none
        (point? n).map (·, bs)
      | _ => none
    else if 0xF0 ≤ a ∧ a ≤ 0xF4 then
      match bs with
      | b :: c :: d :: bs => do
        let x ← continuation? b
        let y ← continuation? c
        let z ← continuation? d
        let n := (((a.toNat - 0xF0) * 64 + x) * 64 + y) * 64 + z
        if n < 0x10000 then none
        (point? n).map (·, bs)
      | _ => none
    else none

/-- All code points read one after another; `fuel` bounds their count. -/
def decodeAll? (next? : List UInt8 → Option (Point × List UInt8)) : Nat → List UInt8 → Option Points
  | _, [] => some []
  | 0, _ => none
  | fuel + 1, bs => do
    let (p, rest) ← next? bs
    let ps ← decodeAll? next? fuel rest
    some (p :: ps)

/-- The code points of UTF-8 bytes, with surrogates let through. -/
def utf8Points? (bs : List UInt8) : Option Points := decodeAll? utf8Point? bs.length bs

/-- The text of UTF-8 bytes. -/
def decodeUtf8? (bs : List UInt8) : Option (List Char) := (utf8Points? bs).bind characters?

/-- The first unit of sixteen bits. -/
def unit16? (bigEndian : Bool) : List UInt8 → Option (Nat × List UInt8)
  | a :: b :: bs => some (if bigEndian then a.toNat * 256 + b.toNat else b.toNat * 256 + a.toNat, bs)
  | _ => none

/-- The first code point of UTF-16 bytes and the bytes after it. A surrogate without its pair is let
through. -/
def utf16Point? (bigEndian : Bool) (bs : List UInt8) : Option (Point × List UInt8) := do
  let (high, rest) ← unit16? bigEndian bs
  if 0xD800 ≤ high ∧ high ≤ 0xDBFF then
    match unit16? bigEndian rest with
    | some (low, rest') =>
      if 0xDC00 ≤ low ∧ low ≤ 0xDFFF then
        (point? (0x10000 + (high - 0xD800) * 0x400 + (low - 0xDC00))).map (·, rest')
      else (point? high).map (·, rest)
    | none => if rest.isEmpty then (point? high).map (·, rest) else none
  else (point? high).map (·, rest)

/-- The first code point of UTF-32 bytes and the bytes after it. -/
def utf32Point? (bigEndian : Bool) : List UInt8 → Option (Point × List UInt8)
  | a :: b :: c :: d :: bs =>
    let n :=
      if bigEndian then ((a.toNat * 256 + b.toNat) * 256 + c.toNat) * 256 + d.toNat
      else ((d.toNat * 256 + c.toNat) * 256 + b.toNat) * 256 + a.toNat
    (point? n).map (·, bs)
  | _ => none

/-- The code points of bytes whose encoding is told by a byte order mark or by where zero bytes stand among
the first four. -/
def decodeDetected? (bs : List UInt8) : Option Points :=
  let utf16 (bigEndian : Bool) (bs : List UInt8) := decodeAll? (utf16Point? bigEndian) bs.length bs
  let utf32 (bigEndian : Bool) (bs : List UInt8) := decodeAll? (utf32Point? bigEndian) bs.length bs
  match bs with
  | 0x00 :: 0x00 :: 0xFE :: 0xFF :: rest => utf32 true rest
  | 0xFF :: 0xFE :: 0x00 :: 0x00 :: rest => utf32 false rest
  | 0xFE :: 0xFF :: rest => utf16 true rest
  | 0xFF :: 0xFE :: rest => utf16 false rest
  | 0xEF :: 0xBB :: 0xBF :: rest => utf8Points? rest
  | a :: b :: c :: d :: _ =>
    if a = 0 then if b = 0 then utf32 true bs else utf16 true bs
    else if b = 0 then if c = 0 ∧ d = 0 then utf32 false bs else utf16 false bs
    else utf8Points? bs
  | [a, b] =>
    if a = 0 then utf16 true bs
    else if b = 0 then utf16 false bs
    else utf8Points? bs
  | bs => utf8Points? bs

/-! ## Base 64 -/

/-- The value of a character of base 64. -/
def sextet? (c : Char) : Option Nat :=
  if 'A' ≤ c ∧ c ≤ 'Z' then some (c.toNat - 'A'.toNat)
  else if 'a' ≤ c ∧ c ≤ 'z' then some (c.toNat - 'a'.toNat + 26)
  else if '0' ≤ c ∧ c ≤ '9' then some (c.toNat - '0'.toNat + 52)
  else if c = '+' then some 62
  else if c = '/' then some 63
  else none

/-- The bytes of text in base 64: groups of four characters, the last one filled up by equal signs,
and nothing else. -/
def decodeBase64? : List Char → Option (List UInt8)
  | [] => some []
  | [a, b, '=', '='] => do
    let n := (← sextet? a) * 64 + (← sextet? b)
    some [UInt8.ofNat (n / 16)]
  | [a, b, c, '='] => do
    let n := ((← sextet? a) * 64 + (← sextet? b)) * 64 + (← sextet? c)
    some [UInt8.ofNat (n / 1024), UInt8.ofNat (n / 4)]
  | a :: b :: c :: d :: cs => do
    let n := (((← sextet? a) * 64 + (← sextet? b)) * 64 + (← sextet? c)) * 64 + (← sextet? d)
    let bs ← decodeBase64? cs
    some (UInt8.ofNat (n / 65536) :: UInt8.ofNat (n / 256) :: UInt8.ofNat n :: bs)
  | _ => none

/-- The character of base 64 for a value below sixty-four. -/
def sextetChar (n : Nat) : Char :=
  if n < 26 then Char.ofNat ('A'.toNat + n)
  else if n < 52 then Char.ofNat ('a'.toNat + (n - 26))
  else if n < 62 then Char.ofNat ('0'.toNat + (n - 52))
  else if n = 62 then '+'
  else '/'

def encodeBase64 : List UInt8 → List Char
  | [] => []
  | [a] => [sextetChar (a.toNat / 4), sextetChar (a.toNat % 4 * 16), '=', '=']
  | [a, b] =>
    let n := a.toNat * 256 + b.toNat
    [sextetChar (n / 1024), sextetChar (n / 16 % 64), sextetChar (n % 16 * 4), '=']
  | a :: b :: c :: bs =>
    let n := (a.toNat * 256 + b.toNat) * 256 + c.toNat
    sextetChar (n / 262144) :: sextetChar (n / 4096 % 64) :: sextetChar (n / 64 % 64)
      :: sextetChar (n % 64) :: encodeBase64 bs

example : decodeBase64? ['Y', 'W', 'J', 'j'] = some [0x61, 0x62, 0x63] := by decide
example : encodeBase64 [0x61, 0x62] = ['Y', 'W', 'I', '='] := by decide

end DocTemplate.Text
