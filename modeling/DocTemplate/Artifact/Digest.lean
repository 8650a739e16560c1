import DocTemplate.Text.Quoted

/-!
# Digests

The MD5 digest of bytes. The bytes are padded to blocks of sixteen words; each block is mixed into four
words in sixty-four steps.
-/

namespace DocTemplate.Artifact

/-- The four words that blocks are mixed into. -/
structure DigestState where
  a : UInt32
  b : UInt32
  c : UInt32
  d : UInt32
deriving DecidableEq

/-- The state before any block. -/
def DigestState.initial : DigestState := ⟨0x67452301, 0xEFCDAB89, 0x98BADCFE, 0x10325476⟩

/-- The numbers added in the steps: the whole part of the sine of the step, counted from 1, times
`2 ^ 32`, without its sign. -/
def stepConstants : List UInt32 :=
  [0xD76AA478, 0xE8C7B756, 0x242070DB, 0xC1BDCEEE, 0xF57C0FAF, 0x4787C62A, 0xA8304613, 0xFD469501,
   0x698098D8, 0x8B44F7AF, 0xFFFF5BB1, 0x895CD7BE, 0x6B901122, 0xFD987193, 0xA679438E, 0x49B40821,
   0xF61E2562, 0xC040B340, 0x265E5A51, 0xE9B6C7AA, 0xD62F105D, 0x02441453, 0xD8A1E681, 0xE7D3FBC8,
   0x21E1CDE6, 0xC33707D6, 0xF4D50D87, 0x455A14ED, 0xA9E3E905, 0xFCEFA3F8, 0x676F02D9, 0x8D2A4C8A,
   0xFFFA3942, 0x8771F681, 0x6D9D6122, 0xFDE5380C, 0xA4BEEA44, 0x4BDECFA9, 0xF6BB4B60, 0xBEBFBC70,
   0x289B7EC6, 0xEAA127FA, 0xD4EF3085, 0x04881D05, 0xD9D4D039, 0xE6DB99E5, 0x1FA27CF8, 0xC4AC5665,
   0xF4292244, 0x432AFF97, 0xAB9423A7, 0xFC93A039, 0x655B59C3, 0x8F0CCC92, 0xFFEFF47D, 0x85845DD1,
   0x6FA87E4F, 0xFE2CE6E0, 0xA3014314, 0x4E0811A1, 0xF7537E82, 0xBD3AF235, 0x2AD7D2BB, 0xEB86D391]

/-- How far a word is turned in a step: four amounts in each quarter, in turn. -/
def stepTurn (i : Nat) : UInt32 :=
  let amounts : List UInt32 := match i / 16 with
    | 0 => [7, 12, 17, 22]
    | 1 => [5, 9, 14, 20]
    | 2 => [4, 11, 16, 23]
    | _ => [6, 10, 15, 21]
  amounts.getD (i % 4) 0

def turnLeft (x n : UInt32) : UInt32 := (x <<< n) ||| (x >>> (32 - n))

def stepMix (i : Nat) (b c d : UInt32) : UInt32 :=
  match i / 16 with
  | 0 => (b &&& c) ||| (~~~b &&& d)
  | 1 => (d &&& b) ||| (~~~d &&& c)
  | 2 => b ^^^ c ^^^ d
  | _ => c ^^^ (b ||| ~~~d)

def stepWord (i : Nat) : Nat :=
  match i / 16 with
  | 0 => i
  | 1 => (5 * i + 1) % 16
  | 2 => (3 * i + 5) % 16
  | _ => 7 * i % 16

/-- One step; the number added and its index come together. -/
def digestStep (block : Array UInt32) (s : DigestState) (k : UInt32 × Nat) : DigestState :=
  let i := k.2
  let sum := s.a + stepMix i s.b s.c s.d + k.1 + block.getD (stepWord i) 0
  ⟨s.d, s.b + turnLeft sum (stepTurn i), s.b, s.c⟩

def digestBlock (s : DigestState) (block : Array UInt32) : DigestState :=
  let t := stepConstants.zipIdx.foldl (digestStep block) s
  ⟨s.a + t.a, s.b + t.b, s.c + t.c, s.d + t.d⟩

/-- A number as bytes, the lowest first. -/
def lowBytes : (count : Nat) → Nat → List UInt8
  | 0, _ => []
  | count + 1, n => UInt8.ofNat (n % 256) :: lowBytes count (n / 256)

/-- Bytes as words of four, the lowest byte first. -/
def wordsOf : List UInt8 → List UInt32
  | a :: b :: c :: d :: rest =>
    (a.toUInt32 ||| (b.toUInt32 <<< 8) ||| (c.toUInt32 <<< 16) ||| (d.toUInt32 <<< 24)) :: wordsOf rest
  | _ => []

/-- Words as blocks of sixteen. -/
def blocksOf (count : Nat) (ws : List UInt32) : List (Array UInt32) :=
  match count with
  | 0 => []
  | count + 1 => (ws.take 16).toArray :: blocksOf count (ws.drop 16)

/-- Bytes with a mark, zeros, and their length in bits at the end. -/
def padBytes (bs : List UInt8) : List UInt8 :=
  bs ++ 0x80 :: List.replicate ((119 - bs.length % 64) % 64) 0 ++ lowBytes 8 (8 * bs.length)

/-- The digest of bytes: sixteen bytes. -/
def digest (bs : List UInt8) : List UInt8 :=
  let ws := wordsOf (padBytes bs)
  let s := (blocksOf (ws.length / 16) ws).foldl digestBlock .initial
  [s.a, s.b, s.c, s.d].flatMap fun w => lowBytes 4 w.toNat

/-- Bytes in base sixteen, two digits for each. -/
def hexText (bs : List UInt8) : List Char := bs.flatMap fun b => Text.hexDigits 2 b.toNat

example : hexText (digest []) = "d41d8cd98f00b204e9800998ecf8427e".toList := by decide +kernel

end DocTemplate.Artifact
