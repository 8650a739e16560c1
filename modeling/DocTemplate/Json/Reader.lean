import DocTemplate.Json.Fault
import DocTemplate.Number.Numeral
import DocTemplate.Text.Encoding
import DocTemplate.Value.Basic
import DocTemplate.Value.Failure

/-!
# Reading JSON

A reader of JSON text that also takes `NaN` and the infinities. Whole numbers stay apart from
numbers with a point or a power of ten; of fields with one name the last one counts. Texts are made of
characters, so an escape for a surrogate that stands alone is a fault.
-/

namespace DocTemplate.Json

open DocTemplate.Number DocTemplate.Text

/-- The text still to be read and the place where it begins. -/
structure Cursor where
  rest : List Char
  place : Nat

/-- The cursor some characters further on. -/
def Cursor.advance (c : Cursor) (n : Nat) : Cursor := ⟨c.rest.drop n, c.place + n⟩

/-- The characters that may stand between tokens. -/
def isGap (c : Char) : Bool := c == ' ' || c == '\t' || c == '\n' || c == '\r'

def Cursor.skipGap (c : Cursor) : Cursor := c.advance (c.rest.takeWhile isGap).length

/-- How deeply lists and records may be nested. -/
def nestingLimit : Nat := 990

def hexValue? (c : Char) : Option Nat := if c.toNat < 0x80 then digitIn? 16 c else none

/-- The number written by four hexadecimal digits. -/
def fourHex? : List Char → Option Nat
  | [a, b, c, d] => do
    let ds ← [a, b, c, d].mapM hexValue?
    some (ofDigits 16 ds)
  | _ => none

def simpleEscape? : Char → Option Char
  | '"' => some '"'
  | '\\' => some '\\'
  | '/' => some '/'
  | 'b' => some '\x08'
  | 'f' => some '\x0c'
  | 'n' => some '\n'
  | 'r' => some '\r'
  | 't' => some '\t'
  | _ => none

/-- The character of an escape by four hexadecimal digits, given the text after its `u`, and how many
characters it takes. Two escapes that are a surrogate pair are one character. Where digits are missing or a
surrogate has no pair, how far on the `u` before it is. -/
def unicodeEscape (cs : List Char) : Except (Fault × Nat) (Char × Nat) :=
  match fourHex? (cs.take 4), (cs.drop 4).isEmpty with
  | some high, false =>
    let alone : Except (Fault × Nat) (Char × Nat) := match (point? high).bind charOf? with
      | some ch => .ok (ch, 4)
      | none => .error (.loneSurrogate, 0)
    if 0xD800 ≤ high ∧ high ≤ 0xDBFF ∧ !(cs.drop 10).isEmpty ∧ (cs.drop 4).take 2 = ['\\', 'u'] then
      match fourHex? ((cs.drop 6).take 4) with
      | some low =>
        if 0xDC00 ≤ low ∧ low ≤ 0xDFFF then
          .ok (Char.ofNat (0x10000 + (high - 0xD800) * 0x400 + (low - 0xDC00)), 10)
        else alone
      | none => .error (.badUnicodeEscape, 6)
    else alone
  | _, _ => .error (.badUnicodeEscape, 0)

/-- The text after an opening quote that stood at place `opening`; what is read so far is kept in
reverse. -/
def readText (opening : Nat) : Nat → List Char → Cursor → Except ReadFailure (List Char × Cursor)
  | 0, _, _ => .error (.malformed .openText opening)
  | fuel + 1, done, c =>
    match c.rest with
    | [] => .error (.malformed .openText opening)
    | '"' :: _ => .ok (done.reverse, c.advance 1)
    | '\\' :: rest =>
      match rest with
      | [] => .error (.malformed .openText opening)
      | 'u' :: digits =>
        match unicodeEscape digits with
        | .ok (ch, n) => readText opening fuel (ch :: done) (c.advance (n + 2))
        | .error (fault, n) => .error (.malformed fault (c.place + 1 + n))
      | e :: _ =>
        match simpleEscape? e with
        | some ch => readText opening fuel (ch :: done) (c.advance 2)
        | none => .error (.malformed .badEscape c.place)
    | ch :: rest =>
      if ch.toNat < 0x20 then .error (.malformed .controlCharacter c.place)
      else readText opening fuel (ch :: done) ⟨rest, c.place + 1⟩

/-- The digits of a whole number: none, a zero, or digits that do not start with zero. -/
def wholeDigits (cs : List Char) : List Char :=
  match cs with
  | '0' :: _ => ['0']
  | cs => cs.takeWhile isAsciiDigit

/-- A fraction: a point and at least one digit. -/
def fractionPart (cs : List Char) : List Char :=
  match cs with
  | '.' :: cs =>
    let ds := cs.takeWhile isAsciiDigit
    if ds.isEmpty then [] else '.' :: ds
  | _ => []

/-- A power of ten: its mark, perhaps a sign, and at least one digit. -/
def exponentPart (cs : List Char) : List Char :=
  match cs with
  | e :: cs =>
    if e = 'e' ∨ e = 'E' then
      let sign := match cs with
        | '-' :: _ => ['-']
        | '+' :: _ => ['+']
        | _ => []
      let ds := (cs.drop sign.length).takeWhile isAsciiDigit
      if ds.isEmpty then [] else e :: sign ++ ds
    else []
  | [] => []

/-- A number at the start of a text, and how many characters it takes. -/
def readNumber? (cs : List Char) : Option (Except ReadFailure Value × Nat) :=
  let (negative, unsigned) := match cs with
    | '-' :: rest => (true, rest)
    | cs => (false, cs)
  let whole := wholeDigits unsigned
  if whole.isEmpty then none
  else
    let rest := unsigned.drop whole.length
    let fraction := fractionPart rest
    let exponent := exponentPart (rest.drop fraction.length)
    let text := whole ++ fraction ++ exponent
    let count := text.length + (if negative then 1 else 0)
    let value :=
      if fraction.isEmpty && exponent.isEmpty then
        if digitLimit < whole.length then .error (.integerTooLong whole.length)
        else
          let n : Int := ofDigits 10 (whole.filterMap asciiDigit?)
          .ok (.int (if negative then -n else n))
      else
        match readUnsigned? asciiDigit? text with
        | some (n, e) => .ok (.float (Numeral.toFloat ⟨negative, n, e⟩))
        | none => .ok .null
    some (value, count)

/-- The words that stand for values. -/
def words : List (List Char × Value) :=
  [("null".toList, .null), ("true".toList, .bool true), ("false".toList, .bool false),
   ("NaN".toList, .float nan), ("Infinity".toList, .float infinity),
   ("-Infinity".toList, .float (-infinity))]

/-- A word at the start of a text. -/
def readWord? (cs : List Char) : Option (Value × Nat) :=
  (words.find? fun w => w.1.isPrefixOf cs).map fun w => (w.2, w.1.length)

mutual

/-- One value. `fuel` bounds the steps and `depth` counts the lists and records around it. -/
def readValue : (fuel depth : Nat) → Cursor → Except ReadFailure (Value × Cursor)
  | 0, _, _ => .error .tooDeep
  | fuel + 1, depth, c =>
    match c.rest with
    | '"' :: _ => do
      let (cs, c) ← readText c.place fuel [] (c.advance 1)
      .ok (.text (String.ofList cs), c)
    | '[' :: _ =>
      if nestingLimit < depth then .error .tooDeep
      else
        let c := (c.advance 1).skipGap
        match c.rest with
        | ']' :: _ => .ok (.list [], c.advance 1)
        | _ => readItems fuel (depth + 1) [] c
    | '\x7b' :: _ =>
      if nestingLimit < depth then .error .tooDeep
      else
        let c := (c.advance 1).skipGap
        match c.rest with
        | '\x7d' :: _ => .ok (.record [], c.advance 1)
        | _ => readFields fuel (depth + 1) [] c
    | cs =>
      match readWord? cs with
      | some (v, n) => .ok (v, c.advance n)
      | none =>
        match readNumber? cs with
        | some (.ok v, n) => .ok (v, c.advance n)
        | some (.error e, _) => .error e
        | none => .error (.malformed .noValue c.place)

/-- The items of a list from one of them on; those before it are kept in reverse. -/
def readItems : (fuel depth : Nat) → List Value → Cursor → Except ReadFailure (Value × Cursor)
  | 0, _, _, _ => .error .tooDeep
  | fuel + 1, depth, done, c => do
    let (v, c) ← readValue fuel depth c
    let c := c.skipGap
    match c.rest with
    | ']' :: _ => .ok (.list (v :: done).reverse, c.advance 1)
    | ',' :: _ => readItems fuel depth (v :: done) (c.advance 1).skipGap
    | _ => .error (.malformed .noComma c.place)

/-- The fields of a record from one of them on. -/
def readFields : (fuel depth : Nat) → Fields → Cursor → Except ReadFailure (Value × Cursor)
  | 0, _, _, _ => .error .tooDeep
  | fuel + 1, depth, done, c =>
    match c.rest with
    | '"' :: _ => do
      let (key, c) ← readText c.place fuel [] (c.advance 1)
      let c := c.skipGap
      match c.rest with
      | ':' :: _ =>
        let (v, c) ← readValue fuel depth (c.advance 1).skipGap
        let c := c.skipGap
        let done := Fields.set done (String.ofList key) v
        match c.rest with
        | '\x7d' :: _ => .ok (.record done, c.advance 1)
        | ',' :: _ => readFields fuel depth done (c.advance 1).skipGap
        | _ => .error (.malformed .noComma c.place)
      | _ => .error (.malformed .noColon c.place)
    | _ => .error (.malformed .noName c.place)

end

/-- The value written by a text: one value with gaps around it. -/
def readChars (cs : List Char) : Except ReadFailure Value := do
  let (v, c) ← readValue (2 * cs.length + 4) 0 (Cursor.skipGap ⟨cs, 0⟩)
  let c := c.skipGap
  if c.rest.isEmpty then .ok v else .error (.malformed .extraData c.place)

/-- The value written by a text, which must not begin with a byte order mark. -/
def read (cs : List Char) : Except ReadFailure Value :=
  match cs with
  | '\ufeff' :: _ => .error (.malformed .byteOrderMark 0)
  | cs => readChars cs

end DocTemplate.Json
