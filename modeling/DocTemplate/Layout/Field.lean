import DocTemplate.Layout.Checked
import DocTemplate.Layout.Component
import DocTemplate.Text.Encoding

/-!
# Fields of a layout

How the loose values of a raw layout are read as texts, sizes, whole numbers, flags, choices,
sequences and records. A field may be spelled in two ways, and a field that is null is not set.
-/

namespace DocTemplate

open DocTemplate.Number DocTemplate.Text

/-- The name of a field: in one word with capitals inside, and with underscores between its words. -/
structure FieldName where
  wire : String
  spelled : String

def FieldName.word (s : String) : FieldName := ⟨s, s⟩

def dropNulls (fields : Fields) : Fields := fields.filter fun f => !f.2.isNull

/-- A field under the spelling it has; the spelling with capitals comes first. -/
def FieldName.find? (name : FieldName) (fields : Fields) : Option (String × Value) :=
  match fields.lookup name.wire with
  | some v => some (name.wire, v)
  | none => (fields.lookup name.spelled).map (name.spelled, ·)

def required {α : Type} (fields : Fields) (name : FieldName) (read : Value → Checked α) : Checked α :=
  match name.find? fields with
  | some (key, v) => (read v).inside key
  | none => (Checked.reject .required).inside name.wire

/-- A field that stands for a default when it is not there. -/
def withDefault {α : Type} (fields : Fields) (name : FieldName) (default : α)
    (read : Value → Checked α) : Checked α :=
  match name.find? fields with
  | some (key, v) => (read v).inside key
  | none => .accepted default

/-- A field that may be missing. -/
def optional {α : Type} (fields : Fields) (name : FieldName) (read : Value → Checked α) :
    Checked (Option α) :=
  withDefault fields name none fun v => some <$> read v

/-- A record, without its null fields. -/
def readRecord {α : Type} (noun : String) (read : Fields → Checked α) : Value → Checked α
  | .record fields => read (dropNulls fields)
  | _ => .reject (.notRecord noun)

/-- A list or tuple, item by item. -/
def readSequence {α : Type} (read : Value → Checked α) (v : Value) : Checked (List α) :=
  match v.items? with
  | some items => .itemsFrom 0 (items.map read)
  | none => .reject .notTuple

/-- Text, or bytes that are text. -/
def readText : Value → Checked String
  | .text s => .accepted s
  | .bytes bs =>
    match decodeUtf8? bs with
    | some cs => .accepted (String.ofList cs)
    | none => .reject .notUnicode
  | _ => .reject .notText

/-- The characters of text or of bytes that are text; nothing for bytes that are not. Other values
have none. -/
def charsOf? : Value → Option (Option (List Char))
  | .text s => some (some s.toList)
  | .bytes bs => some (decodeUtf8? bs)
  | _ => none

/-- A double, from any value that is or writes a number. -/
def readDouble (v : Value) : Checked Float :=
  match charsOf? v with
  | some none => .reject .notNumberText
  | some (some cs) =>
    match readFloat? asciiDigit? (dropAround isGapChar cs) with
    | some x => .accepted x
    | none => .reject .notNumberText
  | none =>
    match v with
    | .bool b => .accepted (if b then 1.0 else 0.0)
    | .int n => if isFinite (ofInt n) then .accepted (ofInt n) else .reject .notNumber
    | .float x => .accepted x
    | .decimal d =>
      match d.toFloat? with
      | some x => .accepted x
      | none => .reject .notNumber
    | _ => .reject .notNumber

/-- A size: a double that is zero or more. -/
def readSize (v : Value) : Checked Float :=
  (readDouble v).andThen fun x => if 0 ≤ x then .accepted x else .reject .negative

/-- A fraction of zeros only, which a whole number may have. -/
def isZeroFraction : List Char → Bool
  | [] => true
  | '.' :: c :: cs => (c :: cs).all (· == '0')
  | _ => false

/-- A whole number as it is typed: a sign, digits with single underscores between them, and perhaps a
fraction of zeros. -/
def readWholeText (cs : List Char) : Checked Int :=
  let (negative, cs) := takeSign (dropAround isGapChar cs)
  let whole := cs.takeWhile (· != '.')
  if isZeroFraction (cs.dropWhile (· != '.')) && whole.all (·.toNat < 0x80) then
    match readDigitRun? 10 whole with
    | some n =>
      if digitLimit < (whole.filter isAsciiDigit).length then .reject .tooManyDigits
      else .accepted (if negative then -n else n)
    | none => .reject .notWholeText
  else .reject .notWholeText

/-- The whole number that a double is, within sixty-four bits. -/
def readWholeDouble (x : Float) : Checked Int :=
  if !isFinite x then .reject .notFinite
  else match wholeValue? x with
    | none => .reject .fractional
    | some n => if n.natAbs < Nat.pow 2 63 then .accepted n else .reject .tooManyDigits

/-- The whole number that a numeral is, if it is one. -/
def wholeNumeral? (n : Numeral) : Option Int :=
  let size? : Option Nat :=
    if 0 ≤ n.exponent then some (n.coefficient * Nat.pow 10 n.exponent.toNat)
    else if n.coefficient = 0 then some 0
    else if digitCount n.coefficient < n.exponent.natAbs then none
    else
      let unit := Nat.pow 10 n.exponent.natAbs
      if n.coefficient % unit = 0 then some (n.coefficient / unit) else none
  size?.map fun size => if n.negative then -size else size

/-- A whole number, from any value that is or writes one. -/
def readWhole (v : Value) : Checked Int :=
  match charsOf? v with
  | some none => .reject .notWholeText
  | some (some cs) => readWholeText cs
  | none =>
    match v with
    | .bool b => .accepted (if b then 1 else 0)
    | .int n => .accepted n
    | .float x => readWholeDouble x
    | .decimal (.finite n) =>
      match wholeNumeral? n with
      | some n => .accepted n
      | none => .reject .fractional
    | .decimal _ => .reject .notFinite
    | _ => .reject .notWhole

/-- The words that stand for false and for true, in any case. -/
def flagOfWord? (cs : List Char) : Option Bool :=
  let s := String.ofList (cs.map Char.toLower)
  if s ∈ ["0", "off", "f", "false", "n", "no"] then some false
  else if s ∈ ["1", "on", "t", "true", "y", "yes"] then some true
  else none

def flagOfWhole (n : Int) : Checked Bool :=
  if n = 0 then .accepted false
  else if n = 1 then .accepted true
  else .reject .notBooleanText

def flagOfDouble (x : Float) : Checked Bool :=
  match readWholeDouble x with
  | .accepted n => flagOfWhole n
  | .rejected .. => .reject .notBoolean

/-- A flag, from any value that is or writes one. -/
def readFlag (v : Value) : Checked Bool :=
  match charsOf? v with
  | some none => .reject .notBooleanText
  | some (some cs) =>
    match flagOfWord? cs with
    | some b => .accepted b
    | none => .reject .notBooleanText
  | none =>
    match v with
    | .bool b => .accepted b
    | .int n => if n.natAbs < Nat.pow 2 63 then flagOfWhole n else flagOfDouble (ofInt n)
    | .float x => flagOfDouble x
    | .decimal d =>
      match d.toFloat? with
      | some x => flagOfDouble x
      | none => .reject .notBoolean
    | _ => .reject .notBoolean

def readChoice {α : Type} (named? : String → Option α) (reason : Reason) : Value → Checked α
  | .text s =>
    match named? s with
    | some a => .accepted a
    | none => .reject reason
  | _ => .reject reason

end DocTemplate
