import DocTemplate.Calendar.Iso
import DocTemplate.Format.Amount

/-!
# Formats

The formats of table cells: amounts of money with two decimals, numbers with at most a given count
of decimals, and dates in universal time. Values that a format cannot read show as plain text,
except that amounts and numbers show zero for them.
-/

namespace DocTemplate

open DocTemplate.Number DocTemplate.Calendar

/-- A way to show a value. -/
inductive FormatKind
  | text
  | currency
  | number
  | date
deriving DecidableEq, Repr

namespace FormatKind

def all : List FormatKind := [text, currency, number, date]

def name : FormatKind → String
  | text => "text"
  | currency => "currency"
  | number => "number"
  | date => "date"

def named? (s : String) : Option FormatKind := all.find? (·.name == s)

end FormatKind

structure FormatSettings where
  currencySymbol : String
  /-- The greatest count of decimals that numbers show. -/
  fractionDigits : Int
deriving Repr

/-- Euros, and two decimals. -/
def FormatSettings.standard : FormatSettings := ⟨"€", 2⟩

/-- An amount of money: a sign only if it is not rounded to zero, the symbol, two decimals. -/
def currencyText (settings : FormatSettings) (v : Value) : Except Failure String := do
  let n ← amountOf v
  let size ← roundToPrecision ⟨false, n.coefficient, n.exponent⟩
  let text := groupedText (roundedOrSame size 2)
  let visible := !(text.all fun c => c == '0' || c == '.' || c == ',')
  let sign := if n.negative && n.coefficient != 0 && visible then "-" else ""
  .ok (sign ++ settings.currencySymbol ++ String.ofList text)

/-- A number without zeros at the end of its decimals. -/
def numberText (settings : FormatSettings) (v : Value) : Except Failure String := do
  let n ← amountOf v
  .ok (String.ofList (dropFractionZeros (groupedText (roundedOrSame n settings.fractionDigits))))

/-- The number of the first day of 1970. -/
def epochDay : Nat := 719163

/-- The date in universal time some seconds after the start of 1970. The seconds are rounded to
microseconds first, half to even. -/
def dateOfSeconds? (seconds : Float) : Option Date := do
  let p ← parts? seconds
  if 1e15 ≤ seconds ∨ seconds ≤ -1e15 then none
  let size : Nat :=
    if 0 ≤ p.exponent then p.mantissa * Nat.pow 2 p.exponent.toNat
    else p.mantissa / Nat.pow 2 (-p.exponent).toNat
  let whole : Int := if p.negative then -size else size
  let rest ← parts? ((seconds - ofInt whole) * 1000000.0)
  let x := Quotient.ofBinary rest.mantissa rest.exponent
  let size := roundDiv .toEven x.numerator x.denominator
  let micros : Int := if rest.negative then -size else size
  dateOfInstant? (whole * 1000000 + micros + epochDay * dayLength)

/-- Text with a final `Z` spelled out as an offset. -/
def spellZulu (cs : List Char) : List Char :=
  if cs.getLast? = some 'Z' then cs.dropLast ++ "+00:00".toList else cs

/-- The date of a value, if it has one. Numbers count milliseconds from the start of 1970. -/
def dateOf : Value → Except Failure (Option Date)
  | .moment m =>
    match m.utcDate? with
    | some d => .ok (some d)
    | none => .error .dateOutOfRange
  | .date d => .ok (some d)
  | .int n =>
    let size := nearestFloat n.natAbs (-3)
    .ok (dateOfSeconds? (if n < 0 then -size else size))
  | .float x => .ok (dateOfSeconds? (x / 1000.0))
  | .text s =>
    match Moment.read? (spellZulu (Text.trim s.toList)) with
    | none => .ok none
    | some m =>
      match m.utcDate? with
      | some d => .ok (some d)
      | none => .error .dateOutOfRange
  | _ => .ok none

/-- A date, or plain text for a value without one. -/
def dateText (v : Value) : Except Failure String := do
  match ← dateOf v with
  | some d => .ok (String.ofList d.text)
  | none => v.plain

/-- A value in a format; without one it shows as plain text. Null shows nothing in any format. -/
def formatValue (settings : FormatSettings) (v : Value) (kind : Option FormatKind) :
    Except Failure String :=
  if v.isNull then .ok ""
  else match kind with
    | some .currency => currencyText settings v
    | some .number => numberText settings v
    | some .date => dateText v
    | _ => v.plain

end DocTemplate
