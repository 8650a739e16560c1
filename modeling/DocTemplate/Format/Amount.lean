import DocTemplate.Number.Decimal
import DocTemplate.Number.Rounding
import DocTemplate.Value.Plain

/-!
# Amounts

Values as decimal numbers, rounded to a count of decimal places and written with commas between
groups of three digits. Rounding goes half away from zero, and is left out where the result would
have more digits than the working precision.
-/

namespace DocTemplate

open DocTemplate.Number

/-- The digits that a computed decimal may have. -/
def workingPrecision : Nat := 28

/-- The greatest power of ten of a computed decimal's first digit. -/
def greatestExponent : Int := 999999

def zeroAmount : Numeral := ⟨false, 0, 0⟩

/-- The finite decimal that characters write; other characters write zero. -/
def amountOfChars (cs : List Char) : Numeral :=
  match readDecimal? cs with
  | some (.finite n) => n
  | _ => zeroAmount

/-- The decimal that a value reads as; values that are no finite numbers read as zero. -/
def amountOf : Value → Except Failure Numeral
  | .bool b => .ok ⟨false, if b then 1 else 0, 0⟩
  | .int n => (integerText n).map fun _ => ⟨n < 0, n.natAbs, 0⟩
  | .float x => .ok (amountOfChars (floatText x))
  | .decimal (.finite n) => .ok n
  | .text s => .ok (amountOfChars s.toList)
  | _ => .ok zeroAmount

/-- The coefficient of `coefficient * 10 ^ exponent` on the grid of step `10 ^ (-places)`, rounded half
away from zero. Where the number is less than a tenth of a step no power is computed. -/
def onPlaces (coefficient : Nat) (exponent places : Int) : Nat :=
  let shift := exponent + places
  if 0 ≤ shift then coefficient * Nat.pow 10 shift.toNat
  else if digitCount coefficient < (-shift).toNat then 0
  else roundDiv .upward coefficient (Nat.pow 10 (-shift).toNat)

/-- A number rounded to decimal places, if the result has no more digits than the precision. -/
def roundToPlaces? (n : Numeral) (places : Int) : Option Numeral :=
  if n.coefficient = 0 then some ⟨n.negative, 0, -places⟩
  else if (workingPrecision : Int) < leadingExponent n.coefficient n.exponent + places + 1 then none
  else
    let c := onPlaces n.coefficient n.exponent places
    if workingPrecision < digitCount c then none else some ⟨n.negative, c, -places⟩

/-- A number rounded to the working precision, half to even. -/
def roundToPrecision (n : Numeral) : Except Failure Numeral :=
  let excess := digitCount n.coefficient - workingPrecision
  let c := if excess = 0 then n.coefficient else roundDiv .toEven n.coefficient (Nat.pow 10 excess)
  let rounded : Numeral :=
    if workingPrecision < digitCount c then ⟨n.negative, c / 10, n.exponent + excess + 1⟩
    else ⟨n.negative, c, n.exponent + excess⟩
  if c ≠ 0 ∧ greatestExponent < leadingExponent rounded.coefficient rounded.exponent then
    .error .decimalTooGreat
  else .ok rounded

/-- Digits from the last one on, with commas after every third one. -/
def groupReversed : List Char → List Char
  | a :: b :: c :: d :: rest => a :: b :: c :: ',' :: groupReversed (d :: rest)
  | ds => ds

/-- Digits with commas between groups of three. -/
def grouped (ds : List Char) : List Char := (groupReversed ds.reverse).reverse

def fractionDigits (places n : Nat) : List Char :=
  let ds := decimalDigits n
  zeros (places - ds.length) ++ ds

/-- A size with commas in its whole part and as many decimals as its exponent says. -/
def groupedSize (coefficient : Nat) (exponent : Int) : List Char :=
  if 0 ≤ exponent then
    grouped (if coefficient = 0 then ['0'] else decimalDigits coefficient ++ zeros exponent.toNat)
  else
    let places := (-exponent).toNat
    grouped (decimalDigits (coefficient / Nat.pow 10 places)) ++
      '.' :: fractionDigits places (coefficient % Nat.pow 10 places)

/-- A number rounded to decimal places where the precision allows it. -/
def roundedOrSame (n : Numeral) (places : Int) : Numeral := (roundToPlaces? n places).getD n

/-- A number with commas; zero has no sign. -/
def groupedText (n : Numeral) : List Char :=
  let size := groupedSize n.coefficient n.exponent
  if n.negative && n.coefficient != 0 then '-' :: size else size

/-- Text without the zeros at the end of its fraction, and without a point at its end. -/
def dropFractionZeros (cs : List Char) : List Char :=
  if cs.contains '.' then Text.dropEnd (· == '.') (Text.dropEnd (· == '0') cs) else cs

example : grouped ['1', '2', '3', '4'] = ['1', ',', '2', '3', '4'] := by decide
example : groupedText ⟨true, 123450, -2⟩ = "-1,234.50".toList := by decide
example : dropFractionZeros "100.00".toList = "100".toList := by decide

end DocTemplate
