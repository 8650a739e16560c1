import DocTemplate.Number.Shortest

/-!
# Doubles as text

`floatText` is the full text of a double: the fewest digits that read back, without a power of ten
from 0.0001 up to 10^16. `fixedText` is a measure with exactly three decimals.
-/

namespace DocTemplate.Number

/-- Zeros, as text. -/
def zeros (n : Nat) : List Char := List.replicate n '0'

/-- `coefficient * 10 ^ exponent` without a power of ten; whole numbers get the given ending. -/
def positional (coefficient : Nat) (exponent : Int) (ending : List Char) : List Char :=
  let ds := decimalDigits coefficient
  if 0 ≤ exponent then ds ++ zeros exponent.toNat ++ ending
  else
    let places := (-exponent).toNat
    if ds.length ≤ places then '0' :: '.' :: zeros (places - ds.length) ++ ds
    else ds.take (ds.length - places) ++ '.' :: ds.drop (ds.length - places)

/-- A power of ten in at least two digits. -/
def exponentText (e : Int) : List Char :=
  let ds := decimalDigits e.natAbs
  'e' :: (if e < 0 then '-' else '+') :: (zeros (2 - ds.length) ++ ds)

/-- Digits with a point after the first one, and a power of ten. -/
def scientific (coefficient : Nat) (exponent : Int) : List Char :=
  match decimalDigits coefficient with
  | [] => []
  | d :: ds =>
    let fraction := if ds.isEmpty then [] else '.' :: ds
    d :: fraction ++ exponentText (exponent + ds.length)

/-- The power of ten of the first digit of a number. -/
def leadingExponent (coefficient : Nat) (exponent : Int) : Int := exponent + digitCount coefficient - 1

/-- The text of a finite double that is not negative. -/
def magnitudeText (p : BinaryParts) : List Char :=
  if p.mantissa = 0 then ['0', '.', '0']
  else
    let (n, e) := shortest p
    let leading := leadingExponent n e
    if leading < -4 ∨ 16 ≤ leading then scientific n e else positional n e ['.', '0']

/-- The full text of a double. -/
def floatText (x : Float) : List Char :=
  match parts? x with
  | some p => if p.negative then '-' :: magnitudeText p else magnitudeText p
  | none => if isNaN x then ['n', 'a', 'n'] else if x < 0 then ['-', 'i', 'n', 'f'] else ['i', 'n', 'f']

/-- The text of a double, without a point if it is a whole number. -/
def wholeOrFull (x : Float) : List Char :=
  match wholeValue? x with
  | some n => (if n < 0 then ['-'] else []) ++ decimalDigits n.natAbs
  | none => floatText x

/-- The thousandths nearest to a double's size; an exact half goes to the even neighbour. -/
def thousandths (p : BinaryParts) : Nat :=
  let x := Quotient.ofBinary p.mantissa p.exponent
  roundDiv .toEven (x.numerator * 1000) x.denominator

/-- A measure with three decimals. A size that rounds to zero has no sign. -/
def fixedText (x : Float) : List Char :=
  match parts? x with
  | some p =>
    let n := thousandths p
    let text := positional (n / 1000) 0 [] ++ '.' :: (decimalDigits (1000 + n % 1000)).drop 1
    if p.negative && n != 0 then '-' :: text else text
  | none => floatText x

example : floatText 1e22 = ['1', 'e', '+', '2', '2'] := by decide +kernel
example : floatText 0.0001 = ['0', '.', '0', '0', '0', '1'] := by decide +kernel
example : fixedText (-0.0001) = ['0', '.', '0', '0', '0'] := by decide +kernel

end DocTemplate.Number
