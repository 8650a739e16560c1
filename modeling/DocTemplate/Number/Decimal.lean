import DocTemplate.Number.FloatText

/-!
# Decimals

Decimal numbers keep the digits they were written with: `1.50` has the coefficient 150. Beside the
finite ones there are two infinities and values that are no number.
-/

namespace DocTemplate.Number

inductive Decimal
  /-- `± coefficient * 10 ^ exponent`. -/
  | finite (n : Numeral)
  | infinite (negative : Bool)
  /-- No number; its digits are kept. -/
  | nan (negative signaling : Bool) (digits : List Char)
deriving DecidableEq, Repr

/-- The greatest and least powers of ten that a decimal may be written with. -/
def decimalExponentLimit : Int := 999999999999999999

/-- The digits of a value that is no number, without zeros at the start. -/
def readPayload? (cs : List Char) : Option (List Char) :=
  match takeDigits Text.digitValue? cs with
  | (ds, []) => some ((ds.dropWhile (· == 0)).map Text.digitChar)
  | _ => none

/-- The values that digits alone cannot write. -/
def readSpecialDecimal? (cs : List Char) : Option Decimal :=
  let (negative, cs) := takeSign cs
  match cs.map Char.toLower with
  | ['i', 'n', 'f'] | ['i', 'n', 'f', 'i', 'n', 'i', 't', 'y'] => some (.infinite negative)
  | 'n' :: 'a' :: 'n' :: ds => (readPayload? ds).map (.nan negative false)
  | 's' :: 'n' :: 'a' :: 'n' :: ds => (readPayload? ds).map (.nan negative true)
  | _ => none

/-- A decimal as it is typed: blanks around it and underscores anywhere are dropped. -/
def readDecimal? (cs : List Char) : Option Decimal :=
  let cs := (Text.trim cs).filter (· != '_')
  match readSpecialDecimal? cs with
  | some d => some d
  | none => do
    let n ← readNumeral? Text.digitValue? cs
    let leading := leadingExponent n.coefficient n.exponent
    if decimalExponentLimit < leading ∨ n.exponent < -1999999999999999997 then none
    else some (.finite n)

/-- The text of a size: a power of ten is written when the exponent is positive or more than five
zeros would follow the point. -/
def decimalMagnitudeText (coefficient : Nat) (exponent : Int) : List Char :=
  let leading := leadingExponent coefficient exponent
  if exponent ≤ 0 ∧ -6 ≤ leading then positional coefficient exponent []
  else
    match decimalDigits coefficient with
    | [] => []
    | d :: ds =>
      let fraction := if ds.isEmpty then [] else '.' :: ds
      d :: fraction ++ 'E' :: (if leading < 0 then '-' else '+') :: decimalDigits leading.natAbs

def Decimal.text : Decimal → List Char
  | .finite n =>
    let size := decimalMagnitudeText n.coefficient n.exponent
    if n.negative then '-' :: size else size
  | .infinite negative =>
    if negative then "-Infinity".toList else "Infinity".toList
  | .nan negative signaling digits =>
    (if negative then ['-'] else []) ++ (if signaling then ['s'] else []) ++ ['N', 'a', 'N'] ++ digits

/-- The double nearest to a decimal. A signaling value has none. -/
def Decimal.toFloat? : Decimal → Option Float
  | .finite n => some n.toFloat
  | .infinite negative => some (if negative then -infinity else infinity)
  | .nan _ signaling _ => if signaling then none else some Number.nan

example : (readDecimal? ['1', 'E', '5']).map Decimal.text = some ['1', 'E', '+', '5'] := by decide

end DocTemplate.Number
