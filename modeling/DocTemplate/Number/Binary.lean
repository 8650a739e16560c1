/-!
# Doubles as exact numbers

A finite double is a whole number times a power of two; `parts?` reads both off its bits.
-/

namespace DocTemplate.Number

/-- The exact value of a finite double: `± mantissa * 2 ^ exponent`. -/
structure BinaryParts where
  negative : Bool
  mantissa : Nat
  exponent : Int
  /-- Whether the next double towards zero is only half as far away as the next one outwards. -/
  atPowerOfTwo : Bool
deriving DecidableEq, Repr

/-- The parts of a double, or nothing for an infinity or a value that is no number. -/
def parts? (x : Float) : Option BinaryParts :=
  let bits : Nat := x.toBits.toNat
  let negative := bits / Nat.pow 2 63 == 1
  let exponentField : Nat := bits / Nat.pow 2 52 % 2048
  let fraction : Nat := bits % Nat.pow 2 52
  if exponentField = 2047 then none
  else if exponentField = 0 then some ⟨negative, fraction, -1074, false⟩
  else
    let atPower := fraction == 0 && 1 < exponentField
    some ⟨negative, Nat.pow 2 52 + fraction, (exponentField : Int) - 1075, atPower⟩

/-- Whether a double is a number with a finite value. -/
def isFinite (x : Float) : Bool := (parts? x).isSome

/-- Whether a double is the value that is no number. -/
def isNaN (x : Float) : Bool := x != x

/-- The whole number a double is, if it is one. -/
def wholeValue? (x : Float) : Option Int := do
  let p ← parts? x
  let size ←
    if 0 ≤ p.exponent then some (p.mantissa * Nat.pow 2 p.exponent.toNat)
    else
      let unit := Nat.pow 2 (-p.exponent).toNat
      if p.mantissa % unit = 0 then some (p.mantissa / unit) else none
  some (if p.negative then -size else size)

/-- The double nearest to a whole number; beyond the largest double it is infinite. -/
def ofInt (n : Int) : Float :=
  let size := Float.ofScientific n.natAbs false 0
  if n < 0 then -size else size

def infinity : Float := 1.0 / 0.0

/-- The value that is no number. -/
def nan : Float := 0.0 / 0.0

example : wholeValue? (-2.0) = some (-2) := by decide +kernel
example : wholeValue? 2.5 = none := by decide +kernel

end DocTemplate.Number
