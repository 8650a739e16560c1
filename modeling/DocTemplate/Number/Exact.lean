import DocTemplate.Number.Decimal

/-!
# Exact values

Whole numbers, doubles and decimals are all of the form `n * 2 ^ a * 5 ^ b`. Taking all factors two
and five out of `n` makes the form unique, so two numbers of any kinds are equal exactly when their
forms are, and no power has to be computed.
-/

namespace DocTemplate.Number

/-- The number `± core * 2 ^ twos * 5 ^ fives`, where `core` has neither factor. -/
structure Exact where
  negative : Bool
  core : Nat
  twos : Int
  fives : Int
deriving DecidableEq, Repr

/-- A number without its factors `p`, and how many they were; `fuel` bounds their count. -/
def takeFactors (p : Nat) : Nat → Nat → Nat × Nat
  | 0, n => (n, 0)
  | fuel + 1, n =>
    if n % p = 0 then
      let (m, k) := takeFactors p fuel (n / p)
      (m, k + 1)
    else (n, 0)

/-- The unique form of `± n * 2 ^ twos * 5 ^ fives`; zero has one form. -/
def Exact.normal (negative : Bool) (n : Nat) (twos fives : Int) : Exact :=
  if n = 0 then ⟨false, 0, 0, 0⟩
  else
    let (m, a) := takeFactors 2 (n.log2 + 1) n
    let (core, b) := takeFactors 5 (m.log2 + 1) m
    ⟨negative, core, twos + a, fives + b⟩

/-- The exact value of a whole number. -/
def Exact.ofInt (n : Int) : Exact := .normal (n < 0) n.natAbs 0 0

/-- The exact value of a finite double. -/
def Exact.ofFloat? (x : Float) : Option Exact :=
  (parts? x).map fun p => .normal p.negative p.mantissa p.exponent 0

def Exact.ofNumeral (n : Numeral) : Exact := .normal n.negative n.coefficient n.exponent n.exponent

/-- A number of any kind as it is compared. -/
inductive Comparable
  | finite (x : Exact)
  | infinite (negative : Bool)
deriving DecidableEq, Repr

/-- How a double is compared; a value that is no number is equal to nothing. -/
def Comparable.ofFloat? (x : Float) : Option Comparable :=
  match Exact.ofFloat? x with
  | some e => some (.finite e)
  | none => if isNaN x then none else some (.infinite (x < 0))

/-- How a decimal is compared; a value that is no number is equal to nothing. -/
def Comparable.ofDecimal? : Decimal → Option Comparable
  | .finite n => some (.finite (.ofNumeral n))
  | .infinite negative => some (.infinite negative)
  | .nan .. => none

example : Exact.ofFloat? 0.5 = some (Exact.ofNumeral ⟨false, 50, -2⟩) := by decide +kernel

end DocTemplate.Number
