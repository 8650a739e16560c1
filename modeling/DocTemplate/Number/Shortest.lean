import DocTemplate.Number.Binary
import DocTemplate.Number.Numeral
import DocTemplate.Number.Rounding

/-!
# The fewest digits that read back

Every double is the nearest one to all numbers of an interval around it. `shortest` looks for a
decimal in that interval with as few digits as possible: on each grid of decimals it tests the two
neighbours of the double, and of two hits it takes the nearer one.
-/

namespace DocTemplate.Number

/-- A positive number `numerator / denominator`. -/
structure Quotient where
  numerator : Nat
  denominator : Nat
deriving Repr

def Quotient.ofBinary (m : Nat) (e : Int) : Quotient :=
  if 0 ≤ e then ⟨m * Nat.pow 2 e.toNat, 1⟩ else ⟨m, Nat.pow 2 (-e).toNat⟩

/-- The numbers that a double is the nearest one to: from `low` to `high`, which belong to them
when `closed`. -/
structure RoundingInterval where
  low : Quotient
  high : Quotient
  closed : Bool

/-- The numbers that round to a positive double; ties go to the double with an even mantissa. -/
def roundingInterval (p : BinaryParts) : RoundingInterval where
  low := .ofBinary (if p.atPowerOfTwo then 4 * p.mantissa - 1 else 4 * p.mantissa - 2) (p.exponent - 2)
  high := .ofBinary (4 * p.mantissa + 2) (p.exponent - 2)
  closed := p.mantissa % 2 == 0

/-- Whether a quotient is at most another one. -/
def Quotient.le (a b : Quotient) : Bool := a.numerator * b.denominator ≤ b.numerator * a.denominator

/-- Whether a quotient is less than another one. -/
def Quotient.lt (a b : Quotient) : Bool := a.numerator * b.denominator < b.numerator * a.denominator

def RoundingInterval.holds (i : RoundingInterval) (x : Quotient) : Bool :=
  if i.closed then i.low.le x && x.le i.high else i.low.lt x && x.lt i.high

def Quotient.ofDecimal (coefficient : Nat) (exponent : Int) : Quotient :=
  if 0 ≤ exponent then ⟨coefficient * Nat.pow 10 exponent.toNat, 1⟩
  else ⟨coefficient, Nat.pow 10 (-exponent).toNat⟩

/-- `x / 10 ^ exponent`, cut to a whole number: how many steps of the grid fit below `x`. -/
def Quotient.steps (x : Quotient) (exponent : Int) : Nat :=
  if 0 ≤ exponent then x.numerator / (x.denominator * Nat.pow 10 exponent.toNat)
  else x.numerator * Nat.pow 10 (-exponent).toNat / x.denominator

/-- Twice the rest of `x` above its last grid step, compared with one step: which of the two grid
neighbours is nearer. -/
def Quotient.nearerAbove (x : Quotient) (exponent : Int) (below : Nat) : Bool :=
  let (n, d) :=
    if 0 ≤ exponent then (x.numerator, x.denominator * Nat.pow 10 exponent.toNat)
    else (x.numerator * Nat.pow 10 (-exponent).toNat, x.denominator)
  let twice := 2 * (n - below * d)
  d < twice || (twice == d && below % 2 == 1)

/-- The number on the grid of step `10 ^ exponent` that rounds to the double, the nearer of two. -/
def onGrid? (interval : RoundingInterval) (x : Quotient) (exponent : Int) : Option Nat :=
  let below := x.steps exponent
  let lower := interval.holds (.ofDecimal below exponent)
  let upper := interval.holds (.ofDecimal (below + 1) exponent)
  if lower && upper then some (if x.nearerAbove exponent below then below + 1 else below)
  else if lower then some below
  else if upper then some (below + 1)
  else none

/-- The first grid of a list of steps on which the double can be written. -/
def firstGrid? (interval : RoundingInterval) (x : Quotient) : List Int → Option (Nat × Int)
  | [] => none
  | e :: es =>
    match onGrid? interval x e with
    | some n => some (n, e)
    | none => firstGrid? interval x es

/-- The power of ten just above a number: the least `k` of a window with `x < 10 ^ k`. -/
def Quotient.magnitude (x : Quotient) : Int :=
  let guess : Int := digitCount x.numerator - digitCount x.denominator
  if x.lt (.ofDecimal 1 guess) then guess else guess + 1

/-- A number without the zeros at its end, and how many they were. -/
def dropZeros : Nat → Nat → Nat × Nat
  | 0, n => (n, 0)
  | fuel + 1, n =>
    if n ≠ 0 ∧ n % 10 = 0 then
      let (m, k) := dropZeros fuel (n / 10)
      (m, k + 1)
    else (n, 0)

/-- The shortest decimal `coefficient * 10 ^ exponent` that rounds to a positive finite double.
Seventeen digits are enough for every double. -/
def shortest (p : BinaryParts) : Nat × Int :=
  let x := Quotient.ofBinary p.mantissa p.exponent
  let k := x.magnitude
  let grids := (List.range 17).map fun n => k - (n + 1 : Nat)
  let (n, e) := (firstGrid? (roundingInterval p) x grids).getD (x.steps (k - 17), k - 17)
  let (m, zeros) := dropZeros 20 n
  (m, e + zeros)

example : (parts? 0.1).map shortest = some (1, -1) := by decide +kernel
example : (parts? 5e-324).map shortest = some (5, -324) := by decide +kernel

end DocTemplate.Number
