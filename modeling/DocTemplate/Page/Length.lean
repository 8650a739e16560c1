import DocTemplate.Number.Binary
import DocTemplate.Value.Failure

/-!
# Lengths

What pages are measured in. Drawing needs the arithmetic of lengths and their order, and no more, so
that it can be reasoned about in exact numbers and run in doubles.
-/

namespace DocTemplate.Page

open DocTemplate.Number

/-- Numbers that pages are measured in. -/
class Length (α : Type) extends Add α, Sub α, Mul α, Div α, LE α, LT α, OfScientific α where
  decidableLE : DecidableLE α
  decidableLT : DecidableLT α
  ofNat : Nat → α
  ofFloat : Float → α
  /-- A whole number that is not below a length. -/
  ceil : α → Nat
  /-- Why a length cannot be written, if it cannot. -/
  refusal? : α → Option Failure

attribute [reducible, instance] Length.decidableLE Length.decidableLT

/-- The smaller of two lengths; of equal ones the first. -/
def smaller {α : Type} [Length α] (a b : α) : α := if b < a then b else a

/-- A whole number that is not below a double; none is needed below one that has no value. -/
def ceilOfFloat (x : Float) : Nat :=
  match parts? x with
  | none => 0
  | some p =>
    if p.negative then 0
    else if 0 ≤ p.exponent then p.mantissa * Nat.pow 2 p.exponent.toNat
    else p.mantissa / Nat.pow 2 p.exponent.natAbs + 1

/-- Why a double cannot be written as a length. -/
def refusalOfFloat? (x : Float) : Option Failure :=
  if isFinite x then none
  else if isNaN x then some .undefinedLength
  else some .infiniteLength

instance : Length Float where
  decidableLE := inferInstance
  decidableLT := inferInstance
  ofNat n := ofInt n
  ofFloat x := x
  ceil := ceilOfFloat
  refusal? := refusalOfFloat?

end DocTemplate.Page
