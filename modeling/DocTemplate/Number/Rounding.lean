/-!
# Rounding quotients

A quotient of natural numbers rounded to the nearest one; `Tie` says where an exact half goes.
-/

namespace DocTemplate.Number

/-- Where an exact half is rounded to. -/
inductive Tie
  /-- To the neighbour that is even. -/
  | toEven
  /-- To the greater neighbour. -/
  | upward
deriving DecidableEq, Repr

/-- Whether a half above the given quotient is rounded upwards. -/
def Tie.roundsUp : Tie → Nat → Bool
  | .toEven, q => q % 2 == 1
  | .upward, _ => true

/-- The natural number nearest to `n / d`. -/
def roundDiv (tie : Tie) (n d : Nat) : Nat :=
  let q := n / d
  let r := n % d
  if d < 2 * r ∨ (2 * r = d ∧ tie.roundsUp q = true) then q + 1 else q

/-- A quotient without remainder is kept. -/
theorem roundDiv_of_dvd (tie : Tie) {n d : Nat} (hd : 0 < d) (h : n % d = 0) :
    roundDiv tie n d = n / d := by
  unfold roundDiv
  simp only [h]
  split
  · next hc => omega
  · rfl

example : roundDiv .toEven 5 2 = 2 := rfl
example : roundDiv .upward 5 2 = 3 := rfl

end DocTemplate.Number
