import DocTemplate.Proofs.Number.Double
import DocTemplate.Page.Sheet

/-!
# Exact lengths

Lengths without rounding: rational numbers, among them the value of every finite double. No length is refused.
-/

namespace DocTemplate.Page

/-- A length that is a rational number. -/
@[ext]
structure Exact where
  value : ℚ
deriving DecidableEq

namespace Exact

/-- How many of the least positive doubles are one. -/
@[irreducible] def leastInOne : ℕ := Nat.pow 2 1074

/-- The value of a finite double. -/
def ofDouble (x : Float) : Exact := ⟨mkRat ((Number.units? x).getD 0) leastInOne⟩

instance : Preorder Exact := Preorder.lift value

instance : Length Exact where
  add a b := ⟨a.value + b.value⟩
  sub a b := ⟨a.value - b.value⟩
  mul a b := ⟨a.value * b.value⟩
  div a b := ⟨a.value / b.value⟩
  ofScientific m sign e := ⟨OfScientific.ofScientific m sign e⟩
  decidableLE a b := inferInstanceAs (Decidable (a.value ≤ b.value))
  decidableLT a b := inferInstanceAs (Decidable (a.value < b.value))
  ofNat n := ⟨n⟩
  ofFloat := ofDouble
  ceil a := ⌈a.value⌉₊
  refusal? _ := none

variable {a b : Exact}

theorem le_iff : a ≤ b ↔ a.value ≤ b.value := .rfl

theorem lt_iff : a < b ↔ a.value < b.value := .rfl

@[simp] theorem value_add : (a + b).value = a.value + b.value := rfl

@[simp] theorem value_sub : (a - b).value = a.value - b.value := rfl

@[simp] theorem value_mul : (a * b).value = a.value * b.value := rfl

@[simp] theorem value_div : (a / b).value = a.value / b.value := rfl

@[simp] theorem value_ofScientific (m : ℕ) (sign : Bool) (e : ℕ) :
    (OfScientific.ofScientific m sign e : Exact).value = OfScientific.ofScientific m sign e := rfl

/-- A double that is not negative has a value that is not negative. -/
theorem value_ofFloat_nonneg {x : Float} (hx : 0.0 ≤ x) : 0 ≤ (Length.ofFloat x : Exact).value := by
  obtain ⟨n, hn, hnonneg⟩ := Number.nonneg_iff.mp hx
  have hvalue : (Length.ofFloat x : Exact).value = mkRat n leastInOne := by
    change mkRat ((Number.units? x).getD 0) leastInOne = _
    rw [hn, Option.getD_some]
  rw [hvalue]
  exact Rat.mkRat_nonneg hnonneg leastInOne

/-- A call is refused only for its font or its picture. -/
theorem refusal?_eq_none {c : Call Exact} (hfont : c.missingFont? = none)
    (hpicture : c.pictureRefusal? = none) : c.refusal? = none := by
  unfold Call.refusal?
  rw [hfont, hpicture, Option.or_none]
  exact List.findSome?_eq_none_iff.mpr fun _ _ => rfl

end Exact

end DocTemplate.Page
