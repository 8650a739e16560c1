import Mathlib.NumberTheory.Padics.PadicVal.Basic
import Mathlib.Tactic.FieldSimp
import Mathlib.Tactic.Positivity
import DocTemplate.Number.Exact
import DocTemplate.Proofs.Format.Rounding

/-!
# Forms of exact numbers

Taking the factors two and five out of a number does not change it, and what is left determines it: two
forms are equal exactly if the numbers are. So whole numbers, doubles and decimals are compared by value.
-/

namespace DocTemplate.Number

/-! ## Factors -/

/-- The factors that are taken out give the number back, and none is left. -/
theorem takeFactors_spec {p : ℕ} (hp : 1 < p) (fuel n : ℕ) (hn : 0 < n) (hfuel : n < 2 ^ fuel) :
    (takeFactors p fuel n).1 * p ^ (takeFactors p fuel n).2 = n ∧ ¬p ∣ (takeFactors p fuel n).1 := by
  induction fuel generalizing n with
  | zero =>
    rw [pow_zero] at hfuel
    omega
  | succ fuel ih =>
    unfold takeFactors
    by_cases hdvd : n % p = 0
    · have hquotient : n / p * p = n := Nat.div_mul_cancel (Nat.dvd_of_mod_eq_zero hdvd)
      have hpos : 0 < n / p := Nat.div_pos (Nat.le_of_dvd hn (Nat.dvd_of_mod_eq_zero hdvd)) (by omega)
      have hhalf : n / p ≤ n / 2 := Nat.div_le_div_left hp (by omega)
      have hless : n / p < 2 ^ fuel := by
        rw [pow_succ] at hfuel
        omega
      obtain ⟨hproduct, hrest⟩ := ih (n / p) hpos hless
      rw [if_pos hdvd]
      refine ⟨?_, hrest⟩
      dsimp only
      rw [pow_succ, ← mul_assoc, hproduct, hquotient]
    · rw [if_neg hdvd]
      exact ⟨by simp, fun h => hdvd (Nat.mod_eq_zero_of_dvd h)⟩

theorem lt_two_pow_log2_succ (n : ℕ) : n < 2 ^ (n.log2 + 1) := Nat.lt_log2_self

/-! ## Values -/

namespace Exact

/-- The number that a form stands for. -/
def value (e : Exact) : ℚ := (if e.negative then -1 else 1) * e.core * 2 ^ e.twos * 5 ^ e.fives

/-- A form out of which all factors two and five have been taken. -/
inductive IsReduced : Exact → Prop
  | zero : IsReduced ⟨false, 0, 0, 0⟩
  | core {e : Exact} (htwo : ¬2 ∣ e.core) (hfive : ¬5 ∣ e.core) : IsReduced e

theorem normal_spec (negative : Bool) (n : ℕ) (twos fives : ℤ) :
    (normal negative n twos fives).IsReduced ∧ (normal negative n twos fives).value =
      (if negative then -1 else 1) * n * 2 ^ twos * 5 ^ fives := by
  unfold normal
  by_cases hn : n = 0
  · rw [if_pos hn]
    exact ⟨.zero, by simp [value, hn]⟩
  obtain ⟨htwos, htwo⟩ := takeFactors_spec (by decide : 1 < 2) _ n (Nat.pos_of_ne_zero hn)
    (lt_two_pow_log2_succ n)
  rw [if_neg hn]
  dsimp only
  generalize takeFactors 2 (n.log2 + 1) n = even at htwos htwo ⊢
  have hodd : 0 < even.1 := Nat.pos_of_ne_zero fun h => htwo (by simp [h])
  obtain ⟨hfives, hfive⟩ := takeFactors_spec (by decide : 1 < 5) _ even.1 hodd
    (lt_two_pow_log2_succ even.1)
  generalize takeFactors 5 (even.1.log2 + 1) even.1 = rest at hfives hfive ⊢
  refine ⟨.core (fun h => htwo ?_) hfive, ?_⟩
  · rw [← hfives]
    exact h.mul_right _
  · have hcast : (n : ℚ) = rest.1 * 5 ^ rest.2 * 2 ^ even.2 := by
      rw [← htwos, ← hfives]
      push_cast
      ring
    rw [value, hcast, zpow_add₀ (by norm_num), zpow_add₀ (by norm_num), zpow_natCast, zpow_natCast]
    ring

theorem value_normal (negative : Bool) (n : ℕ) (twos fives : ℤ) : (normal negative n twos fives).value =
    (if negative then -1 else 1) * n * 2 ^ twos * 5 ^ fives :=
  (normal_spec negative n twos fives).2

/-! ## One form for each number -/

variable {d e : Exact}

theorem value_ne_zero (h : e.core ≠ 0) : e.value ≠ 0 := by
  have hsign : (if e.negative then -1 else 1 : ℚ) ≠ 0 := by split <;> norm_num
  have hcore : (e.core : ℚ) ≠ 0 := Nat.cast_ne_zero.mpr h
  unfold value
  positivity

theorem value_neg_iff (h : e.core ≠ 0) : e.value < 0 ↔ e.negative := by
  have hsize : (0 : ℚ) < e.core * 2 ^ e.twos * 5 ^ e.fives := by
    have hcore : (0 : ℚ) < e.core := Nat.cast_pos.mpr (Nat.pos_of_ne_zero h)
    positivity
  unfold value
  cases e.negative
  · simpa [mul_assoc] using (by simpa [mul_assoc] using hsize.le)
  · simpa [mul_assoc] using hsize

/-- How often a prime divides a number, by its form. -/
theorem padicValRat_value (p : ℕ) [Fact p.Prime] (h : e.core ≠ 0) : padicValRat p e.value =
    padicValNat p e.core + e.twos * padicValNat p 2 + e.fives * padicValNat p 5 := by
  have hsign : (if e.negative then -1 else 1 : ℚ) ≠ 0 := by split <;> norm_num
  have hunit : padicValRat p (if e.negative then -1 else 1 : ℚ) = 0 := by split <;> simp
  have hcore : (e.core : ℚ) ≠ 0 := Nat.cast_ne_zero.mpr h
  have htwo : padicValRat p (2 : ℚ) = padicValNat p 2 := padicValRat.of_nat (n := 2)
  have hfive : padicValRat p (5 : ℚ) = padicValNat p 5 := padicValRat.of_nat (n := 5)
  unfold value
  rw [padicValRat.mul (by positivity) (by positivity), padicValRat.mul (by positivity) (by positivity),
    padicValRat.mul hsign hcore, hunit, padicValRat.of_nat, padicValRat.zpow, padicValRat.zpow, htwo, hfive,
    zero_add]

theorem core_ne_zero_of_not_dvd (h : ¬2 ∣ e.core) : e.core ≠ 0 := fun h0 => h (by simp [h0])

theorem twos_eq_padicValRat (htwo : ¬2 ∣ e.core) : e.twos = padicValRat 2 e.value := by
  rw [padicValRat_value 2 (core_ne_zero_of_not_dvd htwo), padicValNat.eq_zero_of_not_dvd htwo,
    padicValNat.self (by decide), padicValNat.eq_zero_of_not_dvd (by decide : ¬2 ∣ 5)]
  simp

theorem fives_eq_padicValRat (htwo : ¬2 ∣ e.core) (hfive : ¬5 ∣ e.core) :
    e.fives = padicValRat 5 e.value := by
  have hprime : Fact (Nat.Prime 5) := ⟨by decide⟩
  rw [padicValRat_value 5 (core_ne_zero_of_not_dvd htwo), padicValNat.eq_zero_of_not_dvd hfive,
    padicValNat.self (by decide), padicValNat.eq_zero_of_not_dvd (by decide : ¬5 ∣ 2)]
  simp

/-- Two forms of one number are one form. -/
theorem IsReduced.eq_of_value_eq (hd : d.IsReduced) (he : e.IsReduced) (h : d.value = e.value) : d = e := by
  have hzero : (⟨false, 0, 0, 0⟩ : Exact).value = 0 := by simp [value]
  cases hd with
  | zero =>
    cases he with
    | zero => rfl
    | core htwo _ => exact absurd (h.symm.trans hzero) (value_ne_zero (core_ne_zero_of_not_dvd htwo))
  | core htwo hfive =>
    cases he with
    | zero => exact absurd (h.trans hzero) (value_ne_zero (core_ne_zero_of_not_dvd htwo))
    | core htwo' hfive' =>
      have htwos : d.twos = e.twos := by
        rw [twos_eq_padicValRat htwo, twos_eq_padicValRat htwo', h]
      have hfives : d.fives = e.fives := by
        rw [fives_eq_padicValRat htwo hfive, fives_eq_padicValRat htwo' hfive', h]
      have hsign : d.negative = e.negative := by
        rw [Bool.eq_iff_iff, ← value_neg_iff (core_ne_zero_of_not_dvd htwo),
          ← value_neg_iff (core_ne_zero_of_not_dvd htwo'), h]
      have hcore : d.core = e.core := by
        have hpowers : (2 : ℚ) ^ e.twos ≠ 0 ∧ (5 : ℚ) ^ e.fives ≠ 0 := ⟨by positivity, by positivity⟩
        have hunit : (if e.negative then -1 else 1 : ℚ) ≠ 0 := by split <;> norm_num
        unfold value at h
        rw [htwos, hfives, hsign] at h
        exact_mod_cast mul_left_cancel₀ hunit (mul_right_cancel₀ hpowers.1 (mul_right_cancel₀ hpowers.2 h))
      cases d
      cases e
      simp_all

end Exact

end DocTemplate.Number
