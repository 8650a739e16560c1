import Mathlib.Algebra.Order.Ring.Int
import DocTemplate.Number.Rounding

/-!
# Rounding to binary digits

A natural number rounded to 53 binary digits. The step from one rounded number to the next, the grain,
grows with the number; rounding keeps the order all the same (`rounded_mono`).
-/

namespace DocTemplate.Number

/-! ## Quotients -/

theorem div_le_roundDiv (tie : Tie) (n d : Nat) : n / d ≤ roundDiv tie n d := by
  unfold roundDiv
  simp only
  split <;> omega

theorem roundDiv_le_succ (tie : Tie) (n d : Nat) : roundDiv tie n d ≤ n / d + 1 := by
  unfold roundDiv
  simp only
  split <;> omega

/-- Of two quotients the greater one is not rounded to less. -/
theorem roundDiv_mono (tie : Tie) {m n : Nat} (d : Nat) (h : m ≤ n) :
    roundDiv tie m d ≤ roundDiv tie n d := by
  have hdiv : m / d ≤ n / d := Nat.div_le_div_right h
  rcases Nat.lt_or_eq_of_le hdiv with hlt | heq
  · have hm := roundDiv_le_succ tie m d
    have hn := div_le_roundDiv tie n d
    omega
  · have hrest : m % d ≤ n % d := by
      have hm := Nat.div_add_mod m d
      have hn := Nat.div_add_mod n d
      rw [heq] at hm
      omega
    unfold roundDiv
    simp only [heq]
    split
    · next hup =>
      rw [if_pos]
      by_cases hhalf : d < 2 * (n % d)
      · exact .inl hhalf
      · exact .inr ⟨by omega, by rcases hup with hup | hup <;> [omega; exact hup.2]⟩
    · split <;> omega

theorem roundDiv_mul_right (tie : Tie) (n d : Nat) {k : Nat} (hk : 0 < k) :
    roundDiv tie (n * k) (d * k) = roundDiv tie n d := by
  unfold roundDiv
  simp only [Nat.mul_div_mul_right n d hk, Nat.mul_mod_mul_right]
  have hless : d * k < 2 * (n % d * k) ↔ d < 2 * (n % d) := by
    rw [← Nat.mul_assoc]
    exact Nat.mul_lt_mul_right hk
  have hequal : 2 * (n % d * k) = d * k ↔ 2 * (n % d) = d := by
    rw [← Nat.mul_assoc]
    exact Nat.mul_right_cancel_iff hk
  simp only [hless, hequal]

theorem log2_mul_two_pow {n : ℕ} (hn : n ≠ 0) (k : ℕ) : (n * 2 ^ k).log2 = n.log2 + k := by
  have hpos := Nat.two_pow_pos k
  rw [Nat.log2_eq_iff (Nat.mul_ne_zero hn hpos.ne'), Nat.pow_add, Nat.add_right_comm, Nat.pow_add]
  exact ⟨Nat.mul_le_mul_right _ (Nat.log2_self_le hn), Nat.mul_lt_mul_of_pos_right Nat.lt_log2_self hpos⟩

/-! ## Rounding -/

/-- The step between rounded numbers near a number. -/
def grain (n : Nat) : Nat := 2 ^ (n.log2 - 52)

theorem grain_pos (n : Nat) : 0 < grain n := Nat.two_pow_pos _

/-- A number rounded to 53 binary digits; of two that are equally near, the one whose last digit is even. -/
def rounded (n : Nat) : Nat := roundDiv .toEven n (grain n) * grain n

/-- Rounding leaves 53 digits, and one more where it carries over all of them. -/
theorem roundDiv_grain_le (n : Nat) : roundDiv .toEven n (grain n) ≤ 2 ^ 53 := by
  have hless : n ≤ 2 ^ 53 * grain n := by
    calc n ≤ 2 ^ (n.log2 + 1) := Nat.le_of_lt Nat.lt_log2_self
      _ ≤ 2 ^ (53 + (n.log2 - 52)) := Nat.pow_le_pow_right (by omega) (by omega)
      _ = 2 ^ 53 * grain n := Nat.pow_add ..
  calc roundDiv .toEven n (grain n)
      ≤ roundDiv .toEven (2 ^ 53 * grain n) (grain n) := roundDiv_mono .toEven _ hless
    _ = 2 ^ 53 := by
      rw [roundDiv_of_dvd .toEven (grain_pos n) (Nat.mul_mod_left ..),
        Nat.mul_div_cancel _ (grain_pos n)]

theorem le_roundDiv_grain {n : Nat} (hn : 2 ^ 52 ≤ n) : 2 ^ 52 ≤ roundDiv .toEven n (grain n) := by
  have hlog : 52 ≤ n.log2 := (Nat.le_log2 (by omega)).mpr hn
  have hmore : 2 ^ 52 ≤ n / grain n := by
    rw [Nat.le_div_iff_mul_le (grain_pos n), grain, ← Nat.pow_add, Nat.add_sub_cancel' hlog]
    exact Nat.log2_self_le (by omega)
  exact Nat.le_trans hmore (div_le_roundDiv ..)

theorem rounded_of_dvd {n : Nat} (h : grain n ∣ n) : rounded n = n := by
  unfold rounded
  rw [roundDiv_of_dvd .toEven (grain_pos n) (Nat.mod_eq_zero_of_dvd h)]
  exact Nat.div_mul_cancel h

/-- A number below a whole number of its grains is not rounded beyond it. -/
theorem rounded_le {n m : Nat} (hnm : n ≤ m) (h : grain n ∣ m) : rounded n ≤ m := by
  obtain ⟨k, rfl⟩ := h
  have hround : roundDiv .toEven n (grain n) ≤ k := by
    calc roundDiv .toEven n (grain n)
        ≤ roundDiv .toEven (grain n * k) (grain n) := roundDiv_mono .toEven _ hnm
      _ = k := by
        rw [roundDiv_of_dvd .toEven (grain_pos n) (Nat.mul_mod_right ..),
          Nat.mul_div_cancel_left k (grain_pos n)]
  unfold rounded
  rw [Nat.mul_comm]
  exact Nat.mul_le_mul_left (grain n) hround

theorem le_rounded {n m : Nat} (hmn : m ≤ n) (h : grain n ∣ m) : m ≤ rounded n := by
  obtain ⟨k, rfl⟩ := h
  have hround : k ≤ roundDiv .toEven n (grain n) := by
    calc k = roundDiv .toEven (grain n * k) (grain n) := by
          rw [roundDiv_of_dvd .toEven (grain_pos n) (Nat.mul_mod_right ..),
            Nat.mul_div_cancel_left k (grain_pos n)]
      _ ≤ roundDiv .toEven n (grain n) := roundDiv_mono .toEven _ hmn
  unfold rounded
  rw [Nat.mul_comm (roundDiv ..)]
  exact Nat.mul_le_mul_left (grain n) hround

theorem log2_mono {m n : Nat} (h : m ≤ n) : m.log2 ≤ n.log2 := by
  by_cases hm : m = 0
  · subst hm
    simp
  · have hn : n ≠ 0 := by omega
    rw [Nat.le_log2 hn]
    exact Nat.le_trans (Nat.log2_self_le hm) h

/-- Rounding keeps the order. -/
theorem rounded_mono {m n : Nat} (h : m ≤ n) : rounded m ≤ rounded n := by
  rcases Nat.lt_or_eq_of_le (log2_mono h) with hlt | heq
  · -- A power of two stands between them, and is a whole number of grains for both.
    have hn : n ≠ 0 := by
      rintro rfl
      simp at hlt
    have hbetween : m ≤ 2 ^ n.log2 :=
      Nat.le_trans (Nat.le_of_lt Nat.lt_log2_self) (Nat.pow_le_pow_right (by omega) hlt)
    calc rounded m ≤ 2 ^ n.log2 := rounded_le hbetween (Nat.pow_dvd_pow 2 (by omega))
      _ ≤ rounded n := le_rounded (Nat.log2_self_le hn) (Nat.pow_dvd_pow 2 (Nat.sub_le ..))
  · unfold rounded grain
    rw [heq]
    exact Nat.mul_le_mul_right _ (roundDiv_mono .toEven _ h)

end DocTemplate.Number
