import Mathlib.Data.Int.Log
import DocTemplate.Proofs.Format.Rounding

/-!
# Significant digits

Rounding to the working precision takes the nearest multiple of the unit of the last digit, half to even
(`roundedNumeral_nearest`). A number with no more digits than the precision is kept (`roundedNumeral_exact`).
-/

namespace DocTemplate

open DocTemplate.Number

/-- A whole number nearest to a size; of two that are equally near, the even one. -/
def NearestEven (x : ℚ) (k : ℕ) : Prop := |x - k| < 1 / 2 ∨ |x - k| = 1 / 2 ∧ Even k

/-- The unit of a number's last digit, where it is written with all digits of the working precision. -/
def lastUnit (x : ℚ) : ℚ := 10 ^ (Int.log 10 |x| + 1 - workingPrecision)

/-- A number that can be written with a count of significant digits. -/
def HasDigits (count : ℕ) (x : ℚ) : Prop := ∃ m e : ℤ, |m| < 10 ^ count ∧ x = m * 10 ^ e

variable {x : ℚ} {n : Numeral}

theorem lastUnit_pos (x : ℚ) : 0 < lastUnit x := by
  unfold lastUnit
  positivity

theorem lastUnit_abs (x : ℚ) : lastUnit |x| = lastUnit x := by
  unfold lastUnit
  rw [abs_abs]

/-! ## Nearest whole numbers -/

theorem nearestEven_natCast (k : ℕ) : NearestEven k k := .inl (by norm_num)

theorem NearestEven.abs_sub_le {k : ℕ} (h : NearestEven x k) : |x - k| ≤ 1 / 2 :=
  h.elim le_of_lt fun htie => htie.1.le

theorem NearestEven.eq_of_natCast {k m : ℕ} (h : NearestEven m k) : k = m := by
  obtain ⟨hlow, hhigh⟩ := abs_le.mp h.abs_sub_le
  have hbelow : m < k + 1 := by
    have : (m : ℚ) < (k + 1 : ℕ) := by push_cast; linarith
    exact_mod_cast this
  have habove : k < m + 1 := by
    have : (k : ℚ) < (m + 1 : ℕ) := by push_cast; linarith
    exact_mod_cast this
  omega

/-- A whole number is reached by rounding from one half below it on, and from the half itself just if it is even. -/
theorem NearestEven.le_iff {k m : ℕ} (h : NearestEven x k) :
    m ≤ k ↔ (m : ℚ) - x < 1 / 2 ∨ (m : ℚ) - x = 1 / 2 ∧ Even m := by
  obtain ⟨hlow, hhigh⟩ := abs_le.mp h.abs_sub_le
  constructor
  · intro hle
    have hle' : (m : ℚ) ≤ k := Nat.cast_le.mpr hle
    rcases lt_or_ge ((m : ℚ) - x) (1 / 2) with hless | hmore
    · exact .inl hless
    · have hm : (m : ℚ) = k := by linarith
      obtain rfl : m = k := by exact_mod_cast hm
      have hhalf : (m : ℚ) - x = 1 / 2 := by linarith
      rcases h with hnear | ⟨-, heven⟩
      · rw [abs_lt] at hnear
        linarith
      · exact .inr ⟨hhalf, heven⟩
  · intro hreach
    by_contra hnot
    have hle : (k : ℚ) + 1 ≤ m := by exact_mod_cast Nat.succ_le_of_lt (not_le.mp hnot)
    rcases hreach with hless | ⟨hhalf, heven⟩
    · linarith
    · -- The even number itself is one above its odd neighbour, from which it is a half away as well.
      have hk : (k : ℚ) + 1 = m := by linarith
      have hm : k + 1 = m := by exact_mod_cast hk
      have htie : |x - k| = 1 / 2 := by
        rw [abs_of_nonneg (by linarith)]
        linarith
      rcases h with hnear | ⟨-, hodd⟩
      · exact hnear.ne htie
      · exact (Nat.even_add_one.mp (hm ▸ heven)) hodd

theorem nearestEven_roundDiv (c : ℕ) {d : ℕ} (hd : 0 < d) : NearestEven (c / d) (roundDiv .toEven c d) := by
  obtain ⟨q, hq⟩ : ∃ q, q = c / d := ⟨_, rfl⟩
  obtain ⟨r, hr⟩ : ∃ r, r = c % d := ⟨_, rfl⟩
  have hd' : (0 : ℚ) < d := Nat.cast_pos.mpr hd
  have hquotient : (c / d : ℚ) = q + r / d := by
    have hc : (c : ℚ) = d * q + r := by
      rw [hq, hr]
      exact_mod_cast (Nat.div_add_mod c d).symm
    rw [hc]
    field_simp
  have hnonneg : (0 : ℚ) ≤ r / d := by positivity
  have hless : (r / d : ℚ) < 1 := (div_lt_one hd').mpr (by exact_mod_cast hr ▸ Nat.mod_lt c hd)
  have hbelow : (r / d : ℚ) < 1 / 2 ↔ 2 * r < d := by
    rw [div_lt_div_iff₀ hd' two_pos, one_mul, mul_comm]
    exact_mod_cast Iff.rfl
  have htie : (r / d : ℚ) = 1 / 2 ↔ 2 * r = d := by
    rw [div_eq_div_iff hd'.ne' two_ne_zero, one_mul, mul_comm]
    exact_mod_cast Iff.rfl
  unfold roundDiv Tie.roundsUp
  simp only [← hq, ← hr, beq_iff_eq]
  rw [hquotient]
  split
  · next hup =>
    have hdistance : |(q + r / d - (q + 1 : ℕ) : ℚ)| = 1 - r / d := by
      push_cast
      rw [add_sub_add_left_eq_sub, abs_sub_comm, abs_of_pos (by linarith)]
    unfold NearestEven
    rw [hdistance]
    rcases hup with hmore | ⟨hhalf, hodd⟩
    · have hmore' : ¬(r / d : ℚ) ≤ 1 / 2 := by
        rw [le_iff_lt_or_eq, hbelow, htie]
        omega
      exact .inl (by linarith)
    · exact .inr ⟨by linarith [htie.mpr hhalf], Nat.even_iff.mpr (by omega)⟩
  · next hdown =>
    have hdistance : |(q + r / d - q : ℚ)| = r / d := by
      rw [add_sub_cancel_left, abs_of_nonneg hnonneg]
    unfold NearestEven
    rw [hdistance, hbelow, htie, Nat.even_iff]
    omega

/-! ## The unit of the last digit -/

theorem log_size (hne : n.coefficient ≠ 0) : Int.log 10 n.size = leadingExponent n.coefficient n.exponent := by
  have hpos : 0 < n.size := by
    unfold Numeral.size
    positivity
  have hsame : ∀ g : ℤ, g < leadingExponent n.coefficient n.exponent ↔ g < Int.log 10 n.size := by
    intro g
    rw [lt_leadingExponent_iff hne, ← Int.add_one_le_iff, ← Int.zpow_le_iff_le_log (by decide) hpos]
    rfl
  exact le_antisymm (not_lt.mp fun h => lt_irrefl _ ((hsame _).mpr h))
    (not_lt.mp fun h => lt_irrefl _ ((hsame _).mp h))

theorem size_nonneg (n : Numeral) : 0 ≤ n.size := by
  unfold Numeral.size
  positivity

theorem lastUnit_size (hne : n.coefficient ≠ 0) :
    lastUnit n.size = 10 ^ (n.exponent + digitCount n.coefficient - workingPrecision) := by
  rw [lastUnit, abs_of_nonneg (size_nonneg n), log_size hne, leadingExponent]
  congr 1
  ring

theorem HasDigits.abs {count : ℕ} (h : HasDigits count x) : HasDigits count |x| := by
  obtain ⟨m, e, hm, rfl⟩ := h
  refine ⟨|m|, e, by rwa [abs_abs], ?_⟩
  rw [abs_mul, abs_of_pos (by positivity : (0 : ℚ) < 10 ^ e), Int.cast_abs]

/-- A number with no more digits than the precision is a multiple of the unit of its last digit. -/
theorem HasDigits.exists_eq_mul_lastUnit (h : HasDigits workingPrecision x) : ∃ k : ℕ, |x| = k * lastUnit x := by
  obtain ⟨m, e, hm, rfl⟩ := h
  rcases eq_or_ne m 0 with rfl | hne
  · exact ⟨0, by simp⟩
  · have hpow : (0 : ℚ) < 10 ^ e := by positivity
    have habs : |(m : ℚ) * 10 ^ e| = |(m : ℚ)| * 10 ^ e := by rw [abs_mul, abs_of_pos hpow]
    have hpos : 0 < |(m : ℚ) * 10 ^ e| := abs_pos.mpr (mul_ne_zero (Int.cast_ne_zero.mpr hne) hpow.ne')
    have hless : |(m : ℚ) * 10 ^ e| < 10 ^ (workingPrecision + e) := by
      rw [habs, zpow_add₀ (by norm_num), zpow_natCast]
      exact mul_lt_mul_of_pos_right (by exact_mod_cast hm) hpow
    have hlog : Int.log 10 |(m : ℚ) * 10 ^ e| < workingPrecision + e :=
      (Int.lt_zpow_iff_log_lt (by decide) hpos).mp hless
    obtain ⟨u, hu⟩ : ∃ u, u = Int.log 10 |(m : ℚ) * 10 ^ e| + 1 - workingPrecision := ⟨_, rfl⟩
    have hle : u ≤ e := by omega
    obtain ⟨j, rfl⟩ := Int.exists_add_of_le hle
    refine ⟨m.natAbs * 10 ^ j, ?_⟩
    rw [lastUnit, ← hu, habs, zpow_add₀ (by norm_num), zpow_natCast, Nat.cast_mul, Nat.cast_natAbs, Int.cast_abs]
    push_cast
    ring

/-! ## Rounding to the precision -/

/-- The rounded number has the same size with and without the carry. -/
theorem size_roundedNumeral (n : Numeral) :
    (roundedNumeral n).size = mantissa n.coefficient * 10 ^ (n.exponent + excess n.coefficient) := by
  unfold roundedNumeral
  simp only
  split
  · next hcarry =>
    have hcast : (mantissa n.coefficient : ℚ) = (mantissa n.coefficient / 10 : ℕ) * 10 := by
      exact_mod_cast mantissa_carried hcarry
    rw [Numeral.size, zpow_add_one₀ (by norm_num) (n.exponent + _), hcast, mul_assoc, mul_comm (10 ^ _)]
  · rfl

theorem roundToPrecision_eq_ok (hsize : n.size < leastRefused) : roundToPrecision n = .ok (roundedNumeral n) := by
  have hnot : ∀ e, roundToPrecision n ≠ .error e := fun e h =>
    absurd (roundToPrecision_eq_error_iff.mp h).2 (not_le.mpr hsize)
  rw [roundToPrecision_eq] at hnot ⊢
  split
  · next h => exact absurd (if_pos h) (hnot _)
  · rfl

theorem mantissa_zero : mantissa 0 = 0 := by decide

theorem coefficient_roundedNumeral (hzero : n.coefficient = 0) : (roundedNumeral n).coefficient = 0 := by
  unfold roundedNumeral
  rw [hzero, mantissa_zero, if_neg (by decide)]

theorem negative_roundedNumeral (n : Numeral) : (roundedNumeral n).negative = n.negative := by
  unfold roundedNumeral
  simp only
  split <;> rfl

/-- A number is rounded to the nearest multiple of the unit of its last digit. -/
theorem roundedNumeral_nearest (n : Numeral) :
    ∃ k : ℕ, (roundedNumeral n).size = k * lastUnit n.size ∧ NearestEven (n.size / lastUnit n.size) k := by
  have hten : (10 : ℚ) ≠ 0 := by norm_num
  rw [size_roundedNumeral]
  rcases eq_or_ne n.coefficient 0 with hzero | hne
  · refine ⟨0, ?_, ?_⟩
    · rw [hzero, mantissa_zero, Nat.cast_zero, zero_mul, zero_mul]
    · rw [Numeral.size, hzero]
      simpa using nearestEven_natCast 0
  · rw [lastUnit_size hne, Numeral.size]
    rcases le_total workingPrecision (digitCount n.coefficient) with hmore | hless
    · have hunit : n.exponent + digitCount n.coefficient - workingPrecision =
          n.exponent + excess n.coefficient := by
        unfold excess
        omega
      have hscaled : (n.coefficient * 10 ^ n.exponent / 10 ^ (n.exponent + excess n.coefficient) : ℚ) =
          n.coefficient / (10 ^ excess n.coefficient : ℕ) := by
        rw [zpow_add₀ hten, zpow_natCast]
        push_cast
        field_simp
      refine ⟨mantissa n.coefficient, by rw [hunit], ?_⟩
      rw [hunit, hscaled]
      exact nearestEven_roundDiv n.coefficient (Nat.pow_pos (by decide))
    · -- There are digits to spare: the number is a multiple of the unit as it is.
      obtain ⟨j, hj⟩ := Nat.exists_eq_add_of_le hless
      have hexcess : excess n.coefficient = 0 := by
        unfold excess
        omega
      have hmantissa := mantissa_eq n.coefficient
      rw [if_pos hexcess] at hmantissa
      have hunit : (10 : ℚ) ^ n.exponent =
          10 ^ j * 10 ^ (n.exponent + digitCount n.coefficient - workingPrecision) := by
        rw [← zpow_natCast, ← zpow_add₀ hten]
        congr 1
        omega
      have hwhole : (n.coefficient * 10 ^ n.exponent : ℚ) = (n.coefficient * 10 ^ j : ℕ) *
          10 ^ (n.exponent + digitCount n.coefficient - workingPrecision) := by
        rw [hunit]
        push_cast
        ring
      refine ⟨n.coefficient * 10 ^ j, ?_, ?_⟩
      · rw [hexcess, ← hmantissa, Nat.cast_zero, add_zero, hwhole]
      · rw [hwhole, mul_div_assoc, div_self (by positivity), mul_one]
        exact nearestEven_natCast _

/-- A number with no more digits than the precision is not changed. -/
theorem roundedNumeral_exact (h : HasDigits workingPrecision n.size) : (roundedNumeral n).size = n.size := by
  obtain ⟨k, hk, hnear⟩ := roundedNumeral_nearest n
  obtain ⟨j, hj⟩ := h.exists_eq_mul_lastUnit
  rw [abs_of_nonneg (size_nonneg n)] at hj
  have hwhole : n.size / lastUnit n.size = j := (div_eq_iff (lastUnit_pos _).ne').mpr hj
  rw [hwhole] at hnear
  rw [hk, hnear.eq_of_natCast, ← hj]

end DocTemplate
