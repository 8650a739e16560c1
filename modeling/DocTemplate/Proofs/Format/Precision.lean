import Mathlib.Algebra.Order.Field.Power
import Mathlib.Data.Rat.Cast.Order
import Mathlib.Tactic.FieldSimp
import Mathlib.Tactic.Linarith
import Mathlib.Tactic.Positivity
import Mathlib.Tactic.Ring
import DocTemplate.Format.Amount
import DocTemplate.Proofs.Number.Grain

/-!
# The greatest amount

An amount is rounded to 28 digits before it is written, and the rounded amount may have a million digits
before the point and no more. So there is a least amount that is refused (`roundToPrecision_eq_error_iff`).
-/

namespace DocTemplate

open DocTemplate.Number

/-- The size of a number. -/
def Number.Numeral.size (n : Numeral) : ℚ := n.coefficient * 10 ^ n.exponent

/-- The least size that is rounded to one more digit than there may be. -/
def leastRefused : ℚ :=
  10 ^ (greatestExponent + 1) - 5 * 10 ^ (greatestExponent - workingPrecision)

/-! ## Digits -/

theorem lt_digitCount_iff {n k : Nat} (hk : 0 < k) : k < digitCount n ↔ 10 ^ k ≤ n := by
  rw [← Nat.not_le, ← Nat.not_lt (a := n)]
  exact not_congr (Nat.length_toDigits_le_iff (b := 10) (by decide) hk)

theorem digitCount_pos (n : Nat) : 0 < digitCount n := Nat.length_toDigits_pos

theorem lt_ten_pow_digitCount (n : Nat) : n < 10 ^ digitCount n :=
  (Nat.length_toDigits_le_iff (b := 10) (by decide) (digitCount_pos n)).mp le_rfl

theorem digitCount_mono {m n : Nat} (h : m ≤ n) : digitCount m ≤ digitCount n :=
  (Nat.length_toDigits_le_iff (by decide) (digitCount_pos n)).mpr (h.trans_lt (lt_ten_pow_digitCount n))

/-- The place of the first digit tells how great a number is. -/
theorem lt_leadingExponent_iff {c : Nat} (hc : c ≠ 0) {e g : ℤ} :
    g < leadingExponent c e ↔ (10 : ℚ) ^ (g + 1) ≤ c * 10 ^ e := by
  have hscale : (10 : ℚ) ^ (g + 1) ≤ c * 10 ^ e ↔ (10 : ℚ) ^ (g + 1 - e) ≤ c := by
    rw [zpow_sub₀ (by norm_num), div_le_iff₀ (by positivity)]
  rw [hscale]
  have hpos := digitCount_pos c
  unfold leadingExponent
  by_cases hk : 0 < g + 1 - e
  · obtain ⟨k, hk'⟩ := Int.eq_ofNat_of_zero_le hk.le
    rw [hk', zpow_natCast]
    have hdigits := lt_digitCount_iff (n := c) (k := k) (by omega)
    have hcast : (10 : ℚ) ^ k ≤ c ↔ 10 ^ k ≤ c := by exact_mod_cast Iff.rfl
    rw [hcast, ← hdigits]
    omega
  · refine iff_of_true (by omega) ?_
    have hone : (10 : ℚ) ^ (g + 1 - e) ≤ 1 := zpow_le_one_of_nonpos₀ (by norm_num) (by omega)
    have hc' : (1 : ℚ) ≤ c := Nat.one_le_cast.mpr (Nat.pos_of_ne_zero hc)
    exact hone.trans hc'

/-! ## Rounding -/

/-- A quotient is rounded to an even number or beyond from one half below it on. -/
theorem le_roundDiv_iff {n d q : Nat} (hd : 0 < d) (hq : q % 2 = 0) :
    q ≤ roundDiv .toEven n d ↔ 2 * q * d ≤ 2 * n + d := by
  have hn := Nat.div_add_mod n d
  have hr := Nat.mod_lt n hd
  unfold roundDiv Tie.roundsUp
  simp only [beq_iff_eq]
  obtain ⟨a, ha⟩ : ∃ a, a = n / d := ⟨_, rfl⟩
  obtain ⟨r, hr'⟩ : ∃ r, r = n % d := ⟨_, rfl⟩
  rw [← ha, ← hr'] at hn ⊢
  rw [← hr'] at hr
  rcases Nat.lt_trichotomy q (a + 1) with hless | rfl | hmore
  · have hmul : q * d ≤ d * a := by
      rw [Nat.mul_comm]
      exact Nat.mul_le_mul_left d (by omega)
    refine iff_of_true (by split <;> omega) ?_
    rw [Nat.mul_assoc]
    omega
  · have hmul : 2 * (a + 1) * d = 2 * (d * a) + 2 * d := by ring
    rw [hmul]
    split <;> omega
  · have hmul : d * a + 2 * d ≤ q * d := by
      calc d * a + 2 * d = (a + 2) * d := by ring
        _ ≤ q * d := Nat.mul_le_mul_right d hmore
    refine iff_of_false (by split <;> omega) ?_
    rw [Nat.mul_assoc]
    omega

/-- How many digits of a coefficient are rounded away. -/
def excess (c : Nat) : Nat := digitCount c - workingPrecision

/-- A coefficient rounded to the working precision; it has one digit more where rounding carries over all of
them. -/
def mantissa (c : Nat) : Nat := roundDiv .toEven c (10 ^ excess c)

theorem mantissa_eq (c : Nat) :
    (if excess c = 0 then c else roundDiv .toEven c (Nat.pow 10 (excess c))) = mantissa c := by
  unfold mantissa
  split
  · next h => rw [h, Nat.pow_zero, roundDiv_of_dvd .toEven Nat.one_pos (Nat.mod_one c), Nat.div_one]
  · rfl

theorem coefficient_lt (c : Nat) : c < 10 ^ workingPrecision * 10 ^ excess c := by
  rw [← Nat.pow_add]
  refine (lt_ten_pow_digitCount c).trans_le (Nat.pow_le_pow_right (by decide) ?_)
  unfold excess
  omega

/-- What is rounded keeps all its digits, or it has as many as there may be. -/
theorem mantissa_full (c : Nat) :
    excess c = 0 ∧ mantissa c = c ∨ 10 ^ (workingPrecision - 1) * 10 ^ excess c ≤ c := by
  by_cases h : excess c = 0
  · have heq := mantissa_eq c
    rw [if_pos h] at heq
    exact .inl ⟨h, heq.symm⟩
  · refine .inr ?_
    rw [← Nat.pow_add, ← lt_digitCount_iff]
    all_goals
      unfold excess workingPrecision at *
      omega

theorem mantissa_le (c : Nat) : mantissa c ≤ 10 ^ workingPrecision := by
  have hpos : 0 < 10 ^ excess c := Nat.pow_pos (by decide)
  have hdiv : c / 10 ^ excess c < 10 ^ workingPrecision :=
    Nat.div_lt_of_lt_mul (Nat.mul_comm .. ▸ coefficient_lt c)
  exact (roundDiv_le_succ ..).trans hdiv

/-- Where rounding carries over all digits, the last one is taken off again. -/
theorem mantissa_carried {c : Nat} (h : workingPrecision < digitCount (mantissa c)) :
    mantissa c = mantissa c / 10 * 10 := by
  have hless := mantissa_le c
  have hmore := (lt_digitCount_iff (by decide)).mp h
  rw [Nat.le_antisymm hless hmore]
  rfl

/-- The rounded number. -/
def roundedNumeral (n : Numeral) : Numeral :=
  let c := mantissa n.coefficient
  if workingPrecision < digitCount c then ⟨n.negative, c / 10, n.exponent + excess n.coefficient + 1⟩
  else ⟨n.negative, c, n.exponent + excess n.coefficient⟩

theorem roundToPrecision_eq (n : Numeral) :
    roundToPrecision n =
      if mantissa n.coefficient ≠ 0 ∧
          greatestExponent < leadingExponent (roundedNumeral n).coefficient (roundedNumeral n).exponent then
        .error .decimalTooGreat
      else .ok (roundedNumeral n) := by
  unfold roundToPrecision roundedNumeral
  rw [← mantissa_eq]
  rfl

/-- The rounded number has the same size with and without the carry. -/
theorem lt_leadingExponent_rounded_iff {n : Numeral} (hne : mantissa n.coefficient ≠ 0) :
    greatestExponent < leadingExponent (roundedNumeral n).coefficient (roundedNumeral n).exponent ↔
      (10 : ℚ) ^ (greatestExponent + 1) ≤
        mantissa n.coefficient * 10 ^ (n.exponent + excess n.coefficient) := by
  unfold roundedNumeral
  simp only
  split
  · next hcarry =>
    have hten := mantissa_carried hcarry
    have hcast : (mantissa n.coefficient : ℚ) = (mantissa n.coefficient / 10 : ℕ) * 10 := by
      exact_mod_cast hten
    have hne' : mantissa n.coefficient / 10 ≠ 0 := by
      intro h
      rw [h] at hten
      exact hne hten
    rw [lt_leadingExponent_iff hne',
      zpow_add_one₀ (by norm_num) (n.exponent + _), hcast, mul_assoc, mul_comm (10 ^ _)]
  · exact lt_leadingExponent_iff hne

theorem roundToPrecision_eq_error_iff_mantissa {n : Numeral} {e : Failure} :
    roundToPrecision n = .error e ↔ e = .decimalTooGreat ∧ mantissa n.coefficient ≠ 0 ∧
      (10 : ℚ) ^ (greatestExponent + 1) ≤
        mantissa n.coefficient * 10 ^ (n.exponent + excess n.coefficient) := by
  rw [roundToPrecision_eq, ← and_congr_right fun hne => lt_leadingExponent_rounded_iff hne]
  split
  · next h => exact ⟨fun heq => ⟨(Except.error.inj heq).symm, h⟩, fun heq => heq.1 ▸ rfl⟩
  · next h => exact iff_of_false nofun fun heq => h heq.2

/-! ## Where rounding reaches the bound -/

/-- A coefficient as a number with all its digits behind the point rounded away. -/
def scaled (c : Nat) : ℚ := c / 10 ^ excess c

theorem scaled_lt (c : Nat) : scaled c < 10 ^ workingPrecision := by
  unfold scaled
  rw [div_lt_iff₀ (by positivity)]
  exact_mod_cast coefficient_lt c

/-- What is rounded is itself, or has as many digits before the point as there may be. -/
theorem scaled_full (c : Nat) :
    scaled c = mantissa c ∨ (10 : ℚ) ^ (workingPrecision - 1) ≤ scaled c := by
  unfold scaled
  rcases mantissa_full c with ⟨hexcess, hsame⟩ | hfull
  · rw [hexcess, hsame, pow_zero, div_one]
    exact .inl rfl
  · rw [le_div_iff₀ (by positivity)]
    exact .inr (by exact_mod_cast hfull)

/-- A power of ten is reached from one half below it on. -/
theorem pow_le_mantissa_iff {c k : Nat} (hk : k ≠ 0) :
    (10 : ℚ) ^ k ≤ mantissa c ↔ (10 : ℚ) ^ k - 1 / 2 ≤ scaled c := by
  have heven : 10 ^ k % 2 = 0 := by
    rw [Nat.pow_mod, Nat.zero_pow (Nat.pos_of_ne_zero hk)]
  have hpos : (0 : ℚ) < 10 ^ excess c := by positivity
  have hround : (10 : ℚ) ^ k ≤ mantissa c ↔ 2 * (10 : ℚ) ^ k * 10 ^ excess c ≤ 2 * c + 10 ^ excess c := by
    have h := le_roundDiv_iff (n := c) (q := 10 ^ k) (Nat.pow_pos (by decide) : 0 < 10 ^ excess c) heven
    exact_mod_cast h
  unfold scaled
  rw [hround, le_div_iff₀ hpos]
  constructor <;> intro h <;> linarith

theorem one_le_scaled {c : Nat} (h : 0 < scaled c) : 1 ≤ scaled c := by
  rcases scaled_full c with hsame | hfull
  · rw [hsame] at h ⊢
    exact_mod_cast h
  · exact (one_le_pow₀ (by norm_num)).trans hfull

theorem mantissa_ne_zero_iff {c : Nat} : mantissa c ≠ 0 ↔ 0 < scaled c := by
  have hpos : 0 < 10 ^ excess c := Nat.pow_pos (by decide)
  constructor
  · intro h
    rcases scaled_full c with hsame | hfull
    · rw [hsame]
      exact_mod_cast Nat.pos_of_ne_zero h
    · exact lt_of_lt_of_le (by positivity) hfull
  · intro h
    have hone := one_le_scaled h
    unfold scaled at hone
    rw [le_div_iff₀ (by positivity), one_mul] at hone
    have hwhole : 0 < c / 10 ^ excess c := Nat.div_pos (by exact_mod_cast hone) hpos
    exact (hwhole.trans_le (div_le_roundDiv .toEven ..)).ne'

/-- Rounding reaches a power of ten from half a unit of the last digit below it on. -/
theorem le_mantissa_iff {c : Nat} (j : ℤ) :
    mantissa c ≠ 0 ∧ (10 : ℚ) ^ j ≤ mantissa c ↔
      (10 : ℚ) ^ j - 5 * 10 ^ (j - 1 - workingPrecision) ≤ scaled c := by
  have hten : (10 : ℚ) ≠ 0 := by norm_num
  have hmost : (0 : ℚ) < 10 ^ workingPrecision := by positivity
  have hhalf : 5 * (10 : ℚ) ^ (j - 1 - workingPrecision) = 10 ^ j / 10 ^ workingPrecision / 2 := by
    rw [zpow_sub₀ hten, zpow_sub₀ hten, zpow_natCast, zpow_one]
    ring
  rw [hhalf, mantissa_ne_zero_iff]
  obtain ⟨t, ht⟩ : ∃ t : ℚ, t = 10 ^ j := ⟨_, rfl⟩
  have hpos : 0 < t := ht ▸ by positivity
  have hpart : t / 10 ^ workingPrecision ≤ t := div_le_self hpos.le (one_le_pow₀ (by norm_num))
  rw [← ht]
  rcases le_or_gt j 0 with hsmall | hlarge
  · -- No power below one is missed by a number that is not zero.
    have hone : t ≤ 1 := ht ▸ zpow_le_one_of_nonpos₀ (by norm_num) hsmall
    constructor
    · rintro ⟨h, -⟩
      have := one_le_scaled h
      have : 0 < t / 10 ^ workingPrecision := by positivity
      linarith
    · intro h
      have hscaled : 0 < scaled c := by linarith
      have hmantissa : 1 ≤ mantissa c := Nat.one_le_iff_ne_zero.mpr (mantissa_ne_zero_iff.mpr hscaled)
      exact ⟨hscaled, hone.trans (by exact_mod_cast hmantissa)⟩
  · obtain ⟨k, rfl⟩ := Int.eq_ofNat_of_zero_le hlarge.le
    rw [zpow_natCast] at ht
    have hk : k ≠ 0 := by omega
    rcases le_or_gt k workingPrecision with hwithin | hmore
    · have hone : t / 10 ^ workingPrecision ≤ 1 := by
        rw [ht, div_le_one hmost]
        exact pow_le_pow_right₀ (by norm_num) hwithin
      have hreached : t ≤ mantissa c ↔ t - 1 / 2 ≤ scaled c := ht ▸ pow_le_mantissa_iff hk
      have hten' : 10 ≤ t := by
        rw [ht]
        exact le_self_pow₀ (by norm_num) hk
      constructor
      · rintro ⟨-, h⟩
        rcases Nat.lt_or_eq_of_le hwithin with hless | hlast
        · -- With digits to spare a power is reached by itself only.
          have hpower : t ≤ 10 ^ (workingPrecision - 1) := by
            rw [ht]
            exact pow_le_pow_right₀ (by norm_num) (by omega)
          have hpart' : 0 < t / 10 ^ workingPrecision := by positivity
          rcases scaled_full c with hsame | hfull <;> linarith
        · have hunit : t / 10 ^ workingPrecision = 1 := by rw [ht, hlast, div_self hmost.ne']
          rw [hunit]
          exact hreached.mp h
      · intro h
        exact ⟨by linarith, hreached.mpr (by linarith)⟩
    · -- Beyond the greatest coefficient there is nothing.
      have hgreat : (10 : ℚ) * 10 ^ workingPrecision ≤ t := by
        rw [ht, ← pow_succ']
        exact pow_le_pow_right₀ (by norm_num) hmore
      have hless := scaled_lt c
      have hle : (mantissa c : ℚ) ≤ 10 ^ workingPrecision := by exact_mod_cast mantissa_le c
      constructor
      · rintro ⟨-, h⟩
        linarith
      · intro h
        linarith

/-- A number is refused just if its size has reached the bound. -/
theorem roundToPrecision_eq_error_iff {n : Numeral} {e : Failure} :
    roundToPrecision n = .error e ↔ e = .decimalTooGreat ∧ leastRefused ≤ n.size := by
  rw [roundToPrecision_eq_error_iff_mantissa]
  refine and_congr_right fun _ => ?_
  have hpow : (0 : ℚ) < 10 ^ (n.exponent + excess n.coefficient) := by positivity
  rw [← div_le_iff₀ hpow, ← zpow_sub₀ (by norm_num), le_mantissa_iff, ← mul_le_mul_iff_left₀ hpow]
  have hten : (10 : ℚ) ≠ 0 := by norm_num
  have hsize : scaled n.coefficient * 10 ^ (n.exponent + excess n.coefficient) = n.size := by
    unfold scaled Numeral.size
    rw [zpow_add₀ hten, zpow_natCast]
    field_simp
  have hbound : ((10 : ℚ) ^ (greatestExponent + 1 - (n.exponent + excess n.coefficient)) -
      5 * 10 ^ (greatestExponent + 1 - (n.exponent + excess n.coefficient) - 1 - workingPrecision)) *
        10 ^ (n.exponent + excess n.coefficient) = leastRefused := by
    unfold leastRefused
    rw [sub_mul, mul_assoc, ← zpow_add₀ hten, ← zpow_add₀ hten, sub_add_cancel]
    congr 3
    ring
  rw [hsize, hbound]

end DocTemplate
