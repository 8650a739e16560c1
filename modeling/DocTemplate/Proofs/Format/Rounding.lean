import Mathlib.Data.Rat.Floor
import DocTemplate.Proofs.Format.Precision

/-!
# Rounding to decimal places

Rounding the digits of a number is rounding the number, to the nearest multiple of a power of ten and, from
the middle between two of them, away from zero.
-/

namespace DocTemplate

open DocTemplate.Number

/-- The number itself. -/
def Number.Numeral.value (n : Numeral) : ℚ := if n.negative then -n.size else n.size

theorem Number.Numeral.value_neg_iff {n : Numeral} : n.value < 0 ↔ n.negative = true ∧ n.coefficient ≠ 0 := by
  have hpow : (0 : ℚ) < 10 ^ n.exponent := by positivity
  have hsize : 0 < n.size ↔ n.coefficient ≠ 0 := by
    rw [Numeral.size, mul_pos_iff_of_pos_right hpow, Nat.cast_pos, Nat.pos_iff_ne_zero]
  unfold value
  split
  · next hneg => rw [neg_lt_zero, hsize, and_iff_right hneg]
  · next hpos =>
    have hnonneg : 0 ≤ n.size := by
      unfold size
      positivity
    exact iff_of_false (not_lt.mpr hnonneg) fun h => hpos h.1

/-- The whole number nearest to a number; of two that are equally near, the one farther from zero. -/
def roundAway (x : ℚ) : ℤ := if 0 ≤ x then ⌊x + 1 / 2⌋ else -⌊-x + 1 / 2⌋

/-- A number rounded to decimal places. -/
def roundedTo (places : ℕ) (x : ℚ) : ℚ := roundAway (x * 10 ^ places) / 10 ^ places

theorem floor_half : ⌊(1 / 2 : ℚ)⌋ = 0 := by norm_num

theorem roundAway_of_nonneg {x : ℚ} (h : 0 ≤ x) : roundAway x = ⌊x + 1 / 2⌋ := if_pos h

theorem roundAway_neg (x : ℚ) : roundAway (-x) = -roundAway x := by
  unfold roundAway
  rcases lt_trichotomy x 0 with hneg | rfl | hpos
  · rw [if_pos (by linarith), if_neg (by linarith), neg_neg]
  · simp only [neg_zero, le_refl, if_true, zero_add, floor_half]
  · rw [if_neg (by linarith), if_pos hpos.le, neg_neg]

theorem roundAway_natCast (n : ℕ) : roundAway n = n := by
  rw [roundAway_of_nonneg n.cast_nonneg, add_comm, Int.floor_add_natCast, floor_half, zero_add]

/-- Rounding moves a number by one half at most. -/
theorem abs_sub_roundAway_le (x : ℚ) : |x - roundAway x| ≤ 1 / 2 := by
  have hup : ∀ y : ℚ, |y - ⌊y + 1 / 2⌋| ≤ 1 / 2 := by
    intro y
    rw [abs_le]
    constructor <;> linarith [Int.floor_le (y + 1 / 2), Int.lt_floor_add_one (y + 1 / 2)]
  unfold roundAway
  split
  · exact hup x
  · rw [Int.cast_neg, sub_neg_eq_add, ← abs_neg, neg_add, ← sub_eq_add_neg]
    exact hup (-x)

/-- A quotient of whole numbers is rounded by its remainder. -/
theorem roundDiv_upward (n : ℕ) {d : ℕ} (hd : 0 < d) :
    (roundDiv .upward n d : ℤ) = roundAway (n / d) := by
  obtain ⟨q, hq⟩ : ∃ q, q = n / d := ⟨_, rfl⟩
  obtain ⟨r, hr⟩ : ∃ r, r = n % d := ⟨_, rfl⟩
  have hd' : (0 : ℚ) < d := Nat.cast_pos.mpr hd
  have hquotient : (n / d : ℚ) = q + r / d := by
    have hn : (n : ℚ) = d * q + r := by
      rw [hq, hr]
      exact_mod_cast (Nat.div_add_mod n d).symm
    rw [hn]
    field_simp
  have hless : (r / d : ℚ) < 1 := (div_lt_one hd').mpr (by exact_mod_cast hr ▸ Nat.mod_lt n hd)
  have hnonneg : (0 : ℚ) ≤ r / d := by positivity
  have hhalf : (1 / 2 : ℚ) ≤ r / d ↔ d ≤ 2 * r := by
    rw [le_div_iff₀ hd', one_div, inv_mul_le_iff₀ two_pos]
    exact_mod_cast Iff.rfl
  have hup : (d < 2 * r ∨ 2 * r = d ∧ Tie.upward.roundsUp q = true) ↔ (1 / 2 : ℚ) ≤ r / d := by
    rw [hhalf]
    simp only [Tie.roundsUp, and_true]
    omega
  have hwhole : (0 : ℚ) ≤ n / d := by positivity
  symm
  rw [roundAway_of_nonneg hwhole, Int.floor_eq_iff, hquotient, roundDiv]
  simp only [← hq, ← hr, hup]
  split
  all_goals
    push_cast
    constructor <;> linarith

/-- The coefficient of a rounded number. -/
theorem onPlaces_eq (c : ℕ) (e places : ℤ) :
    (onPlaces c e places : ℤ) = roundAway (c * 10 ^ (e + places)) := by
  unfold onPlaces
  simp only
  split
  · next hshift =>
    obtain ⟨k, hk⟩ := Int.eq_ofNat_of_zero_le hshift
    rw [hk, zpow_natCast, Int.toNat_natCast]
    have hwhole : (c * 10 ^ k : ℚ) = (c * 10 ^ k : ℕ) := by push_cast; rfl
    rw [hwhole, roundAway_natCast]
    rfl
  · next hshift =>
    obtain ⟨k, hk⟩ := Int.eq_ofNat_of_zero_le (neg_nonneg.mpr (not_le.mp hshift).le)
    have hpow : (c * 10 ^ (e + places) : ℚ) = c / (10 ^ k : ℕ) := by
      rw [← neg_neg (e + places), hk, zpow_neg, zpow_natCast, Nat.cast_pow, Nat.cast_ofNat, div_eq_mul_inv]
    rw [hk, Int.toNat_natCast, hpow]
    split
    · next hsmall =>
      -- Less than a tenth of a step is rounded to nothing.
      have htenth : 10 * c < 10 ^ k := by
        calc 10 * c < 10 * 10 ^ digitCount c := Nat.mul_lt_mul_of_pos_left (lt_ten_pow_digitCount c) (by decide)
          _ = 10 ^ (digitCount c + 1) := (Nat.pow_succ').symm
          _ ≤ 10 ^ k := Nat.pow_le_pow_right (by decide) hsmall
      have hpos : (0 : ℚ) < (10 ^ k : ℕ) := Nat.cast_pos.mpr (Nat.pow_pos (by decide))
      have hless : (c / (10 ^ k : ℕ) : ℚ) < 1 / 10 := by
        rw [div_lt_iff₀ hpos, one_div, ← div_eq_inv_mul, lt_div_iff₀ (by norm_num)]
        exact_mod_cast Nat.mul_comm .. ▸ htenth
      have hnonneg : (0 : ℚ) ≤ c / (10 ^ k : ℕ) := by positivity
      rw [Nat.cast_zero, eq_comm, roundAway_of_nonneg hnonneg, Int.floor_eq_zero_iff]
      constructor <;> linarith
    · exact roundDiv_upward c (Nat.pow_pos (by decide))

theorem onPlaces_zero (e places : ℤ) : onPlaces 0 e places = 0 := by
  have h := onPlaces_eq 0 e places
  rw [Nat.cast_zero, zero_mul, ← Nat.cast_zero (R := ℚ), roundAway_natCast] at h
  exact_mod_cast h

/-- A number is rounded if its digits then are no more than the precision allows. -/
theorem roundToPlaces?_eq {n : Numeral} {places : ℤ}
    (h : digitCount (onPlaces n.coefficient n.exponent places) ≤ workingPrecision) :
    roundToPlaces? n places = some ⟨n.negative, onPlaces n.coefficient n.exponent places, -places⟩ := by
  unfold roundToPlaces?
  split
  · next hzero => rw [hzero, onPlaces_zero]
  · next hne =>
    have hwithin : ¬(workingPrecision : ℤ) < leadingExponent n.coefficient n.exponent + places + 1 := by
      intro hmore
      have hsize : (10 : ℚ) ^ (workingPrecision - places - 1 + 1) ≤ n.coefficient * 10 ^ n.exponent :=
        (lt_leadingExponent_iff hne).mp (by omega)
      rw [sub_add_cancel] at hsize
      have hscaled : (10 : ℚ) ^ workingPrecision ≤ n.coefficient * 10 ^ (n.exponent + places) := by
        rwa [zpow_add₀ (by norm_num), ← mul_assoc, ← div_le_iff₀ (by positivity), ← zpow_natCast,
          ← zpow_sub₀ (by norm_num)]
      have hreached : (10 ^ workingPrecision : ℕ) ≤ onPlaces n.coefficient n.exponent places := by
        have hfloor : ((10 ^ workingPrecision : ℕ) : ℤ) ≤ onPlaces n.coefficient n.exponent places := by
          rw [onPlaces_eq, roundAway_of_nonneg (by positivity), Int.le_floor]
          push_cast
          linarith
        exact_mod_cast hfloor
      exact absurd h (Nat.not_le.mpr ((lt_digitCount_iff (by decide)).mpr hreached))
    simp only [if_neg hwithin, if_neg (Nat.not_lt.mpr h)]

/-- Rounding a number is rounding its digits. -/
theorem roundAway_value (n : Numeral) (places : ℕ) :
    roundAway (n.value * 10 ^ places) =
      if n.negative then -(onPlaces n.coefficient n.exponent places : ℤ)
      else onPlaces n.coefficient n.exponent places := by
  have hsize : n.size * 10 ^ places = n.coefficient * 10 ^ (n.exponent + places) := by
    rw [Numeral.size, zpow_add₀ (by norm_num), zpow_natCast, mul_assoc]
  have hround : roundAway (n.size * 10 ^ places) = onPlaces n.coefficient n.exponent places := by
    rw [hsize, onPlaces_eq]
  unfold Numeral.value
  split
  · rw [neg_mul, roundAway_neg, hround]
  · exact hround

theorem roundedTo_value (n : Numeral) (places : ℕ) :
    roundedTo places n.value =
      Numeral.value ⟨n.negative, onPlaces n.coefficient n.exponent places, -places⟩ := by
  rw [roundedTo, roundAway_value]
  simp only [Numeral.value, Numeral.size, zpow_neg, zpow_natCast, ← div_eq_mul_inv]
  split
  · rw [Int.cast_neg, neg_div, Int.cast_natCast]
  · rw [Int.cast_natCast]

end DocTemplate
