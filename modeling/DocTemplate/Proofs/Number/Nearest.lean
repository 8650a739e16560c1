import DocTemplate.Proofs.Number.Grain
import DocTemplate.Proofs.Number.Unpacked

/-!
# The nearest double

Rounding in units: a sum of doubles is the double nearest to the sum (`units_add`), and what is nearest keeps
the order (`nearest_mono`). Half of a positive double is not more than the whole (`units_half`).
-/

namespace DocTemplate.Number

open Float.Model Float.Model.UnpackedFloat

/-! ## Rounding -/

/-- What is left of a mantissa that is shifted, with the bits that tell what was shifted out. -/
theorem shiftRight_exact (n k : ℕ) :
    (ExtendedMantissa.mk n false false >>> k) =
      ⟨n / 2 ^ k, decide (2 ^ k ≤ 2 * (n % 2 ^ k)), decide (2 * (n % 2 ^ k) % 2 ^ k ≠ 0)⟩ := by
  change k.repeat ExtendedMantissa.shiftRightOne ⟨n, false, false⟩ = _
  induction k with
  | zero => simp [Nat.repeat, Nat.mod_one]
  | succ k ih =>
    have hmod : n % 2 ^ (k + 1) = n % 2 ^ k + 2 ^ k * (n / 2 ^ k % 2) := Nat.mod_pow_succ
    have hrest : n % 2 ^ k < 2 ^ k := Nat.mod_lt _ (Nat.two_pow_pos k)
    have hdigit : n / 2 ^ k % 2 = 0 ∨ n / 2 ^ k % 2 = 1 := by omega
    have hdouble : 2 ^ (k + 1) = 2 * 2 ^ k := Nat.pow_succ'
    rw [Nat.repeat, ih, ExtendedMantissa.shiftRightOne, ExtendedMantissa.mk.injEq]
    refine ⟨?_, ?_, ?_⟩
    · rw [Nat.div_div_eq_div_mul, ← Nat.pow_succ]
    · rw [hmod, hdouble]
      rcases hdigit with h | h
      · rw [h, decide_eq_false (by omega)]
        rfl
      · rw [h, decide_eq_true (by omega)]
        rfl
    · have hlow : 2 * n % 2 ^ (k + 1) = 2 * (n % 2 ^ k) := by rw [hdouble, Nat.mul_mod_mul_left]
      have hsticky : 2 * (n % 2 ^ (k + 1)) % 2 ^ (k + 1) = 2 * (n % 2 ^ k) := by
        rw [← hlow, Nat.mul_mod, Nat.mod_mod, ← Nat.mul_mod]
      have hlost : 2 ^ k ≤ 2 * (n % 2 ^ k) ∨ 2 * (n % 2 ^ k) % 2 ^ k ≠ 0 ↔ 2 * (n % 2 ^ k) ≠ 0 := by
        have hpos := Nat.two_pow_pos k
        by_cases hle : 2 ^ k ≤ 2 * (n % 2 ^ k)
        · omega
        · rw [Nat.mod_eq_of_lt (show 2 * (n % 2 ^ k) < 2 ^ k by omega)]
          omega
      rw [hsticky, ← Bool.decide_or]
      exact decide_eq_decide.mpr hlost

/-- The bits that are shifted out suffice to round to the nearest. -/
theorem roundedMantissa_shiftRight (n k : ℕ) :
    (ExtendedMantissa.mk n false false >>> k).roundedMantissa = roundDiv .toEven n (2 ^ k) := by
  have hrest : n % 2 ^ k < 2 ^ k := Nat.mod_lt _ (Nat.two_pow_pos k)
  have hparity : n / 2 ^ k % 2 = 0 ∨ n / 2 ^ k % 2 = 1 := by omega
  rw [shiftRight_exact, ExtendedMantissa.roundedMantissa]
  unfold roundDiv Tie.roundsUp
  dsimp only
  rcases Nat.lt_trichotomy (2 * (n % 2 ^ k)) (2 ^ k) with h | h | h
  · rw [decide_eq_false (by omega), Nat.mod_eq_of_lt h, if_neg (by omega)]
    by_cases hzero : 2 * (n % 2 ^ k) = 0
    · rw [decide_eq_false (by omega)]
      rfl
    · rw [decide_eq_true hzero]
      rfl
  · rw [decide_eq_true (by omega), h, Nat.mod_self]
    rcases hparity with hp | hp <;>
      simp [hp, ExtendedMantissa.accuracy, Accuracy.roundToNearestEven]
  · have hmod : 2 * (n % 2 ^ k) % 2 ^ k ≠ 0 := by
      rw [Nat.mod_eq_sub_mod (by omega), Nat.mod_eq_of_lt (by omega)]
      omega
    rw [decide_eq_true (by omega), decide_eq_true hmod, if_pos (.inl h)]
    rfl

/-- What a mantissa and an exponent are settled to: no more than 53 digits. -/
def settled (s : Sign) (m : ℕ) (e : ℤ) : UnpackedFloat :=
  let (shifted, e') := shiftToTargetExponent .binary64 m e .exact
  if h : shifted.mantissa = 0 then .zero s else .finite s shifted.mantissa e' (Nat.pos_of_ne_zero h)

theorem targetExponent_eq (m : ℕ) (e : ℤ) :
    Format.binary64.targetExponent (totalExponent m e) = max ((m.log2 : ℤ) + e - 52) (-1074) := by
  simp only [Format.targetExponent, totalExponent, Format.mantissaBits, Format.minExponent]
  omega

theorem shiftToTargetExponent_eq (m : ℕ) (e : ℤ) {k : ℕ}
    (hk : (max ((m.log2 : ℤ) + e - 52) (-1074) - e).toNat = k) :
    shiftToTargetExponent .binary64 m e .exact = (ExtendedMantissa.mk m false false >>> k, e + k) := by
  simp only [shiftToTargetExponent, shiftToExponent, targetExponent_eq, hk]
  rfl

theorem log2_lt_of_lt {m : ℕ} (h : m < 2 ^ 53) : m.log2 < 53 := by
  by_cases hm : m = 0
  · subst hm
    simp
  · exact (Nat.log2_lt hm).mpr h

theorem units_settled (s : Sign) {m : ℕ} {e : ℤ} (hmax : m ≤ 2 ^ 53) (hleast : -1074 ≤ e)
    (hfull : 2 ^ 52 ≤ m ∨ e = -1074) :
    unitsOf? (Float.Model.pack (settled s m e)).unpack =
      some (s.apply (saturated (m * 2 ^ (e + 1074).toNat))) := by
  rcases Nat.lt_or_eq_of_le hmax with hlt | rfl
  · have hshift : shiftToTargetExponent .binary64 m e .exact = (⟨m, false, false⟩, e) := by
      have hlog := log2_lt_of_lt hlt
      rw [shiftToTargetExponent_eq m e (k := 0) (by omega)]
      exact Prod.ext rfl (Int.add_zero e)
    simp only [settled, hshift]
    by_cases hm : m = 0
    · rw [dif_pos hm, unpack_pack (.zero s), hm, Nat.zero_mul, saturated_of_lt overflow_pos]
      cases s <;> rfl
    · rw [dif_neg hm]
      exact units_pack_finite s (Nat.pos_of_ne_zero hm) hlt hleast hfull
  · have hshift : shiftToTargetExponent .binary64 (2 ^ 53) e .exact =
        (⟨2 ^ 52, false, false⟩, e + 1) := by
      have hlog : (2 ^ 53).log2 = 53 := Nat.log2_two_pow
      rw [shiftToTargetExponent_eq (2 ^ 53) e (k := 1) (by omega)]
      rfl
    have hamount : 2 ^ 53 * 2 ^ (e + 1074).toNat = 2 ^ 52 * 2 ^ (e + 1 + 1074).toNat := by
      rw [← Nat.pow_add, ← Nat.pow_add]
      congr 1
      omega
    simp only [settled, hshift]
    rw [dif_neg (by decide), hamount]
    exact units_pack_finite s (by decide) (by decide) (by omega) (.inl (Nat.le_refl _))

theorem roundWithAccuracy_eq (s : Sign) (m : ℕ) (e : ℤ) {k : ℕ}
    (hk : (max ((m.log2 : ℤ) + e - 52) (-1074) - e).toNat = k) :
    roundWithAccuracy .binary64 s m e .exact = settled s (roundDiv .toEven m (2 ^ k)) (e + k) := by
  rw [← roundedMantissa_shiftRight]
  simp only [roundWithAccuracy, settled, shiftToTargetExponent_eq m e hk]

theorem roundWithAccuracy_exact (s : Sign) {m : ℕ} {e t : ℤ} (he : -1074 ≤ e)
    (ht : max ((m.log2 : ℤ) + e - 52) (-1074) = t) (het : e ≤ t) :
    roundWithAccuracy .binary64 s m e .exact =
      settled s (roundDiv .toEven (m * 2 ^ (e + 1074).toNat) (2 ^ (t + 1074).toNat)) t := by
  have hunit : 2 ^ (t + 1074).toNat = 2 ^ (t - e).toNat * 2 ^ (e + 1074).toNat := by
    rw [← Nat.pow_add]
    congr 1
    omega
  have hexponent : e + ((t - e).toNat : ℤ) = t := by omega
  rw [roundWithAccuracy_eq s m e rfl, ht, hexponent, hunit,
    roundDiv_mul_right .toEven _ _ (Nat.two_pow_pos _)]

/-- Rounding to a double: of what stands for an amount, the amount is rounded. -/
theorem units_round (s : Sign) {n : ℕ} {e : ℤ} (hn : 0 < n) (he : -1074 ≤ e) :
    unitsOf? (Float.Model.pack (UnpackedFloat.round .binary64 s n e)).unpack =
      some (s.apply (saturated (rounded (n * 2 ^ (e + 1074).toNat)))) := by
  obtain ⟨t, ht⟩ : ∃ t : ℤ, max ((n.log2 : ℤ) + e - 52) (-1074) = t := ⟨_, rfl⟩
  have hlog := log2_mul_two_pow hn.ne' (e + 1074).toNat
  have hgrain : grain (n * 2 ^ (e + 1074).toNat) = 2 ^ (t + 1074).toNat := by
    rw [grain, hlog]
    congr 1
    omega
  have hround : UnpackedFloat.round .binary64 s n e =
      settled s (roundDiv .toEven (n * 2 ^ (e + 1074).toNat) (2 ^ (t + 1074).toNat)) t := by
    -- The mantissa is first lengthened so far that none of its digits stands above the exponent `t`.
    have hlog' := log2_mul_two_pow hn.ne' (e - t).toNat
    have hamount : n * 2 ^ (e - t).toNat * 2 ^ (e - (e - t).toNat + 1074).toNat =
        n * 2 ^ (e + 1074).toNat := by
      rw [Nat.mul_assoc, ← Nat.pow_add]
      congr 2
      omega
    rw [UnpackedFloat.round, targetExponent_eq, ht, ← hamount]
    simp only [decreaseExponent, Nat.shiftLeft_eq]
    exact roundWithAccuracy_exact s (by omega) (by omega) (by omega)
  have hfull : 2 ^ 52 ≤ roundDiv .toEven (n * 2 ^ (e + 1074).toNat) (2 ^ (t + 1074).toNat) ∨
      t = -1074 := by
    by_cases hleast : t = -1074
    · exact .inr hleast
    · have hne : n * 2 ^ (e + 1074).toNat ≠ 0 := Nat.mul_ne_zero hn.ne' (Nat.two_pow_pos _).ne'
      rw [← hgrain]
      exact .inl (le_roundDiv_grain ((Nat.le_log2 hne).mp (by omega)))
  have hdigits := roundDiv_grain_le (n * 2 ^ (e + 1074).toNat)
  rw [hgrain] at hdigits
  rw [hround, units_settled s hdigits (by omega) hfull, rounded, hgrain]

/-! ## The nearest double -/

/-- The units of the double that is nearest to an amount. -/
def nearest (z : ℤ) : ℤ := z.sign * saturated (rounded z.natAbs)

@[simp] theorem nearest_zero : nearest 0 = 0 := by simp [nearest]

theorem nearest_natCast (n : ℕ) : nearest n = saturated (rounded n) := by
  rcases Nat.eq_zero_or_pos n with rfl | hn
  · rw [rounded_of_dvd (Nat.dvd_zero _), saturated_of_lt overflow_pos]
    exact nearest_zero
  · rw [nearest, Int.sign_eq_one_of_pos (by omega), one_mul, Int.natAbs_natCast]

theorem nearest_neg (z : ℤ) : nearest (-z) = -nearest z := by
  rw [nearest, nearest, Int.sign_neg, Int.natAbs_neg, Int.neg_mul]

theorem nearest_apply (s : Sign) (n : ℕ) : nearest (s.apply n) = s.apply (saturated (rounded n)) := by
  cases s with
  | negative => rw [Sign.apply, nearest_neg, nearest_natCast]; rfl
  | positive => exact nearest_natCast n

theorem nearest_mono {x y : ℤ} (h : x ≤ y) : nearest x ≤ nearest y := by
  have hnat : ∀ {m n : ℕ}, m ≤ n → (nearest m) ≤ nearest n := by
    intro m n h
    rw [nearest_natCast, nearest_natCast]
    exact Int.ofNat_le.mpr (saturated_mono (rounded_mono h))
  have hnonneg (n : ℕ) : 0 ≤ nearest n := by
    rw [nearest_natCast]
    exact Int.natCast_nonneg _
  rcases Int.eq_nat_or_neg x with ⟨m, rfl | rfl⟩ <;> rcases Int.eq_nat_or_neg y with ⟨n, rfl | rfl⟩
  · exact hnat (by omega)
  · have hm : m = 0 := by omega
    have hn : n = 0 := by omega
    subst hm hn
    exact le_refl _
  · rw [nearest_neg]
    exact (Int.neg_nonpos_of_nonneg (hnonneg m)).trans (hnonneg n)
  · rw [nearest_neg, nearest_neg]
    exact Int.neg_le_neg (hnat (by omega))

theorem rounded_overflow : rounded overflow = overflow := by
  have hlog : overflow.log2 = unitDigits := Nat.log2_two_pow
  refine rounded_of_dvd (Nat.pow_dvd_pow 2 ?_)
  omega

theorem nearest_of_overflow_le {z : ℤ} (h : overflow ≤ z) : nearest z = 4 * overflow := by
  obtain ⟨n, rfl⟩ := Int.eq_ofNat_of_zero_le (show 0 ≤ z by omega)
  have hmore : overflow ≤ rounded n := by
    rw [← rounded_overflow]
    exact rounded_mono (by omega)
  rw [nearest_natCast, saturated_of_le hmore]
  push_cast
  rfl

theorem nearest_of_le_neg_overflow {z : ℤ} (h : z ≤ -overflow) : nearest z = -(4 * overflow) := by
  rw [← Int.neg_neg z, nearest_neg, nearest_of_overflow_le (by omega)]

/-- The units of a double are nearest to themselves. -/
theorem nearest_units {a : UnpackedFloat} (ha : Canonical a) {x : ℤ} (hx : unitsOf? a = some x) :
    nearest x = x := by
  have hpos := overflow_pos
  cases ha with
  | notANumber => cases hx
  | infinity s =>
    cases hx
    cases s with
    | negative => exact nearest_of_le_neg_overflow (by change -((4 * overflow : ℕ) : ℤ) ≤ _; omega)
    | positive => exact nearest_of_overflow_le (by change _ ≤ ((4 * overflow : ℕ) : ℤ); omega)
  | zero s =>
    cases hx
    exact nearest_zero
  | finite s m e hm hmax hleast hgreatest hfull =>
    cases hx
    have hlog := log2_lt_of_lt hmax
    have hdvd : grain (m * 2 ^ (e + 1074).toNat) ∣ m * 2 ^ (e + 1074).toNat := by
      refine Nat.dvd_trans (Nat.pow_dvd_pow 2 ?_) (Nat.dvd_mul_left ..)
      rw [log2_mul_two_pow hm.ne']
      omega
    rw [nearest_apply, rounded_of_dvd hdvd, saturated_of_lt (lt_overflow hmax (by omega))]

theorem units_normalize (n : ℤ) {e : ℤ} (he : -1074 ≤ e) (s : Sign) :
    unitsOf? (Float.Model.pack (UnpackedFloat.normalize .binary64 n e s)).unpack =
      some (nearest (n * 2 ^ (e + 1074).toNat)) := by
  unfold UnpackedFloat.normalize
  rcases Int.lt_trichotomy n 0 with h | h | h
  · rw [compare_lt_iff_lt.mpr h]
    have hn : n * 2 ^ (e + 1074).toNat = Sign.negative.apply ((-n).toNat * 2 ^ (e + 1074).toNat : ℕ) := by
      rw [Sign.apply, Nat.cast_mul, Int.toNat_of_nonneg (by omega)]
      push_cast
      ring
    rw [hn, nearest_apply]
    exact units_round .negative (by omega) he
  · subst h
    rw [compare_eq_iff_eq.mpr rfl, Int.zero_mul]
    change unitsOf? (Float.Model.pack (.zero s)).unpack = _
    rw [unpack_pack (.zero s), nearest_zero]
    rfl
  · rw [compare_gt_iff_gt.mpr h]
    have hn : n * 2 ^ (e + 1074).toNat = Sign.positive.apply (n.toNat * 2 ^ (e + 1074).toNat : ℕ) := by
      rw [Sign.apply, Nat.cast_mul, Int.toNat_of_nonneg (by omega)]
      push_cast
      rfl
    rw [hn, nearest_apply]
    exact units_round .positive (by omega) he

/-! ## Sums -/

theorem units_infinity_add (s : Sign) {y : ℤ} (hy : -(3 * overflow) ≤ s.apply y) :
    unitsOf? (Float.Model.pack (.infinity s)).unpack =
      some (nearest (s.apply (4 * overflow : ℕ) + y)) := by
  rw [unpack_pack (.infinity s)]
  cases s with
  | negative =>
    simp only [Sign.apply] at hy ⊢
    rw [nearest_of_le_neg_overflow (by omega)]
    rfl
  | positive =>
    simp only [Sign.apply] at hy ⊢
    rw [nearest_of_overflow_le (by omega)]
    rfl

theorem apply_mul (s : Sign) (m n : ℕ) : s.apply (m * n : ℕ) = s.apply m * n := by
  cases s with
  | negative => simp only [Sign.apply, Nat.cast_mul, Int.neg_mul]
  | positive => exact Nat.cast_mul m n

theorem apply_decreaseExponent (s : Sign) (m : ℕ) {e t : ℤ} (ht : -1074 ≤ t) (hte : t ≤ e) :
    s.apply (m * 2 ^ (e + 1074).toNat : ℕ) =
      s.apply (decreaseExponent m e t).1 * 2 ^ (t + 1074).toNat := by
  have hamount : m * 2 ^ (e + 1074).toNat = m * 2 ^ (e - t).toNat * 2 ^ (t + 1074).toNat := by
    rw [Nat.mul_assoc, ← Nat.pow_add]
    congr 2
    omega
  rw [decreaseExponent, Nat.shiftLeft_eq, hamount, apply_mul]
  push_cast
  rfl

theorem units_add_finite {a b : UnpackedFloat} (ha : Canonical a) (hb : Canonical b)
    (hafinite : a.isFinite) (hbfinite : b.isFinite) {x y : ℤ} (hx : unitsOf? a = some x)
    (hy : unitsOf? b = some y) :
    unitsOf? (Float.Model.pack (UnpackedFloat.add .binary64 a b)).unpack = some (nearest (x + y)) := by
  have hb' := hb
  cases ha with
  | notANumber => cases hafinite
  | infinity s => cases hafinite
  | zero s =>
    cases hx
    rw [Int.zero_add]
    cases hb with
    | notANumber => cases hbfinite
    | infinity t => cases hbfinite
    | zero t =>
      cases hy
      rw [nearest_zero]
      cases s <;> cases t <;> rfl
    | finite t n f hn hmax hleast hgreatest hfull =>
      rw [nearest_units hb' hy, ← hy]
      exact congrArg unitsOf? (unpack_pack hb')
  | finite s m e hm hmax hleast hgreatest hfull =>
    cases hb with
    | notANumber => cases hbfinite
    | infinity t => cases hbfinite
    | zero t =>
      cases hy
      have ha := Canonical.finite s m e hm hmax hleast hgreatest hfull
      rw [Int.add_zero, nearest_units ha hx, ← hx]
      exact congrArg unitsOf? (unpack_pack ha)
    | finite t n f hn hmax' hleast' hgreatest' hfull' =>
      cases hx
      cases hy
      rw [apply_decreaseExponent s m (le_min hleast hleast') (min_le_left e f),
        apply_decreaseExponent t n (le_min hleast hleast') (min_le_right e f), ← Int.add_mul]
      exact units_normalize _ (le_min hleast hleast') .positive

/-- The units of a sum are nearest to the sum of the units, unless infinities are opposed. -/
theorem units_add {a b : UnpackedFloat} (ha : Canonical a) (hb : Canonical b) {x y : ℤ}
    (hx : unitsOf? a = some x) (hy : unitsOf? b = some y) (h : x + y = 0 → x.natAbs < overflow) :
    unitsOf? (Float.Model.pack (UnpackedFloat.add .binary64 a b)).unpack = some (nearest (x + y)) := by
  have hpos := overflow_pos
  rcases finite_or_infinity ha hx with ⟨hafinite, hless⟩ | ⟨s, rfl, rfl⟩ <;>
    rcases finite_or_infinity hb hy with ⟨hbfinite, hless'⟩ | ⟨t, rfl, rfl⟩
  · exact units_add_finite ha hb hafinite hbfinite hx hy
  · have hsum : UnpackedFloat.add .binary64 a (.infinity t) = .infinity t := by
      cases a <;> first | rfl | cases hafinite
    have hsize := natAbs_apply t x
    rw [hsum, Int.add_comm]
    exact units_infinity_add t (by omega)
  · have hsum : UnpackedFloat.add .binary64 (.infinity s) b = .infinity s := by
      cases b <;> first | rfl | cases hbfinite
    have hsize := natAbs_apply s y
    rw [hsum]
    exact units_infinity_add s (by omega)
  · have hsame : s = t := by
      cases s <;> cases t <;> simp only [Sign.apply] at h ⊢ <;> omega
    subst hsame
    have hsum : UnpackedFloat.add .binary64 (.infinity s) (.infinity s) = .infinity s := by
      cases s <;> rfl
    rw [hsum]
    exact units_infinity_add s (by cases s <;> simp only [Sign.apply] <;> omega)

theorem Canonical.neg {a : UnpackedFloat} (h : Canonical a) : Canonical a.neg := by
  cases h with
  | notANumber => exact .notANumber
  | infinity s => exact .infinity _
  | zero s => exact .zero _
  | finite s m e hm hmax hleast hgreatest hfull => exact .finite _ m e hm hmax hleast hgreatest hfull

theorem apply_neg (s : Sign) (n : ℤ) : (-s).apply n = -s.apply n := by
  cases s with
  | negative => exact (Int.neg_neg n).symm
  | positive => rfl

theorem units_neg (a : UnpackedFloat) : unitsOf? a.neg = (unitsOf? a).map (fun x => -x) := by
  cases a with
  | notANumber => rfl
  | infinity s => exact congrArg some (apply_neg ..)
  | zero s => rfl
  | finite s m e hm => exact congrArg some (apply_neg ..)

/-- A difference is a sum with the opposite. -/
theorem sub_eq_add_opposite (a b : UnpackedFloat) :
    UnpackedFloat.sub .binary64 a b = UnpackedFloat.add .binary64 a b.neg := by
  cases a <;> cases b <;>
    simp only [UnpackedFloat.sub, UnpackedFloat.add, UnpackedFloat.neg, apply_neg, Int.sub_eq_add_neg]

/-! ## Halves and doubles -/

theorem mul_pow_two_roundDiv (m k : ℕ) : roundDiv .toEven (m * 2 ^ k) (2 ^ k) = m := by
  rw [roundDiv_of_dvd .toEven (Nat.two_pow_pos k) (Nat.mul_mod_left ..),
    Nat.mul_div_cancel _ (Nat.two_pow_pos k)]

/-- A double is doubled exactly, unless it is too great. -/
theorem units_double (s : Sign) {m : ℕ} {e : ℤ} {hm : 0 < m} (h : Canonical (.finite s m e hm)) :
    unitsOf? (Float.Model.pack (UnpackedFloat.mul .binary64 (.finite .positive (2 ^ 52) (-51) (by decide))
      (.finite s m e hm))).unpack = some (s.apply (saturated (2 * (m * 2 ^ (e + 1074).toNat)))) := by
  cases h with
  | finite _ _ _ _ hmax hleast hgreatest hfull =>
    have hmul : UnpackedFloat.mul .binary64 (.finite .positive (2 ^ 52) (-51) (by decide))
        (.finite s m e hm) = roundWithAccuracy .binary64 s (2 ^ 52 * m) (-51 + e) .exact := by
      cases s <;> rfl
    have hlog : (2 ^ 52 * m).log2 = m.log2 + 52 := by
      rw [Nat.mul_comm]
      exact log2_mul_two_pow hm.ne' 52
    by_cases hnormal : 2 ^ 52 ≤ m
    · have hlog' : m.log2 = 52 := (Nat.log2_eq_iff hm.ne').mpr ⟨hnormal, hmax⟩
      have hround : roundDiv .toEven (2 ^ 52 * m) (2 ^ 52) = m := by
        rw [Nat.mul_comm]
        exact mul_pow_two_roundDiv m 52
      have hamount : m * 2 ^ (-51 + e + (52 : ℕ) + 1074).toNat = 2 * (m * 2 ^ (e + 1074).toNat) := by
        have hexponent : (-51 + e + (52 : ℕ) + 1074).toNat = (e + 1074).toNat + 1 := by omega
        rw [hexponent, Nat.pow_succ]
        ring
      rw [hmul, roundWithAccuracy_eq s _ _ (k := 52) (by omega), hround,
        units_settled s (by omega) (by omega) (.inl hnormal), hamount]
    · have hlog' : m.log2 < 52 := (Nat.log2_lt hm.ne').mpr (by omega)
      have hround : roundDiv .toEven (2 ^ 52 * m) (2 ^ 51) = 2 * m := by
        have hdouble : 2 ^ 52 * m = 2 * m * 2 ^ 51 := by omega
        rw [hdouble]
        exact mul_pow_two_roundDiv (2 * m) 51
      have hamount : 2 * m * 2 ^ (-51 + e + (51 : ℕ) + 1074).toNat = 2 * (m * 2 ^ (e + 1074).toNat) := by
        have hexponent : (-51 + e + (51 : ℕ) + 1074).toNat = (e + 1074).toNat := by omega
        rw [hexponent, Nat.mul_assoc]
      rw [hmul, roundWithAccuracy_eq s _ _ (k := 51) (by omega), hround,
        units_settled s (by omega) (by omega) (.inr (by omega)), hamount]

theorem rounded_mantissa_bounds (em : ExtendedMantissa) :
    em.mantissa ≤ em.roundedMantissa ∧ em.roundedMantissa ≤ em.mantissa + 1 := by
  obtain ⟨m, r, t⟩ := em
  cases r <;> cases t <;> simp only [ExtendedMantissa.roundedMantissa, ExtendedMantissa.accuracy,
      Accuracy.roundToNearestEven] <;> omega

theorem shiftRight_mantissa (em : ExtendedMantissa) (k : ℕ) :
    (em >>> k).mantissa = em.mantissa / 2 ^ k := by
  change (k.repeat ExtendedMantissa.shiftRightOne em).mantissa = _
  induction k with
  | zero => simp [Nat.repeat]
  | succ k ih =>
    change (k.repeat ExtendedMantissa.shiftRightOne em).mantissa / 2 = _
    rw [ih, Nat.div_div_eq_div_mul, ← Nat.pow_succ]

theorem ofMantissaAndAccuracy_mantissa (m : ℕ) (acc : Accuracy) :
    (ExtendedMantissa.ofMantissaAndAccuracy m acc).mantissa = m := by
  cases acc with
  | exact => rfl
  | inexact o => cases o <;> rfl

theorem roundWithAccuracy_cases (s : Sign) (m : ℕ) (e : ℤ) (acc : Accuracy) {k : ℕ}
    (hk : (max ((m.log2 : ℤ) + e - 52) (-1074) - e).toNat = k) :
    ∃ r, m / 2 ^ k ≤ r ∧ r ≤ m / 2 ^ k + 1 ∧
      roundWithAccuracy .binary64 s m e acc = settled s r (e + k) := by
  have hshift : shiftToTargetExponent .binary64 m e acc =
      (ExtendedMantissa.ofMantissaAndAccuracy m acc >>> k, e + k) := by
    simp only [shiftToTargetExponent, shiftToExponent, targetExponent_eq, hk]
  have hbounds := rounded_mantissa_bounds (ExtendedMantissa.ofMantissaAndAccuracy m acc >>> k)
  rw [shiftRight_mantissa, ofMantissaAndAccuracy_mantissa] at hbounds
  refine ⟨_, hbounds.1, hbounds.2, ?_⟩
  simp only [roundWithAccuracy, settled, hshift]

/-- Half of a double is divided out with the exponent below, and is rounded only where there is none. -/
theorem div_two {m : ℕ} {e : ℤ} {hm : 0 < m} (h : Canonical (.finite .positive m e hm)) :
    ∃ r t, UnpackedFloat.div .binary64 (.finite .positive m e hm)
        (.finite .positive (2 ^ 52) (-51) (by decide)) = settled .positive r t ∧
      r ≤ 2 ^ 53 ∧ -1074 ≤ t ∧ (2 ^ 52 ≤ r ∨ t = -1074) ∧
      r * 2 ^ (t + 1074).toNat ≤ m * 2 ^ (e + 1074).toNat ∧
      2 * (r * 2 ^ (t + 1074).toNat) ≤ max (m * 2 ^ (e + 1074).toNat) (2 ^ 54) := by
  cases h with
  | finite _ _ _ _ hmax hleast hgreatest hfull =>
    have hlog := log2_lt_of_lt hmax
    have hnormal : e = -1074 ∨ m.log2 = 52 := by
      rcases hfull with hfull | hfull
      · exact .inr ((Nat.log2_eq_iff hm.ne').mpr ⟨hfull, hmax⟩)
      · exact .inl hfull
    have htarget : min (e - -51) (Format.binary64.targetExponent (totalExponent m e -
        totalExponent (2 ^ 52) (-51))) = max (e - 2) (-1074) := by
      simp only [Format.targetExponent, totalExponent, Format.mantissaBits, Format.minExponent,
        Nat.log2_two_pow]
      omega
    have hdiv {t : ℤ} {j : ℕ} (ht : max (e - 2) (-1074) = t) (hj : (e - -51 - t).toNat = j) :
        UnpackedFloat.div .binary64 (.finite .positive m e hm)
            (.finite .positive (2 ^ 52) (-51) (by decide)) =
          roundWithAccuracy .binary64 .positive (m * 2 ^ j / 2 ^ 52) t
            (accuracyOfFraction (m * 2 ^ j % 2 ^ 52) (2 ^ 52)) := by
      simp only [UnpackedFloat.div, divCore, htarget, ht, hj, Nat.shiftLeft_eq]
      rfl
    by_cases hsub : e = -1074
    · subst hsub
      have hquotient : m * 2 ^ 51 / 2 ^ 52 = m / 2 := by omega
      have hlog' := log2_lt_of_lt (show m / 2 < 2 ^ 53 by omega)
      obtain ⟨r, hlower, hupper, hr⟩ := roundWithAccuracy_cases .positive (m / 2) (-1074)
        (accuracyOfFraction (m * 2 ^ 51 % 2 ^ 52) (2 ^ 52)) (k := 0) (by omega)
      rw [hdiv (t := -1074) (j := 51) (by omega) (by omega), hquotient, hr]
      exact ⟨r, _, rfl, by omega, by omega, .inr (by omega), by simpa using by omega, by simpa using by omega⟩
    · -- No digit is lost: the mantissa is full, and there is an exponent below.
      have hfull' : 2 ^ 52 ≤ m := hfull.resolve_right hsub
      have hlog' : m.log2 = 52 := hnormal.resolve_left hsub
      have hexact : UnpackedFloat.div .binary64 (.finite .positive m e hm)
          (.finite .positive (2 ^ 52) (-51) (by decide)) = settled .positive m (e - 1) := by
        by_cases hleast' : e = -1073
        · have hquotient : m * 2 ^ 52 / 2 ^ 52 = m := Nat.mul_div_cancel m (by decide)
          have hrest : m * 2 ^ 52 % 2 ^ 52 = 0 := Nat.mul_mod_left ..
          have hround : roundDiv .toEven m (2 ^ 0) = m := by
            simpa using mul_pow_two_roundDiv m 0
          rw [hdiv (t := -1074) (j := 52) (by omega) (by omega), hquotient, hrest]
          change roundWithAccuracy .binary64 .positive m (-1074) .exact = _
          rw [roundWithAccuracy_eq .positive m (-1074) (k := 0) (by omega), hround]
          congr 1
          omega
        · have hquotient : m * 2 ^ 53 / 2 ^ 52 = m * 2 ^ 1 := by omega
          have hrest : m * 2 ^ 53 % 2 ^ 52 = 0 := by omega
          have hlog'' := log2_mul_two_pow hm.ne' 1
          rw [hdiv (t := e - 2) (j := 53) (by omega) (by omega), hquotient, hrest]
          change roundWithAccuracy .binary64 .positive (m * 2 ^ 1) (e - 2) .exact = _
          rw [roundWithAccuracy_eq .positive (m * 2 ^ 1) (e - 2) (k := 1) (by omega),
            mul_pow_two_roundDiv m 1]
          congr 1
          omega
      have hdouble : 2 * (m * 2 ^ (e - 1 + 1074).toNat) = m * 2 ^ (e + 1074).toNat := by
        have hexponent : (e + 1074).toNat = (e - 1 + 1074).toNat + 1 := by omega
        rw [hexponent, Nat.pow_succ]
        ring
      exact ⟨m, e - 1, hexact, by omega, by omega, .inl hfull', by omega, by omega⟩

/-- Half of a double, and that it can be doubled. -/
theorem units_half {m : ℕ} {e : ℤ} {hm : 0 < m} (h : Canonical (.finite .positive m e hm)) :
    ∃ c, unitsOf? (Float.Model.pack (UnpackedFloat.div .binary64 (.finite .positive m e hm)
      (.finite .positive (2 ^ 52) (-51) (by decide)))).unpack = some c ∧
      0 ≤ c ∧ c ≤ (m * 2 ^ (e + 1074).toNat : ℕ) ∧
      2 * c ≤ max (m * 2 ^ (e + 1074).toNat : ℕ) (2 ^ 54 : ℕ) := by
  obtain ⟨r, t, hdiv, hmax, hleast, hfull, hle, htwice⟩ := div_two h
  have hless : m * 2 ^ (e + 1074).toNat < overflow := by
    cases h with
    | finite _ _ _ _ hmax hleast hgreatest hfull => exact lt_overflow hmax (by omega)
  rw [hdiv, units_settled .positive hmax hleast hfull, saturated_of_lt (by omega)]
  refine ⟨_, rfl, Int.natCast_nonneg _, Int.ofNat_le.mpr hle, ?_⟩
  change 2 * ((r * 2 ^ (t + 1074).toNat : ℕ) : ℤ) ≤ _
  exact_mod_cast htwice

end DocTemplate.Number
