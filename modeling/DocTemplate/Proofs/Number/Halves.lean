import DocTemplate.Page.Length
import DocTemplate.Proofs.Number.Finite

/-!
# Halves

Doubles that are a whole number of halves, and not too great: taking a half away from them is exact
(`IsHalves.sub_half`).
-/

namespace DocTemplate.Number

open Float.Model Float.Model.UnpackedFloat

variable {x y : Float} {a : ℤ}

/-! ## Parts -/

theorem toNat_unpackMantissa (b : BitVec 64) :
    (@unpackMantissa .binary64 b).toNat = b.toNat % 2 ^ 52 := by
  rw [unpackMantissa_def, BitVec.extractLsb'_toNat, Nat.shiftRight_zero]

theorem toNat_unpackSign (b : BitVec 64) : (@unpackSign .binary64 b).toNat = b.toNat / 2 ^ 63 % 2 := by
  rw [unpackSign_def, BitVec.extractLsb'_toNat, Nat.shiftRight_eq_div_pow]
  rfl

/-- The sign that the first bit of a double stands for. -/
theorem sign_ofBitVec (b : BitVec 64) :
    Sign.ofBitVec (@unpackSign .binary64 b) = if b.toNat / 2 ^ 63 == 1 then .negative else .positive := by
  have hless : b.toNat < 2 ^ 64 := b.isLt
  have hbit := toNat_unpackSign b
  unfold Sign.ofBitVec
  by_cases hnegative : b.toNat / 2 ^ 63 = 1
  · have hone : ¬@unpackSign .binary64 b = 0#1 := by
      intro hzero
      rw [hzero, hnegative] at hbit
      cases hbit
    rw [if_neg hone, if_pos (beq_iff_eq.mpr hnegative)]
  · have hzero : @unpackSign .binary64 b = 0#1 := BitVec.eq_of_toNat_eq (by rw [hbit]; change _ = 0; omega)
    rw [if_pos hzero, if_neg (mt beq_iff_eq.mp hnegative)]

/-- The parts of a double say how many units it has. -/
theorem units_of_parts {p : BinaryParts} (h : parts? x = some p) :
    units? x = some ((if p.negative then Sign.negative else .positive).apply
      (p.mantissa * 2 ^ (p.exponent + 1074).toNat : ℕ)) := by
  let b : BitVec 64 := x.toModel.toBits.toBitVec
  have hfield : x.toBits.toNat / Nat.pow 2 52 % 2048 = (@unpackExponent .binary64 b).toNat :=
    (toNat_unpackExponent b).symm
  have hfraction : x.toBits.toNat % Nat.pow 2 52 = (@unpackMantissa .binary64 b).toNat :=
    (toNat_unpackMantissa b).symm
  change unitsOf? (UnpackedFloat.unpack .binary64 b) = _
  unfold UnpackedFloat.unpack
  simp only [sign_ofBitVec]
  simp only [parts?, hfield, hfraction] at h
  split at h
  · cases h
  next hmost =>
    have hfinite : ¬@unpackExponent .binary64 b = -1#_ := fun heq => hmost (congrArg BitVec.toNat heq)
    simp only [if_neg hfinite]
    split at h
    next hzero =>
      have hexponent : @unpackExponent .binary64 b = 0#_ := BitVec.eq_of_toNat_eq hzero
      simp only [if_pos hexponent]
      cases h
      split
      · next hnone =>
        have hnone : (@unpackMantissa .binary64 b).toNat = 0 := congrArg BitVec.toNat hnone
        simp only [unitsOf?, hnone, Nat.zero_mul]
        split <;> rfl
      · simp only [unitsOf?, hzero]
        rfl
    next hnormal =>
      have hexponent : ¬@unpackExponent .binary64 b = 0#_ := fun heq => hnormal (congrArg BitVec.toNat heq)
      simp only [if_neg hexponent]
      cases h
      simp only [unitsOf?, toNat_implicit]
      rfl

theorem exponent_of_parts {p : BinaryParts} (h : parts? x = some p) : -1074 ≤ p.exponent := by
  simp only [parts?] at h
  split at h
  · cases h
  · split at h
    · cases h
      exact Int.le_refl _
    · cases h
      dsimp only
      omega

/-! ## Halves -/

/-- The number of binary digits below those of a half. -/
@[irreducible] def halfDigits : ℕ := 1073

/-- The units of a half. -/
def halfUnits : ℤ := 2 ^ halfDigits

theorem halfUnits_pos : 0 < halfUnits := Int.pow_pos (by decide)

/-- The whole number that is taken for a double is not below it. -/
theorem le_ceilOfFloat (hx : units? x = some a) (hfinite : a.natAbs < overflow) :
    a ≤ (Page.ceilOfFloat x * 2 ^ (halfDigits + 1) : ℕ) := by
  have hdigits : halfDigits = 1073 := by rw [halfDigits]
  have hparts : (parts? x).isSome := isFinite_iff_units.mpr ⟨a, hx, hfinite⟩
  obtain ⟨p, hp⟩ := Option.isSome_iff_exists.mp hparts
  have hleast := exponent_of_parts hp
  cases hx.symm.trans (units_of_parts hp)
  unfold Page.ceilOfFloat
  rw [hp]
  dsimp only
  by_cases hnegative : p.negative
  · rw [if_pos hnegative, if_pos hnegative]
    have hnonpos : -((p.mantissa * 2 ^ (p.exponent + 1074).toNat : ℕ) : ℤ) ≤ 0 :=
      Int.neg_nonpos_of_nonneg (Int.natCast_nonneg _)
    exact hnonpos.trans (Int.natCast_nonneg _)
  · rw [if_neg hnegative, if_neg hnegative]
    refine Int.ofNat_le.mpr ?_
    by_cases hwhole : 0 ≤ p.exponent
    · have hpower : (p.exponent + 1074).toNat = p.exponent.toNat + (halfDigits + 1) := by omega
      rw [if_pos hwhole, hpower, Nat.pow_add, ← Nat.mul_assoc]
      rfl
    · have hpower : halfDigits + 1 = p.exponent.natAbs + (p.exponent + 1074).toNat := by omega
      have hless : p.mantissa < (p.mantissa / 2 ^ p.exponent.natAbs + 1) * 2 ^ p.exponent.natAbs :=
        (Nat.div_lt_iff_lt_mul (Nat.two_pow_pos _)).mp (Nat.lt_succ_self _)
      rw [if_neg hwhole, hpower, Nat.pow_add, ← Nat.mul_assoc]
      exact Nat.mul_le_mul_right _ hless.le

/-- A double is a whole number of halves. -/
def IsHalves (x : Float) (k : ℤ) : Prop := units? x = some (k * halfUnits)

theorem rounded_mul_two_pow {m k : ℕ} (hm : m < 2 ^ 53) : rounded (m * 2 ^ k) = m * 2 ^ k := by
  rcases Nat.eq_zero_or_pos m with rfl | hpos
  · rw [Nat.zero_mul, rounded_of_dvd (Nat.dvd_zero _)]
  · have hlog := log2_lt_of_lt hm
    refine rounded_of_dvd (Nat.dvd_trans (Nat.pow_dvd_pow 2 ?_) (Nat.dvd_mul_left ..))
    rw [log2_mul_two_pow hpos.ne']
    omega

theorem natAbs_mul_halfUnits (k : ℤ) : (k * halfUnits).natAbs = k.natAbs * 2 ^ halfDigits := by
  rw [Int.natAbs_mul, halfUnits, Int.natAbs_pow]
  rfl

theorem natAbs_halves_lt {k : ℤ} (hk : k.natAbs < 2 ^ 53) : (k * halfUnits).natAbs < overflow := by
  rw [natAbs_mul_halfUnits]
  refine lt_overflow hk ?_
  rw [halfDigits]
  decide

/-- Not too many halves are a double. -/
theorem nearest_halves {k : ℤ} (hk : k.natAbs < 2 ^ 53) : nearest (k * halfUnits) = k * halfUnits := by
  have hless := natAbs_halves_lt hk
  rw [natAbs_mul_halfUnits] at hless
  rw [nearest, natAbs_mul_halfUnits, rounded_mul_two_pow hk, saturated_of_lt hless,
    ← natAbs_mul_halfUnits, Int.sign_mul_natAbs]

theorem isHalves_half : IsHalves 0.5 1 := by
  unfold IsHalves
  decide +kernel

theorem isHalves_seven : IsHalves 7.0 14 := by
  unfold IsHalves
  decide +kernel

variable {k l : ℤ}

theorem IsHalves.lt_iff (hx : IsHalves x k) (hy : IsHalves y l) : x < y ↔ k < l := by
  rw [Number.lt_iff]
  constructor
  · rintro ⟨a, b, ha, hb, hab⟩
    cases hx.symm.trans ha
    cases hy.symm.trans hb
    exact lt_of_mul_lt_mul_right hab halfUnits_pos.le
  · exact fun hkl => ⟨_, _, hx, hy, mul_lt_mul_of_pos_right hkl halfUnits_pos⟩

theorem IsHalves.le (hx : IsHalves x k) (hy : IsHalves y l) (hkl : k ≤ l) : x ≤ y :=
  le_iff.mpr ⟨_, _, hx, hy, mul_le_mul_of_nonneg_right hkl halfUnits_pos.le⟩

/-- A half less is exact. -/
theorem IsHalves.sub_half (hx : IsHalves x k) (hk : (k - 1).natAbs < 2 ^ 53) : IsHalves (x - 0.5) (k - 1) := by
  have hdefined : k * halfUnits = 1 * halfUnits → (k * halfUnits).natAbs < overflow := by
    intro heq
    rw [heq]
    exact natAbs_halves_lt (by decide)
  have hsub := units_sub hx isHalves_half hdefined
  rw [← Int.sub_mul, nearest_halves hk] at hsub
  exact hsub

theorem IsHalves.le_ceil (hx : IsHalves x k) (hk : k.natAbs < 2 ^ 53) : k ≤ 2 * Page.ceilOfFloat x := by
  have hceil := le_ceilOfFloat hx (natAbs_halves_lt hk)
  have htwice : ((Page.ceilOfFloat x * 2 ^ (halfDigits + 1) : ℕ) : ℤ) =
      2 * Page.ceilOfFloat x * halfUnits := by
    rw [halfUnits, Nat.cast_mul, Nat.cast_pow, Nat.cast_ofNat, pow_succ]
    ring
  rw [htwice] at hceil
  exact le_of_mul_le_mul_right hceil halfUnits_pos

end DocTemplate.Number
