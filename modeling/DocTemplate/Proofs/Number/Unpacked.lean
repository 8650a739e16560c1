import Mathlib

/-!
# Doubles in units

Every double but the value that is no number has a whole number of units, the least double being the unit;
the infinities have more than all others. In units the order of doubles is the order of whole numbers
(`compare_eq`).
-/

namespace DocTemplate.Number

open Float.Model Float.Model.UnpackedFloat

/-! ## Canonical forms -/

/-- The forms that doubles unpack to. -/
inductive Canonical : UnpackedFloat → Prop
  | notANumber : Canonical .notANumber
  | infinity (s : Sign) : Canonical (.infinity s)
  | zero (s : Sign) : Canonical (.zero s)
  | finite (s : Sign) (m : ℕ) (e : ℤ) (hm : 0 < m) (hmax : m < 2 ^ 53) (hleast : -1074 ≤ e)
      (hgreatest : e ≤ 971) (hfull : 2 ^ 52 ≤ m ∨ e = -1074) : Canonical (.finite s m e hm)

theorem toNat_implicit (m : BitVec 52) : (1#1 ++ m).toNat = 2 ^ 52 + m.toNat := by
  rw [BitVec.toNat_append, ← Nat.shiftLeft_add_eq_or_of_lt m.isLt]
  rfl

theorem canonical_unpack (x : Float.Model) : Canonical x.unpack := by
  have hmantissa := (@unpackMantissa .binary64 x.toBits.toBitVec).isLt
  have hexponent := (@unpackExponent .binary64 x.toBits.toBitVec).isLt
  unfold Float.Model.unpack UnpackedFloat.unpack
  dsimp only
  split
  · split
    · exact .infinity _
    · exact .notANumber
  next hinfinite =>
  split
  next hzero =>
    split
    · exact .zero _
    · rw [hzero]
      change _ < 2 ^ 52 at hmantissa
      exact .finite _ _ _ _ (by omega) (by decide) (by decide) (.inr rfl)
  next hnormal =>
    have hinf : (@unpackExponent .binary64 x.toBits.toBitVec).toNat ≠ 2047 :=
      fun h => hinfinite (BitVec.eq_of_toNat_eq h)
    have hsub : (@unpackExponent .binary64 x.toBits.toBitVec).toNat ≠ 0 :=
      fun h => hnormal (BitVec.eq_of_toNat_eq h)
    have hm := toNat_implicit (@unpackMantissa .binary64 x.toBits.toBitVec)
    change _ < 2 ^ 52 at hmantissa
    change _ < 2 ^ 11 at hexponent
    refine .finite _ _ _ _ ?_ ?_ ?_ (.inl ?_)
    · rw [hm]; omega
    · change -1074 ≤ (_ : ℤ) - 1075; omega
    · change (_ : ℤ) - 1075 ≤ 971; omega
    · rw [hm]; omega

theorem toNat_ofNat_of_lt {k n : ℕ} (h : n < 2 ^ k) : (BitVec.ofNat k n).toNat = n := by
  rw [BitVec.toNat_ofNat, Nat.mod_eq_of_lt h]

theorem unpack_pack {u : UnpackedFloat} (h : Canonical u) : (Float.Model.pack u).unpack = u := by
  unfold Float.Model.unpack Float.Model.pack
  cases h with
  | notANumber => exact unpack_packedNaN
  | zero s => exact unpack_packedZero
  | infinity s => cases s <;> rfl
  | finite s m e hm hmax hleast hgreatest hfull =>
    have hbias : (Format.binary64.exponentBias : ℤ) = 1023 := rfl
    simp only [UnpackedFloat.pack, hbias, Nat.cast_ofNat]
    rw [if_neg (by change ¬(2 ^ 11 ≤ (e + 1023 + 52).toNat + 1); omega)]
    by_cases hnormal : 2 ^ 52 ≤ m
    · have hlog : m.log2 = 52 := (Nat.log2_eq_iff hm.ne').mpr ⟨hnormal, hmax⟩
      rw [if_pos (by rw [hlog]; rfl)]
      have he : (BitVec.ofNat 11 (e + 1023 + 52).toNat).toNat = (e + 1023 + 52).toNat :=
        toNat_ofNat_of_lt (by omega)
      have hinf : BitVec.ofNat 11 (e + 1023 + 52).toNat ≠ -1#11 := by
        intro heq
        have := congrArg BitVec.toNat heq
        rw [he] at this
        change _ = 2047 at this
        omega
      have hsub : BitVec.ofNat 11 (e + 1023 + 52).toNat ≠ 0#11 := by
        intro heq
        have := congrArg BitVec.toNat heq
        rw [he] at this
        change _ = 0 at this
        omega
      have hmant : (1#1 ++ BitVec.ofNat 52 m).toNat = m := by
        rw [toNat_implicit, BitVec.toNat_ofNat]
        omega
      simp only [UnpackedFloat.unpack, unpackExponent_packComponents, unpackMantissa_packComponents,
        unpackSign_packComponents, Sign.ofBitVec_toBitVec, hbias, Nat.cast_ofNat]
      rw [if_neg hinf, if_neg hsub]
      simp only [hmant, he]
      congr 1
      omega
    · have hlog : m.log2 < 52 := (Nat.log2_lt hm.ne').mpr (by omega)
      rw [if_neg (by change ¬(m.log2 + 1 = 53); omega)]
      have hmant : (BitVec.ofNat 52 m).toNat = m := toNat_ofNat_of_lt (by omega)
      have hne : BitVec.ofNat 52 m ≠ 0#52 := by
        intro heq
        have := congrArg BitVec.toNat heq
        rw [hmant] at this
        change _ = 0 at this
        omega
      simp only [UnpackedFloat.unpack, unpackExponent_packComponents, unpackMantissa_packComponents,
        unpackSign_packComponents, Sign.ofBitVec_toBitVec]
      rw [if_neg (by decide), if_pos trivial, dif_neg hne]
      simp only [hmant]
      congr 1
      have := hfull.resolve_left hnormal
      subst this
      rfl

/-! ## Units -/

/-- The number of binary digits that the units of finite doubles have at most. -/
@[irreducible] def unitDigits : ℕ := 2098

/-- The least amount of units that no finite double has. -/
def overflow : ℕ := 2 ^ unitDigits

theorem overflow_pos : 0 < overflow := Nat.two_pow_pos _

theorem lt_overflow {m k : ℕ} (hm : m < 2 ^ 53) (hk : k ≤ 2045) : m * 2 ^ k < overflow := by
  have hdigits : 53 + k ≤ unitDigits := by
    rw [unitDigits]
    omega
  calc m * 2 ^ k < 2 ^ 53 * 2 ^ k := Nat.mul_lt_mul_of_pos_right hm (Nat.two_pow_pos k)
    _ = 2 ^ (53 + k) := (Nat.pow_add ..).symm
    _ ≤ overflow := Nat.pow_le_pow_right (by omega) hdigits

theorem overflow_le {m k : ℕ} (hm : 2 ^ 52 ≤ m) (hk : 2046 ≤ k) : overflow ≤ m * 2 ^ k := by
  have hdigits : unitDigits ≤ 52 + k := by
    rw [unitDigits]
    omega
  calc overflow ≤ 2 ^ (52 + k) := Nat.pow_le_pow_right (by omega) hdigits
    _ = 2 ^ 52 * 2 ^ k := Nat.pow_add ..
    _ ≤ m * 2 ^ k := Nat.mul_le_mul_right _ hm

/-- The units of a double. Infinities have more than the finite doubles have among them. -/
def unitsOf? : UnpackedFloat → Option ℤ
  | .notANumber => none
  | .infinity s => some (s.apply (4 * overflow : ℕ))
  | .zero _ => some 0
  | .finite s m e _ => some (s.apply (m * 2 ^ (e + 1074).toNat : ℕ))

/-- A number of units, or that of an infinity where no finite double has so many. -/
def saturated (n : ℕ) : ℕ := if n < overflow then n else 4 * overflow

theorem saturated_of_lt {n : ℕ} (h : n < overflow) : saturated n = n := if_pos h

theorem saturated_of_le {n : ℕ} (h : overflow ≤ n) : saturated n = 4 * overflow :=
  if_neg (Nat.not_lt.mpr h)

theorem saturated_mono {m n : ℕ} (h : m ≤ n) : saturated m ≤ saturated n := by
  have hpos := overflow_pos
  unfold saturated
  split <;> split <;> omega

theorem natAbs_apply (s : Sign) (n : ℤ) : (s.apply n).natAbs = n.natAbs := by
  cases s with
  | negative => exact Int.natAbs_neg n
  | positive => rfl

/-- What has units is finite, with less than overflow, or an infinity. -/
theorem finite_or_infinity {a : UnpackedFloat} (ha : Canonical a) {x : ℤ} (hx : unitsOf? a = some x) :
    (a.isFinite ∧ x.natAbs < overflow) ∨ ∃ s, a = .infinity s ∧ x = s.apply (4 * overflow : ℕ) := by
  cases ha with
  | notANumber => cases hx
  | infinity s => exact .inr ⟨s, rfl, (Option.some.inj hx).symm⟩
  | zero s =>
    cases hx
    exact .inl ⟨rfl, overflow_pos⟩
  | finite s m e hm hmax hleast hgreatest hfull =>
    cases hx
    rw [natAbs_apply]
    exact .inl ⟨rfl, lt_overflow hmax (by omega)⟩

theorem units_pack_finite (s : Sign) {m : ℕ} {e : ℤ} (hm : 0 < m) (hmax : m < 2 ^ 53)
    (hleast : -1074 ≤ e) (hfull : 2 ^ 52 ≤ m ∨ e = -1074) :
    unitsOf? (Float.Model.pack (.finite s m e hm)).unpack =
      some (s.apply (saturated (m * 2 ^ (e + 1074).toNat))) := by
  by_cases hgreatest : e ≤ 971
  · rw [unpack_pack (.finite s m e hm hmax hleast hgreatest hfull),
      saturated_of_lt (lt_overflow hmax (by omega))]
    rfl
  · have hinf : Float.Model.pack (.finite s m e hm) = Float.Model.pack (.infinity s) := by
      have hpack : UnpackedFloat.pack .binary64 (.finite s m e hm) = packedInfinity .binary64 s := by
        rw [UnpackedFloat.pack, if_pos]
        change 2 ^ 11 ≤ (e + 1023 + 52).toNat + 1
        omega
      unfold Float.Model.pack
      simp only [hpack]
      rfl
    have hmore := overflow_le (hfull.resolve_right (by omega)) (show 2046 ≤ (e + 1074).toNat by omega)
    rw [hinf, unpack_pack (.infinity s), saturated_of_le hmore]
    rfl

/-! ## Order -/

theorem shifted_lt {m n : ℕ} {e f : ℤ} (he : -1074 ≤ e) (hef : e < f) (hm : m < 2 ^ 53)
    (hn : 2 ^ 52 ≤ n) :
    m * 2 ^ (e + 1074).toNat < n * 2 ^ (f + 1074).toNat := by
  calc m * 2 ^ (e + 1074).toNat < 2 ^ 53 * 2 ^ (e + 1074).toNat :=
        Nat.mul_lt_mul_of_pos_right hm (Nat.two_pow_pos _)
    _ = 2 ^ 52 * 2 ^ ((e + 1074).toNat + 1) := by rw [← Nat.pow_add, ← Nat.pow_add]; congr 1; omega
    _ ≤ n * 2 ^ (f + 1074).toNat :=
        Nat.mul_le_mul hn (Nat.pow_le_pow_right (by omega) (by omega))

theorem compare_shifted {m n : ℕ} {e f : ℤ} (hm : m < 2 ^ 53) (hn : n < 2 ^ 53) (he : -1074 ≤ e)
    (hf : -1074 ≤ f) (hm' : 2 ^ 52 ≤ m ∨ e = -1074) (hn' : 2 ^ 52 ≤ n ∨ f = -1074) :
    (compare e f).then (compare m n) =
      compare ((m * 2 ^ (e + 1074).toNat : ℕ) : ℤ) ((n * 2 ^ (f + 1074).toNat : ℕ) : ℤ) := by
  rcases lt_trichotomy e f with h | rfl | h
  · have hlt := shifted_lt he h hm (hn'.resolve_right (by omega))
    rw [compare_lt_iff_lt.mpr h, compare_lt_iff_lt.mpr (Int.ofNat_lt.mpr hlt)]
    rfl
  · have hpos := Nat.two_pow_pos (e + 1074).toNat
    rw [compare_eq_iff_eq.mpr rfl]
    rcases lt_trichotomy m n with h | rfl | h
    · have hlt := Nat.mul_lt_mul_of_pos_right h hpos
      rw [compare_lt_iff_lt.mpr h, compare_lt_iff_lt.mpr (Int.ofNat_lt.mpr hlt)]
      rfl
    · rw [compare_eq_iff_eq.mpr rfl, compare_eq_iff_eq.mpr rfl]
      rfl
    · have hlt := Nat.mul_lt_mul_of_pos_right h hpos
      rw [compare_gt_iff_gt.mpr h, compare_gt_iff_gt.mpr (Int.ofNat_lt.mpr hlt)]
      rfl
  · have hlt := shifted_lt hf h hn (hm'.resolve_right (by omega))
    rw [compare_gt_iff_gt.mpr h, compare_gt_iff_gt.mpr (Int.ofNat_lt.mpr hlt)]
    rfl

theorem compare_opposite (x y : ℤ) : compare (-x) (-y) = (compare x y).swap := by
  rcases lt_trichotomy x y with h | rfl | h
  · rw [compare_lt_iff_lt.mpr h, compare_gt_iff_gt.mpr (Int.neg_lt_neg h)]
    rfl
  · rw [compare_eq_iff_eq.mpr rfl, compare_eq_iff_eq.mpr rfl]
    rfl
  · rw [compare_gt_iff_gt.mpr h, compare_lt_iff_lt.mpr (Int.neg_lt_neg h)]
    rfl

theorem compare_infinity (s : Sign) {a : UnpackedFloat} (ha : a.isFinite) {x : ℤ}
    (hx : x.natAbs < overflow) :
    (UnpackedFloat.infinity s).compare a = some (compare (s.apply (4 * overflow : ℕ)) x) := by
  cases s with
  | negative =>
    rw [compare_lt_iff_lt.mpr (by simp only [Sign.apply]; omega)]
    cases a <;> first | rfl | cases ha
  | positive =>
    rw [compare_gt_iff_gt.mpr (by simp only [Sign.apply]; omega)]
    cases a <;> first | rfl | cases ha

theorem compare_finite_infinity (s : Sign) {a : UnpackedFloat} (ha : a.isFinite) {x : ℤ}
    (hx : x.natAbs < overflow) :
    a.compare (.infinity s) = some (compare x (s.apply (4 * overflow : ℕ))) := by
  cases s with
  | negative =>
    rw [compare_gt_iff_gt.mpr (by simp only [Sign.apply]; omega)]
    cases a with
    | finite t => cases t <;> rfl
    | _ => first | rfl | cases ha
  | positive =>
    rw [compare_lt_iff_lt.mpr (by simp only [Sign.apply]; omega)]
    cases a with
    | finite t => cases t <;> rfl
    | _ => first | rfl | cases ha

theorem compare_finite {a b : UnpackedFloat} (ha : Canonical a) (hb : Canonical b)
    (hafinite : a.isFinite) (hbfinite : b.isFinite) {x y : ℤ} (hx : unitsOf? a = some x)
    (hy : unitsOf? b = some y) : a.compare b = some (compare x y) := by
  cases ha with
  | notANumber => cases hafinite
  | infinity s => cases hafinite
  | zero s =>
    cases hx
    cases hb with
    | notANumber => cases hbfinite
    | infinity t => cases hbfinite
    | zero t =>
      cases hy
      rfl
    | finite t n f hn =>
      have hpos : 0 < n * 2 ^ (f + 1074).toNat := Nat.mul_pos hn (Nat.two_pow_pos _)
      cases hy
      cases t with
      | negative => rw [compare_gt_iff_gt.mpr (by simp only [Sign.apply]; omega)]; rfl
      | positive => rw [compare_lt_iff_lt.mpr (by simp only [Sign.apply]; omega)]; rfl
  | finite s m e hm hmax hleast hgreatest hfull =>
    have hposm : 0 < m * 2 ^ (e + 1074).toNat := Nat.mul_pos hm (Nat.two_pow_pos _)
    cases hx
    cases hb with
    | notANumber => cases hbfinite
    | infinity t => cases hbfinite
    | zero t =>
      cases hy
      cases s with
      | negative => rw [compare_lt_iff_lt.mpr (by simp only [Sign.apply]; omega)]; rfl
      | positive => rw [compare_gt_iff_gt.mpr (by simp only [Sign.apply]; omega)]; rfl
    | finite t n f hn hmax' hleast' hgreatest' hfull' =>
      have hposn : 0 < n * 2 ^ (f + 1074).toNat := Nat.mul_pos hn (Nat.two_pow_pos _)
      have hshifted := compare_shifted hmax hmax' hleast hleast' hfull hfull'
      cases hy
      cases s <;> cases t
      · simp only [Sign.apply, compare_opposite, ← hshifted]
        rfl
      · rw [compare_lt_iff_lt.mpr (by simp only [Sign.apply]; omega)]; rfl
      · rw [compare_gt_iff_gt.mpr (by simp only [Sign.apply]; omega)]; rfl
      · simp only [Sign.apply, ← hshifted]
        rfl

/-- Doubles are in the order of their units. -/
theorem compare_eq {a b : UnpackedFloat} (ha : Canonical a) (hb : Canonical b) {x y : ℤ}
    (hx : unitsOf? a = some x) (hy : unitsOf? b = some y) : a.compare b = some (compare x y) := by
  have hpos := overflow_pos
  rcases finite_or_infinity ha hx with ⟨hafinite, hless⟩ | ⟨s, rfl, rfl⟩ <;>
    rcases finite_or_infinity hb hy with ⟨hbfinite, hless'⟩ | ⟨t, rfl, rfl⟩
  · exact compare_finite ha hb hafinite hbfinite hx hy
  · exact compare_finite_infinity t hafinite hless
  · exact compare_infinity s hbfinite hless'
  · cases s <;> cases t
    · rw [compare_eq_iff_eq.mpr rfl]
      rfl
    · rw [compare_lt_iff_lt.mpr (by simp only [Sign.apply]; omega)]
      rfl
    · rw [compare_gt_iff_gt.mpr (by simp only [Sign.apply]; omega)]
      rfl
    · rw [compare_eq_iff_eq.mpr rfl]
      rfl

end DocTemplate.Number
