import DocTemplate.Number.Binary
import DocTemplate.Proofs.Number.Nearest

/-!
# The arithmetic of doubles

What the order and the arithmetic of doubles have in common with those of numbers: nothing is greater than
what something that is not negative is taken from (`sub_le_self`), and the more is taken, the less is left
(`le_sub_of_le`). Infinities are included.
-/

namespace DocTemplate.Number

open Float.Model Float.Model.UnpackedFloat

/-- The units of a double, if it is a number. -/
def units? (x : Float) : Option ℤ := unitsOf? x.toModel.unpack

variable {x y z h k : Float} {a b : ℤ}

/-! ## Order -/

theorem eq_notANumber {u : UnpackedFloat} (h : unitsOf? u = none) : u = .notANumber := by
  cases u <;> first | rfl | cases h

theorem compare_eq_none {u v : UnpackedFloat} (h : unitsOf? u = none ∨ unitsOf? v = none) :
    u.compare v = none := by
  rcases h with h | h
  · rw [eq_notANumber h]
    rfl
  · rw [eq_notANumber h]
    cases u <;> rfl

theorem le_iff : x ≤ y ↔ ∃ a b, units? x = some a ∧ units? y = some b ∧ a ≤ b := by
  have hle : x ≤ y ↔ (x.toModel.unpack.compare y.toModel.unpack).any (·.isLE) = true := by
    change decide _ = true ↔ _
    rw [decide_eq_true_iff]
    rfl
  rw [hle]
  unfold units?
  cases hx : unitsOf? x.toModel.unpack with
  | none => simp [compare_eq_none (.inl hx)]
  | some a =>
    cases hy : unitsOf? y.toModel.unpack with
    | none => simp [compare_eq_none (.inr hy)]
    | some b =>
      rw [compare_eq (canonical_unpack _) (canonical_unpack _) hx hy]
      simp [compare_le_iff_le, Ordering.isLE_iff_ne_gt]

theorem lt_iff : x < y ↔ ∃ a b, units? x = some a ∧ units? y = some b ∧ a < b := by
  have hlt : x < y ↔ (x.toModel.unpack.compare y.toModel.unpack == some .lt) = true := by
    change decide _ = true ↔ _
    rw [decide_eq_true_iff]
    rfl
  rw [hlt]
  unfold units?
  cases hx : unitsOf? x.toModel.unpack with
  | none => simp [compare_eq_none (.inl hx)]
  | some a =>
    cases hy : unitsOf? y.toModel.unpack with
    | none => simp [compare_eq_none (.inr hy)]
    | some b =>
      rw [compare_eq (canonical_unpack _) (canonical_unpack _) hx hy]
      simp [compare_lt_iff_lt]

theorem not_lt_self (x : Float) : ¬x < x := by
  rw [lt_iff]
  rintro ⟨a, b, ha, hb, hab⟩
  cases ha.symm.trans hb
  exact lt_irrefl a hab

theorem le_self_iff : x ≤ x ↔ ∃ a, units? x = some a := by
  rw [le_iff]
  constructor
  · rintro ⟨a, _, ha, _, _⟩
    exact ⟨a, ha⟩
  · rintro ⟨a, ha⟩
    exact ⟨a, a, ha, ha, le_refl a⟩

theorem double_le_trans (hxy : x ≤ y) (hyz : y ≤ z) : x ≤ z := by
  rw [le_iff] at hxy hyz ⊢
  obtain ⟨a, b, ha, hb, hab⟩ := hxy
  obtain ⟨b', c, hb', hc, hbc⟩ := hyz
  cases hb.symm.trans hb'
  exact ⟨a, c, ha, hc, hab.trans hbc⟩

/-- Of two numbers one is not greater than the other. -/
theorem le_of_not_lt (hx : x ≤ x) (hy : y ≤ y) (h : ¬y < x) : x ≤ y := by
  obtain ⟨a, ha⟩ := le_self_iff.mp hx
  obtain ⟨b, hb⟩ := le_self_iff.mp hy
  rw [lt_iff] at h
  refine le_iff.mpr ⟨a, b, ha, hb, ?_⟩
  by_contra hless
  exact h ⟨b, a, hb, ha, by omega⟩

/-! ## Finite doubles -/

theorem toNat_unpackExponent (b : BitVec 64) :
    (@unpackExponent .binary64 b).toNat = b.toNat / 2 ^ 52 % 2048 := by
  rw [unpackExponent_def, BitVec.extractLsb'_toNat, Nat.shiftRight_eq_div_pow]
  rfl

/-- What the bits of a double say about its being finite. -/
theorem isFinite_iff : isFinite x = true ↔ x.toModel.unpack.isFinite = true := by
  have hfield : x.toBits.toNat / Nat.pow 2 52 % 2048 =
      (@unpackExponent .binary64 x.toModel.toBits.toBitVec).toNat := (toNat_unpackExponent _).symm
  by_cases hmost : (@unpackExponent .binary64 x.toModel.toBits.toBitVec).toNat = 2047
  · have hexponent : @unpackExponent .binary64 x.toModel.toBits.toBitVec = -1#_ :=
      BitVec.eq_of_toNat_eq hmost
    have hparts : isFinite x = false := by
      simp only [isFinite, parts?, hfield, hmost, if_pos]
      rfl
    have hunpack : x.toModel.unpack.isFinite = false := by
      simp only [Float.Model.unpack, UnpackedFloat.unpack, hexponent, if_pos]
      split <;> rfl
    rw [hparts, hunpack]
  · have hexponent : ¬@unpackExponent .binary64 x.toModel.toBits.toBitVec = -1#_ := by
      intro h
      exact hmost (congrArg BitVec.toNat h)
    have hparts : isFinite x = true := by
      simp only [isFinite, parts?, hfield, if_neg hmost]
      split <;> rfl
    have hunpack : x.toModel.unpack.isFinite = true := by
      simp only [Float.Model.unpack, UnpackedFloat.unpack, if_neg hexponent]
      split
      · split <;> rfl
      · rfl
    rw [hparts, hunpack]

theorem isFinite_iff_units : isFinite x = true ↔ ∃ a, units? x = some a ∧ a.natAbs < overflow := by
  rw [isFinite_iff]
  constructor
  · intro h
    cases hx : unitsOf? x.toModel.unpack with
    | none =>
      cases hu : x.toModel.unpack with
      | notANumber =>
        rw [hu] at h
        cases h
      | _ =>
        rw [hu] at hx
        cases hx
    | some a =>
      refine ⟨a, hx, ?_⟩
      rcases finite_or_infinity (canonical_unpack _) hx with ⟨-, hless⟩ | ⟨s, hinfinite, -⟩
      · exact hless
      · rw [hinfinite] at h
        cases h
  · rintro ⟨a, ha, hless⟩
    rcases finite_or_infinity (canonical_unpack _) ha with ⟨hfinite, -⟩ | ⟨s, -, rfl⟩
    · exact hfinite
    · rw [natAbs_apply] at hless
      omega

/-- The units of a double that is not finite. -/
theorem units_lt_or_eq (hx : units? x = some a) : a.natAbs < overflow ∨ a.natAbs = 4 * overflow := by
  rcases finite_or_infinity (canonical_unpack _) hx with ⟨-, hless⟩ | ⟨s, -, rfl⟩
  · exact .inl hless
  · rw [natAbs_apply]
    exact .inr rfl

/-! ## Differences -/

theorem units_sub (hx : units? x = some a) (hy : units? y = some b)
    (h : a = b → a.natAbs < overflow) : units? (x - y) = some (nearest (a - b)) := by
  change unitsOf? (Float.Model.pack (UnpackedFloat.sub .binary64 x.toModel.unpack y.toModel.unpack)).unpack
    = _
  have hopposite : unitsOf? y.toModel.unpack.neg = some (-b) := by
    rw [units_neg]
    exact congrArg (Option.map _) hy
  rw [sub_eq_add_opposite, Int.sub_eq_add_neg]
  exact units_add (canonical_unpack _) (canonical_unpack _).neg hx hopposite fun hsum => h (by omega)

/-- A difference that is a number is one of numbers, and not of one infinity with itself. -/
theorem units_of_sub {c : ℤ} (h : units? (x - y) = some c) :
    ∃ a b, units? x = some a ∧ units? y = some b ∧ (a = b → a.natAbs < overflow) := by
  change unitsOf? (Float.Model.pack (UnpackedFloat.sub .binary64 x.toModel.unpack y.toModel.unpack)).unpack
    = _ at h
  have hnumber : UnpackedFloat.sub .binary64 x.toModel.unpack y.toModel.unpack ≠ .notANumber := by
    intro hnan
    rw [hnan, unpack_pack .notANumber] at h
    cases h
  cases hx : units? x with
  | none =>
    rw [eq_notANumber hx] at hnumber
    exact absurd rfl hnumber
  | some a =>
    cases hy : units? y with
    | none =>
      rw [eq_notANumber hy] at hnumber
      refine absurd ?_ hnumber
      cases x.toModel.unpack <;> rfl
    | some b =>
      refine ⟨a, b, rfl, rfl, ?_⟩
      rintro rfl
      rcases finite_or_infinity (canonical_unpack _) hx with ⟨-, hless⟩ | ⟨s, hu, hs⟩
      · exact hless
      · rcases finite_or_infinity (canonical_unpack _) hy with ⟨-, hless⟩ | ⟨t, hv, ht⟩
        · exact hless
        · refine absurd ?_ hnumber
          have hpos := overflow_pos
          rw [hu, hv]
          rw [hs] at ht
          cases s <;> cases t <;> simp only [Sign.apply] at ht <;> first | rfl | omega

theorem units_zero : units? 0.0 = some 0 := by
  have hbits : (0.0 : Float).toModel.toBits = 0 := by decide +kernel
  unfold units? Float.Model.unpack
  rw [hbits]
  rfl

theorem nonneg_iff : 0.0 ≤ x ↔ ∃ a, units? x = some a ∧ 0 ≤ a := by
  rw [le_iff, units_zero]
  constructor
  · rintro ⟨_, a, h, ha, hle⟩
    cases h
    exact ⟨a, ha, hle⟩
  · rintro ⟨a, ha, hle⟩
    exact ⟨0, a, rfl, ha, hle⟩

/-- Less is left where something is taken away. -/
theorem sub_le_self (hy : y ≤ y) (hh : 0.0 ≤ h) (hfinite : isFinite y = true ∨ isFinite h = true) :
    y - h ≤ y := by
  obtain ⟨a, ha⟩ := le_self_iff.mp hy
  obtain ⟨b, hb, hpos⟩ := nonneg_iff.mp hh
  have hdefined : a = b → a.natAbs < overflow := by
    rintro rfl
    rcases hfinite with hfinite | hfinite
    · obtain ⟨c, hc, hless⟩ := isFinite_iff_units.mp hfinite
      cases ha.symm.trans hc
      exact hless
    · obtain ⟨c, hc, hless⟩ := isFinite_iff_units.mp hfinite
      cases hb.symm.trans hc
      exact hless
  refine le_iff.mpr ⟨_, a, units_sub ha hb hdefined, ha, ?_⟩
  calc nearest (a - b) ≤ nearest a := nearest_mono (by omega)
    _ = a := nearest_units (canonical_unpack _) ha

/-- The less is taken away, the more is left. -/
theorem le_sub_of_le (hx : x ≤ y - h) (hk : 0.0 ≤ k) (hkh : k ≤ h) : x ≤ y - k := by
  obtain ⟨u, v, hu, hv, huv⟩ := le_iff.mp hx
  obtain ⟨a, b, ha, hb, hdefined⟩ := units_of_sub hv
  obtain ⟨c, hc, hpos⟩ := nonneg_iff.mp hk
  obtain ⟨c', b', hc', hb', hcb⟩ := le_iff.mp hkh
  cases hc.symm.trans hc'
  cases hb.symm.trans hb'
  have hoverflow := overflow_pos
  have hsub : nearest (a - b) = v := Option.some.inj ((units_sub ha hb hdefined).symm.trans hv)
  have hdefined' : a = c → a.natAbs < overflow := by
    -- If `y` and `k` were infinite, then so was `h`.
    rintro rfl
    have hsize := units_lt_or_eq ha
    have hsize' := units_lt_or_eq hb
    omega
  refine le_iff.mpr ⟨u, _, hu, units_sub ha hc hdefined', ?_⟩
  calc u ≤ nearest (a - b) := by omega
    _ ≤ nearest (a - c) := nearest_mono (by omega)

theorem le_sub_congr (hx : x ≤ y - h) (hyz : y ≤ z) (hzy : z ≤ y) : x ≤ z - h := by
  obtain ⟨u, v, hu, hv, huv⟩ := le_iff.mp hx
  obtain ⟨a, b, ha, hb, hdefined⟩ := units_of_sub hv
  obtain ⟨a', c, ha', hc, hac⟩ := le_iff.mp hyz
  obtain ⟨c', a'', hc', ha'', hca⟩ := le_iff.mp hzy
  cases ha.symm.trans ha'
  cases ha.symm.trans ha''
  cases hc.symm.trans hc'
  cases hac.antisymm hca
  have hsame : units? (z - h) = some v := by
    rw [units_sub hc hb hdefined, ← units_sub ha hb hdefined]
    exact hv
  exact le_iff.mpr ⟨u, v, hu, hsame, huv⟩

/-- What is taken from something smaller leaves a number as well, if it is not negative. -/
theorem sub_le_sub_self (hx : x ≤ z - h) (hyz : y ≤ z) (hh : 0.0 ≤ h) : y - h ≤ y - h := by
  obtain ⟨u, v, hu, hv, huv⟩ := le_iff.mp hx
  obtain ⟨a, b, ha, hb, hdefined⟩ := units_of_sub hv
  obtain ⟨c, a', hc, ha', hca⟩ := le_iff.mp hyz
  obtain ⟨b', hb', hpos⟩ := nonneg_iff.mp hh
  cases ha.symm.trans ha'
  cases hb.symm.trans hb'
  have hoverflow := overflow_pos
  have hdefined' : c = b → c.natAbs < overflow := by
    -- If `y` and `h` were infinite, then so was `z`.
    rintro rfl
    have hsize := units_lt_or_eq ha
    have hsize' := units_lt_or_eq hc
    omega
  exact le_self_iff.mpr ⟨_, units_sub hc hb hdefined'⟩

/-- What is finite after something was taken away has been finite. -/
theorem isFinite_of_sub (h : isFinite (y - k) = true) : isFinite y = true := by
  obtain ⟨c, hc, hless⟩ := isFinite_iff_units.mp h
  obtain ⟨a, b, ha, hb, hdefined⟩ := units_of_sub hc
  have hsub : nearest (a - b) = c := Option.some.inj ((units_sub ha hb hdefined).symm.trans hc)
  have hsize := units_lt_or_eq hb
  refine isFinite_iff_units.mpr ⟨a, ha, ?_⟩
  rcases units_lt_or_eq ha with hsmall | hinfinite
  · exact hsmall
  · by_cases hpos : 0 ≤ a
    · rw [nearest_of_overflow_le (by omega)] at hsub
      omega
    · rw [nearest_of_le_neg_overflow (by omega)] at hsub
      omega

/-! ## Sums, halves and doubles -/

theorem le_add_self (hh : 0.0 ≤ h) (hk : 0.0 ≤ k) : h ≤ h + k := by
  obtain ⟨a, ha, hpos⟩ := nonneg_iff.mp hh
  obtain ⟨b, hb, hpos'⟩ := nonneg_iff.mp hk
  have hoverflow := overflow_pos
  have hsum : units? (h + k) = some (nearest (a + b)) :=
    units_add (canonical_unpack _) (canonical_unpack _) ha hb (by omega)
  refine le_iff.mpr ⟨a, _, ha, hsum, ?_⟩
  calc a = nearest a := (nearest_units (canonical_unpack _) ha).symm
    _ ≤ nearest (a + b) := nearest_mono (by omega)

theorem unpack_two : (2.0 : Float).toModel.unpack = .finite .positive (2 ^ 52) (-51) (by decide) := by
  have hbits : (2.0 : Float).toModel.toBits = 0x4000000000000000 := by decide +kernel
  unfold Float.Model.unpack
  rw [hbits]
  rfl

/-- A finite double that is not negative: it is zero or positive. -/
theorem unpack_of_nonneg (hfinite : isFinite h = true) (hh : 0.0 ≤ h) :
    (∃ s, h.toModel.unpack = .zero s) ∨ ∃ m e hm, h.toModel.unpack = .finite .positive m e hm := by
  obtain ⟨a, ha, hpos⟩ := nonneg_iff.mp hh
  rw [isFinite_iff] at hfinite
  unfold units? at ha
  cases hu : h.toModel.unpack with
  | notANumber =>
    rw [hu] at hfinite
    cases hfinite
  | infinity s =>
    rw [hu] at hfinite
    cases hfinite
  | zero s => exact .inl ⟨s, rfl⟩
  | finite s m e hm =>
    cases s with
    | positive => exact .inr ⟨m, e, hm, rfl⟩
    | negative =>
      rw [hu] at ha
      have hless : 0 < m * 2 ^ (e + 1074).toNat := Nat.mul_pos hm (Nat.two_pow_pos _)
      cases ha
      simp only [Sign.apply] at hpos
      omega

/-- Half of a finite double, and that it can be doubled. -/
theorem units_div_two (hfinite : isFinite h = true) (hh : 0.0 ≤ h) :
    ∃ a c, units? h = some a ∧ units? (h / 2.0) = some c ∧ 0 ≤ c ∧ c ≤ a ∧
      2 * c ≤ max a (2 ^ 54 : ℕ) := by
  have hhalf : units? (h / 2.0) = unitsOf? (Float.Model.pack (UnpackedFloat.div .binary64 h.toModel.unpack
      (.finite .positive (2 ^ 52) (-51) (by decide)))).unpack := by
    rw [← unpack_two]
    rfl
  have hcanonical := canonical_unpack h.toModel
  rcases unpack_of_nonneg hfinite hh with ⟨s, hu⟩ | ⟨m, e, hm, hu⟩
  · have hzero : units? h = some 0 := congrArg unitsOf? hu
    have hzero' : units? (h / 2.0) = some 0 := by
      rw [hhalf, hu]
      exact congrArg unitsOf? (unpack_pack (.zero _))
    exact ⟨0, 0, hzero, hzero', le_refl 0, le_refl 0, by omega⟩
  · rw [hu] at hcanonical hhalf
    obtain ⟨c, hc, hpos, hle, htwice⟩ := units_half hcanonical
    rw [Nat.cast_max] at htwice
    exact ⟨_, c, congrArg unitsOf? hu, hhalf.trans hc, hpos, hle, htwice⟩

theorem half_le (hfinite : isFinite h = true) (hh : 0.0 ≤ h) : 0.0 ≤ h / 2.0 ∧ h / 2.0 ≤ h := by
  obtain ⟨a, c, ha, hc, hpos, hle, -⟩ := units_div_two hfinite hh
  exact ⟨nonneg_iff.mpr ⟨c, hc, hpos⟩, le_iff.mpr ⟨c, a, hc, ha, hle⟩⟩

theorem rounded_two_mul {m k : ℕ} (hm : 0 < m) (hmax : m < 2 ^ 53) :
    rounded (2 * (m * 2 ^ k)) = 2 * (m * 2 ^ k) := by
  have hlog := log2_lt_of_lt hmax
  have hamount : 2 * (m * 2 ^ k) = m * 2 ^ (k + 1) := by
    rw [Nat.pow_succ]
    ring
  rw [hamount]
  refine rounded_of_dvd (Nat.dvd_trans (Nat.pow_dvd_pow 2 ?_) (Nat.dvd_mul_left ..))
  rw [log2_mul_two_pow hm.ne']
  omega

/-- A double is doubled exactly, unless it is too great. -/
theorem units_two_mul (hx : units? x = some a) : units? (2.0 * x) = some (nearest (2 * a)) := by
  have hdouble : units? (2.0 * x) = unitsOf? (Float.Model.pack (UnpackedFloat.mul .binary64
      (.finite .positive (2 ^ 52) (-51) (by decide)) x.toModel.unpack)).unpack := by
    rw [← unpack_two]
    rfl
  have hcanonical := canonical_unpack x.toModel
  have hpos := overflow_pos
  rw [hdouble]
  unfold units? at hx
  cases hu : x.toModel.unpack with
  | notANumber =>
    rw [hu] at hx
    cases hx
  | infinity s =>
    rw [hu] at hx
    cases hx
    have hmul : UnpackedFloat.mul .binary64 (.finite .positive (2 ^ 52) (-51) (by decide)) (.infinity s) =
        .infinity s := by
      cases s <;> rfl
    rw [hmul, unpack_pack (.infinity s)]
    cases s with
    | negative =>
      rw [Sign.apply, nearest_of_le_neg_overflow (by omega)]
      rfl
    | positive =>
      rw [Sign.apply, nearest_of_overflow_le (by omega)]
      rfl
  | zero s =>
    rw [hu] at hx
    cases hx
    rw [Int.mul_zero, nearest_zero]
    exact congrArg unitsOf? (unpack_pack (.zero _))
  | finite s m e hm =>
    rw [hu] at hx hcanonical
    cases hx
    have hmax : m < 2 ^ 53 := by
      cases hcanonical with
      | finite _ _ _ _ hmax _ _ _ => exact hmax
    have htwice : 2 * s.apply (m * 2 ^ (e + 1074).toNat : ℕ) =
        s.apply (2 * (m * 2 ^ (e + 1074).toNat) : ℕ) := by
      cases s <;> simp only [Sign.apply] <;> push_cast <;> ring
    rw [units_double s hcanonical, htwice, nearest_apply, rounded_two_mul hm hmax]

theorem double_nonneg (hh : 0.0 ≤ h) : 0.0 ≤ 2.0 * h := by
  obtain ⟨a, ha, hpos⟩ := nonneg_iff.mp hh
  refine nonneg_iff.mpr ⟨_, units_two_mul ha, ?_⟩
  calc (0 : ℤ) = nearest 0 := nearest_zero.symm
    _ ≤ nearest (2 * a) := nearest_mono (by omega)

theorem units_of_two_mul (hx : units? (2.0 * x) = some b) : ∃ a, units? x = some a := by
  cases ha : units? x with
  | some a => exact ⟨a, rfl⟩
  | none =>
    have hdouble : units? (2.0 * x) = unitsOf? (Float.Model.pack (UnpackedFloat.mul .binary64
        (2.0 : Float).toModel.unpack x.toModel.unpack)).unpack := rfl
    rw [hdouble, unpack_two, eq_notANumber ha] at hx
    cases hx.symm.trans (congrArg unitsOf? (unpack_pack .notANumber))

/-- Where twice something can be taken away, so can the thing itself. -/
theorem sub_le_sub_self_of_double (hx : 0.0 ≤ x - 2.0 * k) : x - k ≤ x - k := by
  obtain ⟨v, hv, -⟩ := nonneg_iff.mp hx
  obtain ⟨a, b, ha, hb, hdefined⟩ := units_of_sub hv
  obtain ⟨c, hc⟩ := units_of_two_mul hb
  cases hb.symm.trans (units_two_mul hc)
  have hdefined' : a = c → a.natAbs < overflow := by
    rintro rfl
    rcases units_lt_or_eq ha with hsmall | hlarge
    · exact hsmall
    · -- What is infinite is twice itself.
      refine hdefined ?_
      have hpos := overflow_pos
      by_cases hsign : 0 ≤ a
      · rw [nearest_of_overflow_le (by omega)]
        omega
      · rw [nearest_of_le_neg_overflow (by omega)]
        omega
  exact le_self_iff.mpr ⟨_, units_sub ha hc hdefined'⟩

end DocTemplate.Number
