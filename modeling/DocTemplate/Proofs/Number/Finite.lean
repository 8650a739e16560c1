import DocTemplate.Proofs.Number.Double

/-!
# Where doubles stay finite

A double between two finite ones is finite, and what an operation makes finite has been finite before. So a
double below another one is finite where something is still finite once it has been taken away.
-/

namespace DocTemplate.Number

open Float.Model Float.Model.UnpackedFloat

variable {x y z h k m : Float} {a b : ℤ}

/-! ## Numbers -/

theorem isNumber_of_isFinite (hx : isFinite x = true) : x ≤ x := by
  obtain ⟨a, ha, -⟩ := isFinite_iff_units.mp hx
  exact le_self_iff.mpr ⟨a, ha⟩

theorem left_of_le (hxy : x ≤ y) : x ≤ x := by
  obtain ⟨a, b, ha, -, -⟩ := le_iff.mp hxy
  exact le_self_iff.mpr ⟨a, ha⟩

theorem right_of_le (hxy : x ≤ y) : y ≤ y := by
  obtain ⟨a, b, -, hb, -⟩ := le_iff.mp hxy
  exact le_self_iff.mpr ⟨b, hb⟩

theorem left_of_lt (hxy : x < y) : x ≤ x := by
  obtain ⟨a, b, ha, -, -⟩ := lt_iff.mp hxy
  exact le_self_iff.mpr ⟨a, ha⟩

/-- What is as great as itself is a number. -/
theorem isNaN_of_le_self (hx : x ≤ x) : isNaN x = false := by
  obtain ⟨a, ha⟩ := le_self_iff.mp hx
  have hself : (x.toModel.unpack.compare x.toModel.unpack == some .eq) = true := by
    rw [compare_eq (canonical_unpack _) (canonical_unpack _) ha ha]
    simp
  have hequal : (x == x) = true := hself
  rw [isNaN, bne, hequal]
  rfl

theorem not_lt_of_le (hxy : x ≤ y) : ¬y < x := by
  intro hlt
  obtain ⟨a, b, ha, hb, hle⟩ := le_iff.mp hxy
  obtain ⟨b', a', hb', ha', hless⟩ := lt_iff.mp hlt
  cases ha.symm.trans ha'
  cases hb.symm.trans hb'
  omega

theorem double_le_of_lt (hxy : x < y) : x ≤ y := by
  obtain ⟨a, b, ha, hb, hless⟩ := lt_iff.mp hxy
  exact le_iff.mpr ⟨a, b, ha, hb, hless.le⟩

theorem lt_of_lt_of_le (hxy : x < y) (hyz : y ≤ z) : x < z := by
  obtain ⟨a, b, ha, hb, hless⟩ := lt_iff.mp hxy
  obtain ⟨b', c, hb', hc, hle⟩ := le_iff.mp hyz
  cases hb.symm.trans hb'
  exact lt_iff.mpr ⟨a, c, ha, hc, by omega⟩

theorem lt_of_le_of_lt (hxy : x ≤ y) (hyz : y < z) : x < z := by
  obtain ⟨a, b, ha, hb, hle⟩ := le_iff.mp hxy
  obtain ⟨b', c, hb', hc, hless⟩ := lt_iff.mp hyz
  cases hb.symm.trans hb'
  exact lt_iff.mpr ⟨a, c, ha, hc, by omega⟩

theorem isFinite_of_between (hxy : x ≤ y) (hyz : y ≤ z) (hx : isFinite x = true) (hz : isFinite z = true) :
    isFinite y = true := by
  obtain ⟨a, b, ha, hb, hab⟩ := le_iff.mp hxy
  obtain ⟨b', c, hb', hc, hbc⟩ := le_iff.mp hyz
  obtain ⟨a', ha', haless⟩ := isFinite_iff_units.mp hx
  obtain ⟨c', hc', hcless⟩ := isFinite_iff_units.mp hz
  cases ha.symm.trans ha'
  cases hb.symm.trans hb'
  cases hc.symm.trans hc'
  exact isFinite_iff_units.mpr ⟨b, hb, by omega⟩

/-! ## Infinity -/

theorem units_infinity : units? infinity = some (4 * overflow : ℕ) := by
  have hbits : infinity.toModel.toBits = 0x7FF0000000000000 := by decide +kernel
  unfold units? Float.Model.unpack
  rw [hbits]
  rfl

theorem le_infinity (hx : x ≤ x) : x ≤ infinity := by
  obtain ⟨a, ha⟩ := le_self_iff.mp hx
  have hsize := units_lt_or_eq ha
  exact le_iff.mpr ⟨a, _, ha, units_infinity, by omega⟩

theorem not_isFinite_of_infinity_le (hx : infinity ≤ x) : isFinite x = false := by
  obtain ⟨a, b, ha, hb, hle⟩ := le_iff.mp hx
  cases units_infinity.symm.trans ha
  have hpos := overflow_pos
  by_contra hfinite
  obtain ⟨c, hc, hless⟩ := isFinite_iff_units.mp (eq_true_of_ne_false hfinite)
  cases hb.symm.trans hc
  omega

/-- A number that is not finite but greater than one that is. -/
theorem infinity_le_of_le (hxy : x ≤ y) (hx : isFinite x = true) (hy : isFinite y = false) :
    infinity ≤ y := by
  obtain ⟨a, b, ha, hb, hab⟩ := le_iff.mp hxy
  obtain ⟨a', ha', hless⟩ := isFinite_iff_units.mp hx
  cases ha.symm.trans ha'
  refine le_iff.mpr ⟨_, b, units_infinity, hb, ?_⟩
  rcases units_lt_or_eq hb with hsmall | hlarge
  · rw [isFinite_iff_units.mpr ⟨b, hb, hsmall⟩] at hy
    cases hy
  · omega

/-! ## Sums and differences -/

theorem isFinite_of_sub_right (hfinite : isFinite (y - k) = true) : isFinite k = true := by
  obtain ⟨c, hc, hless⟩ := isFinite_iff_units.mp hfinite
  obtain ⟨a, b, ha, hb, hdefined⟩ := units_of_sub hc
  have hsub : nearest (a - b) = c := Option.some.inj ((units_sub ha hb hdefined).symm.trans hc)
  obtain ⟨a', ha', haless⟩ := isFinite_iff_units.mp (isFinite_of_sub hfinite)
  cases ha.symm.trans ha'
  refine isFinite_iff_units.mpr ⟨b, hb, ?_⟩
  rcases units_lt_or_eq hb with hsmall | hlarge
  · exact hsmall
  · by_cases hpos : 0 ≤ b
    · rw [nearest_of_le_neg_overflow (by omega)] at hsub
      omega
    · rw [nearest_of_overflow_le (by omega)] at hsub
      omega

/-- Less is left where something is taken from what is not above a finite number, be both infinite. -/
theorem sub_le_self_of_le (hxy : x ≤ y) (hy : isFinite y = true) (hh : 0.0 ≤ h) : x - h ≤ x := by
  obtain ⟨a, b, ha, hb, hab⟩ := le_iff.mp hxy
  obtain ⟨b', hb', hless⟩ := isFinite_iff_units.mp hy
  cases hb.symm.trans hb'
  obtain ⟨c, hc, hpos⟩ := nonneg_iff.mp hh
  have hdefined : a = c → a.natAbs < overflow := by omega
  refine le_iff.mpr ⟨_, a, units_sub ha hc hdefined, ha, ?_⟩
  calc nearest (a - c) ≤ nearest a := nearest_mono (by omega)
    _ = a := nearest_units (canonical_unpack _) ha

theorem units_sub_of_le (hnumber : x - h ≤ x - h) (hx : units? x = some a) (hh : units? h = some b) :
    units? (x - h) = some (nearest (a - b)) := by
  obtain ⟨c, hc⟩ := le_self_iff.mp hnumber
  obtain ⟨a', b', ha', hb', hdefined⟩ := units_of_sub hc
  cases hx.symm.trans ha'
  cases hh.symm.trans hb'
  exact units_sub hx hh hdefined

/-- Taking away the same keeps the order. -/
theorem sub_le_sub_right (hxy : x ≤ y) (hx : x - h ≤ x - h) (hy : y - h ≤ y - h) : x - h ≤ y - h := by
  obtain ⟨a, b, ha, hb, hab⟩ := le_iff.mp hxy
  obtain ⟨c, hc⟩ := le_self_iff.mp hx
  obtain ⟨a', e, ha', he, -⟩ := units_of_sub hc
  exact le_iff.mpr ⟨_, _, units_sub_of_le hx ha he, units_sub_of_le hy hb he, nearest_mono (by omega)⟩

theorem sub_le_sub_of_isFinite (hxy : x ≤ y) (hk : isFinite k = true) : x - k ≤ y - k := by
  obtain ⟨a, b, ha, hb, hab⟩ := le_iff.mp hxy
  obtain ⟨c, hc, hless⟩ := isFinite_iff_units.mp hk
  exact le_iff.mpr ⟨_, _, units_sub ha hc fun h => h ▸ hless, units_sub hb hc fun h => h ▸ hless,
    nearest_mono (by omega)⟩

theorem units_add_of_isFinite (hx : units? x = some a) (hk : units? k = some b)
    (hfinite : isFinite k = true) : units? (x + k) = some (nearest (a + b)) := by
  obtain ⟨b', hb', hless⟩ := isFinite_iff_units.mp hfinite
  cases hk.symm.trans hb'
  exact units_add (canonical_unpack _) (canonical_unpack _) hx hk fun hsum => by omega

theorem add_le_add_right (hxy : x ≤ y) (hk : isFinite k = true) : x + k ≤ y + k := by
  obtain ⟨a, b, ha, hb, hab⟩ := le_iff.mp hxy
  obtain ⟨c, hc, -⟩ := isFinite_iff_units.mp hk
  exact le_iff.mpr ⟨_, _, units_add_of_isFinite ha hc hk, units_add_of_isFinite hb hc hk,
    nearest_mono (by omega)⟩

theorem le_add_right (hx : x ≤ x) (hk : 0.0 ≤ k) (hfinite : isFinite k = true) : x ≤ x + k := by
  obtain ⟨a, ha⟩ := le_self_iff.mp hx
  obtain ⟨b, hb, hpos⟩ := nonneg_iff.mp hk
  refine le_iff.mpr ⟨a, _, ha, units_add_of_isFinite ha hb hfinite, ?_⟩
  calc a = nearest a := (nearest_units (canonical_unpack _) ha).symm
    _ ≤ nearest (a + b) := nearest_mono (by omega)

/-- Nothing finite can be taken from what is infinite. -/
theorem infinity_le_sub (hx : infinity ≤ x) (hk : isFinite k = true) : infinity ≤ x - k := by
  obtain ⟨a, b, ha, hb, hab⟩ := le_iff.mp hx
  cases units_infinity.symm.trans ha
  obtain ⟨c, hc, hless⟩ := isFinite_iff_units.mp hk
  have hpos := overflow_pos
  refine le_iff.mpr ⟨_, _, units_infinity, units_sub hb hc fun h => by omega, ?_⟩
  rw [nearest_of_overflow_le (by omega)]
  exact le_refl _

/-! ## What operations leave finite -/

/-- What does not stay finite does not become so when it is packed. -/
theorem isFinite_unpack_pack {u : UnpackedFloat} (hu : u.isFinite = false) :
    (Float.Model.pack u).unpack.isFinite = false := by
  cases u with
  | notANumber => rw [unpack_pack .notANumber, hu]
  | infinity s => rw [unpack_pack (.infinity s), hu]
  | zero s => cases hu
  | finite s m e hm => cases hu

theorem isFinite_of_add (hfinite : isFinite (x + y) = true) : isFinite x = true ∧ isFinite y = true := by
  have hadd : ∀ u v : UnpackedFloat, u.isFinite = false ∨ v.isFinite = false →
      (UnpackedFloat.add .binary64 u v).isFinite = false := by
    intro u v huv
    cases u with
    | infinity s =>
      cases v with
      | infinity t => cases s <;> cases t <;> rfl
      | _ => rfl
    | notANumber => rfl
    | _ => cases v <;> first | rfl | simp [UnpackedFloat.isFinite] at huv
  rw [isFinite_iff, isFinite_iff]
  rw [isFinite_iff] at hfinite
  by_contra hnot
  rw [not_and_or, Bool.not_eq_true, Bool.not_eq_true] at hnot
  exact Bool.false_ne_true ((isFinite_unpack_pack (hadd _ _ hnot)).symm.trans hfinite)

theorem isFinite_of_mul_right (hfinite : isFinite (x * y) = true) : isFinite y = true := by
  have hmul : ∀ u v : UnpackedFloat, v.isFinite = false →
      (UnpackedFloat.mul .binary64 u v).isFinite = false := by
    intro u v hv
    cases v <;> cases u <;> first | rfl | cases hv
  rw [isFinite_iff] at hfinite ⊢
  by_contra hnot
  exact Bool.false_ne_true
    ((isFinite_unpack_pack (hmul _ _ (eq_false_of_ne_true hnot))).symm.trans hfinite)

theorem isFinite_of_div (hfinite : isFinite (x / y) = true) : isFinite x = true := by
  have hdiv : ∀ u v : UnpackedFloat, u.isFinite = false →
      (UnpackedFloat.div .binary64 u v).isFinite = false := by
    intro u v hu
    cases u <;> cases v <;> first | rfl | cases hu
  rw [isFinite_iff] at hfinite ⊢
  by_contra hnot
  exact Bool.false_ne_true
    ((isFinite_unpack_pack (hdiv _ _ (eq_false_of_ne_true hnot))).symm.trans hfinite)

/-! ## Products and halves -/

/-- The units of a product of two positive doubles. -/
theorem units_product {m n : ℕ} {e f : ℤ} {hm : 0 < m} {hn : 0 < n} (h : Canonical (.finite .positive m e hm))
    (h' : Canonical (.finite .positive n f hn)) :
    ∃ c : ℕ, unitsOf? (Float.Model.pack (UnpackedFloat.mul .binary64 (.finite .positive m e hm)
      (.finite .positive n f hn))).unpack = some (c : ℤ) := by
  have hfull : 2 ^ 52 ≤ m * n ∨ e + f ≤ -2148 := by
    cases h with
    | finite _ _ _ _ hmax hleast hgreatest hfull =>
    cases h' with
    | finite _ _ _ _ hmax' hleast' hgreatest' hfull' =>
    rcases hfull with hfull | rfl
    · exact .inl (Nat.le_trans hfull (Nat.le_mul_of_pos_right m hn))
    · rcases hfull' with hfull' | rfl
      · exact .inl (Nat.le_trans hfull' (Nat.le_mul_of_pos_left n hm))
      · exact .inr (by decide)
  have hproduct : 0 < m * n := Nat.mul_pos hm hn
  obtain ⟨r, hlower, hupper, hr⟩ := roundWithAccuracy_cases .positive (m * n) (e + f) .exact rfl
  generalize hk : (max (((m * n).log2 : ℤ) + (e + f) - 52) (-1074) - (e + f)).toNat = k at hlower hupper hr
  have hmul : UnpackedFloat.mul .binary64 (.finite .positive m e hm) (.finite .positive n f hn) =
      settled .positive r (e + f + k) := hr
  have hless : m * n < 2 ^ (k + 53) :=
    Nat.lt_of_lt_of_le Nat.lt_log2_self (Nat.pow_le_pow_right (by decide) (by omega))
  have hmax : m * n / 2 ^ k < 2 ^ 53 := by
    rw [Nat.div_lt_iff_lt_mul (Nat.two_pow_pos k), ← Nat.pow_add, Nat.add_comm]
    exact hless
  rw [hmul, units_settled .positive (by omega) (by omega) ?_]
  · exact ⟨_, rfl⟩
  · by_cases hexponent : e + f + k = -1074
    · exact .inr hexponent
    · -- Digits are shifted out until the mantissa is full.
      have hlog : 52 ≤ (m * n).log2 := by
        by_contra hsmall
        have hsmall' : m * n < 2 ^ 52 := (Nat.log2_lt hproduct.ne').mp (by omega)
        omega
      have hpow : 2 ^ k * 2 ^ 52 ≤ m * n := by
        rw [← Nat.pow_add]
        exact (Nat.le_log2 hproduct.ne').mp (by omega)
      exact .inl (Nat.le_trans ((Nat.le_div_iff_mul_le (Nat.two_pow_pos k)).mpr (by omega)) hlower)

theorem mul_nonneg (hx : 0.0 ≤ x) (hy : 0.0 < y) (hfinite : isFinite y = true) : 0.0 ≤ x * y := by
  have hunits : units? (x * y) = unitsOf? (Float.Model.pack (UnpackedFloat.mul .binary64 x.toModel.unpack
      y.toModel.unpack)).unpack := rfl
  obtain ⟨n, f, hn, hv⟩ : ∃ n f hn, y.toModel.unpack = .finite .positive n f hn := by
    obtain ⟨a, b, ha, hb, hlt⟩ := lt_iff.mp hy
    cases units_zero.symm.trans ha
    refine (unpack_of_nonneg hfinite (nonneg_iff.mpr ⟨b, hb, hlt.le⟩)).resolve_left ?_
    rintro ⟨s, hzero⟩
    have hzero' : units? y = some 0 := congrArg unitsOf? hzero
    cases hb.symm.trans hzero'
    omega
  have hcanonical := canonical_unpack y.toModel
  rw [hv] at hunits hcanonical
  obtain ⟨a, ha, hpos⟩ := nonneg_iff.mp hx
  by_cases hxfinite : isFinite x = true
  · rcases unpack_of_nonneg hxfinite hx with ⟨s, hu⟩ | ⟨m, e, hm, hu⟩
    · rw [hu] at hunits
      exact nonneg_iff.mpr ⟨0, hunits.trans (congrArg unitsOf? (unpack_pack (.zero _))), le_refl 0⟩
    · have hcanonical' := canonical_unpack x.toModel
      rw [hu] at hunits hcanonical'
      obtain ⟨c, hc⟩ := units_product hcanonical' hcanonical
      exact nonneg_iff.mpr ⟨c, hunits.trans hc, Int.natCast_nonneg c⟩
  · rcases finite_or_infinity (canonical_unpack _) ha with ⟨hfinite', -⟩ | ⟨s, hu, hs⟩
    · exact absurd (isFinite_iff.mpr hfinite') hxfinite
    · rw [hu] at hunits
      have hpositive : s = .positive := by
        have hoverflow := overflow_pos
        cases s with
        | positive => rfl
        | negative =>
          simp only [Sign.apply] at hs
          omega
      subst hpositive
      refine nonneg_iff.mpr ⟨a, hunits.trans ?_, hpos⟩
      rw [hs]
      exact congrArg unitsOf? (unpack_pack (.infinity .positive))

theorem nearest_two_pow : nearest (2 ^ 54 : ℕ) = (2 ^ 54 : ℕ) := by
  rw [nearest_natCast, rounded_of_dvd (by decide), saturated_of_lt]
  exact lt_overflow (show 1 < 2 ^ 53 by decide) (show 54 ≤ 2045 by decide)

/-- What half of something can be taken from: where there is room for twice the bound below it. -/
theorem isFinite_sub_half (hm : isFinite (2.0 * m) = true) (hmy : m ≤ y) (hy : isFinite y = true)
    (hz : 0.0 ≤ z) (hhalf : isFinite (z / 2.0) = true) : isFinite (y - z / 2.0) = true := by
  obtain ⟨a, b, ha, hb, hab⟩ := le_iff.mp hmy
  obtain ⟨b', hb', hbless⟩ := isFinite_iff_units.mp hy
  cases hb.symm.trans hb'
  obtain ⟨a', ha', haless⟩ := isFinite_iff_units.mp hm
  cases (units_two_mul ha).symm.trans ha'
  obtain ⟨e, c, he, hc, hpos, hce, htwice⟩ := units_div_two (isFinite_of_div hhalf) hz
  obtain ⟨e', he', heless⟩ := isFinite_iff_units.mp (isFinite_of_div hhalf)
  cases he.symm.trans he'
  obtain ⟨c', hc', hcless⟩ := isFinite_iff_units.mp hhalf
  cases hc.symm.trans hc'
  refine isFinite_iff_units.mpr ⟨_, units_sub hb hc fun _ => hbless, ?_⟩
  have hupper : nearest (b - c) ≤ b :=
    (nearest_mono (by omega)).trans (nearest_units (canonical_unpack _) hb).le
  have hlower : -(overflow : ℤ) < nearest (b - c) := by
    by_cases hca : c ≤ -a
    · have hle : nearest (2 * a) ≤ nearest (b - c) := nearest_mono (by omega)
      omega
    · have hle : nearest (-(max e (2 ^ 54 : ℕ))) ≤ nearest (b - c) := nearest_mono (by omega)
      have hsmall : (2 ^ 54 : ℕ) < overflow :=
        lt_overflow (show 1 < 2 ^ 53 by decide) (show 54 ≤ 2045 by decide)
      have hself : nearest (max e (2 ^ 54 : ℕ)) = max e (2 ^ 54 : ℕ) := by
        rcases max_choice e (2 ^ 54 : ℕ) with h | h
        · rw [h, nearest_units (canonical_unpack _) he]
        · rw [h, nearest_two_pow]
      rw [nearest_neg, hself] at hle
      omega
  omega

end DocTemplate.Number
