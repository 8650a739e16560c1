import DocTemplate.Proofs.Format.Currency

/-!
# Amounts as money and as numbers

An amount of money is rounded twice: to the working precision, and then to cents. A number is rounded to cents at
once. The two differ by a cent just where the first rounding takes an amount up to a half cent from below, and
nowhere else. Main statement: `money_agrees_with_number`.
-/

namespace DocTemplate

open DocTemplate.Number DocTemplate.Text

variable {settings : FormatSettings} {v : Value} {n : Numeral} {x y : ℚ}

/-! ## Half cents -/

/-- The middle between a count of cents and one cent more. -/
def halfCent (k : ℕ) : ℚ := (2 * k + 1) / 200

/-- A half cent is reached when a size is rounded to the working precision: it lies less than half a unit of the
last digit above it, or exactly half a unit where the digit before the half is odd. -/
def Reaches (x : ℚ) (k : ℕ) : Prop :=
  halfCent k - |x| < lastUnit x / 2 ∨ halfCent k - |x| = lastUnit x / 2 ∧ |x| < 10 ^ 24

/-- Some half cent is above an amount and is yet reached by it. -/
def JustBelowHalfCent (x : ℚ) : Prop := ∃ k, |x| < halfCent k ∧ Reaches x k

theorem halfCent_succ (k : ℕ) : halfCent (k + 1) = halfCent k + 1 / 100 := by
  unfold halfCent
  push_cast
  ring

theorem halfCent_mono {i k : ℕ} (h : i ≤ k) : halfCent i ≤ halfCent k := by
  have h' : (i : ℚ) ≤ k := Nat.cast_le.mpr h
  unfold halfCent
  linarith

theorem abs_reaches (k : ℕ) : Reaches |x| k ↔ Reaches x k := by
  unfold Reaches
  rw [abs_abs, lastUnit_abs]

theorem abs_justBelowHalfCent : JustBelowHalfCent |x| ↔ JustBelowHalfCent x := by
  unfold JustBelowHalfCent
  simp only [abs_reaches, abs_abs]

/-- A size is rounded to more than a count of cents from the half cent after it on. -/
theorem lt_roundAway_iff (hx : 0 ≤ x) (k : ℕ) : (k : ℤ) < roundAway (x * 10 ^ 2) ↔ halfCent k ≤ x := by
  rw [roundAway_of_nonneg (by positivity), ← Int.add_one_le_iff, Int.le_floor]
  unfold halfCent
  push_cast
  constructor <;> intro h <;> linarith

/-- Half cents are multiples of the unit of the last digit, and even ones below `10 ^ 24`. -/
theorem exists_halfCent_eq (hx : 0 ≤ x) (hless : x < 10 ^ 25) (k : ℕ) :
    ∃ m : ℕ, halfCent k = m * lastUnit x ∧ (Even m ↔ x < 10 ^ 24) := by
  have hlog : ∀ e : ℕ, 0 < e → (Int.log 10 x < e ↔ x < 10 ^ e) := by
    intro e he
    rcases hx.eq_or_lt with rfl | hpos
    · rw [Int.log_zero_right]
      exact iff_of_true (by omega) (by positivity)
    · rw [← zpow_natCast]
      exact (Int.lt_zpow_iff_log_lt (by decide) hpos).symm
  have hmost : Int.log 10 x < (25 : ℕ) := (hlog 25 (by decide)).mpr hless
  obtain ⟨j, hj⟩ := Int.eq_ofNat_of_zero_le (by omega : 0 ≤ 24 - Int.log 10 x)
  have hunit : (10 : ℚ) ^ (-3 : ℤ) = 10 ^ j * lastUnit x := by
    rw [lastUnit, abs_of_nonneg hx, ← zpow_natCast, ← zpow_add₀ (by norm_num)]
    congr 1
    unfold workingPrecision
    omega
  refine ⟨(2 * k + 1) * 5 * 10 ^ j, ?_, ?_⟩
  · calc halfCent k = (2 * k + 1) * 5 * 10 ^ (-3 : ℤ) := by
          unfold halfCent
          norm_num
          ring
      _ = ((2 * k + 1) * 5 * 10 ^ j : ℕ) * lastUnit x := by
          rw [hunit]
          push_cast
          ring
  · have heven : Even ((2 * k + 1) * 5 * 10 ^ j) ↔ j ≠ 0 := by
      simp [Nat.even_mul, Nat.even_pow, Nat.even_add_one, parity_simps]
    rw [heven, ← hlog 24 (by decide)]
    omega

/-! ## Rounding to the precision first -/

theorem halfCent_le_kept_iff (hless : n.size < 10 ^ 25) (k : ℕ) :
    halfCent k ≤ (roundedNumeral n).size ↔ Reaches n.size k := by
  obtain ⟨m, hm, heven⟩ := exists_halfCent_eq (size_nonneg n) hless k
  obtain ⟨i, hi, hnear⟩ := roundedNumeral_nearest n
  have hunit := lastUnit_pos n.size
  have hdistance : halfCent k - n.size = (m - n.size / lastUnit n.size) * lastUnit n.size := by
    rw [hm, sub_mul, div_mul_cancel₀ _ hunit.ne']
  have hhalf : lastUnit n.size / 2 = 1 / 2 * lastUnit n.size := by ring
  rw [hi, hm, mul_le_mul_iff_left₀ hunit, Nat.cast_le, hnear.le_iff, heven, Reaches,
    abs_of_nonneg (size_nonneg n), hdistance, hhalf, mul_lt_mul_iff_left₀ hunit, mul_left_inj' hunit.ne']

theorem lastUnit_le (hx : 0 ≤ x) (hless : x < 10 ^ 25) : lastUnit x ≤ 1 / 200 := by
  obtain ⟨m, hm, -⟩ := exists_halfCent_eq hx hless 0
  have hfirst : halfCent 0 = 1 / 200 := by norm_num [halfCent]
  have hne : m ≠ 0 := by
    rintro rfl
    norm_num [hfirst] at hm
  have hone : (1 : ℚ) ≤ m := Nat.one_le_cast.mpr (Nat.pos_of_ne_zero hne)
  rw [← hfirst, hm]
  exact le_mul_of_one_le_left (lastUnit_pos x).le hone

/-- The working precision takes a size up by one cent if it is just below a half cent, and else by none. -/
theorem roundAway_kept (hless : n.size < 10 ^ 25) :
    (JustBelowHalfCent n.size →
      roundAway ((roundedNumeral n).size * 10 ^ 2) = roundAway (n.size * 10 ^ 2) + 1) ∧
      (¬JustBelowHalfCent n.size →
        roundAway ((roundedNumeral n).size * 10 ^ 2) = roundAway (n.size * 10 ^ 2)) := by
  have hsize := size_nonneg n
  have hunit := lastUnit_pos n.size
  have hsmall := lastUnit_le hsize hless
  have hcents := lt_roundAway_iff hsize
  have hkept := fun k => (lt_roundAway_iff (size_nonneg (roundedNumeral n)) k).trans (halfCent_le_kept_iff hless k)
  have hnonneg : ∀ {x : ℚ}, 0 ≤ x → 0 ≤ roundAway (x * 10 ^ 2) := by
    intro x hx
    rw [roundAway_of_nonneg (by positivity), Int.floor_nonneg]
    positivity
  obtain ⟨a, ha⟩ := Int.eq_ofNat_of_zero_le (hnonneg hsize)
  obtain ⟨b, hb⟩ := Int.eq_ofNat_of_zero_le (hnonneg (size_nonneg (roundedNumeral n)))
  unfold JustBelowHalfCent
  unfold Reaches at hkept ⊢
  simp only [ha, hb, Nat.cast_lt, abs_of_nonneg hsize] at hcents hkept ⊢
  -- The half cent after the count of cents is the only one that may be reached from below.
  have habove : n.size < halfCent a := not_le.mp (mt (hcents a).mpr (lt_irrefl a))
  have hleast : a ≤ b := by
    by_contra hnot
    have hbelow := (hcents b).mp (not_le.mp hnot)
    exact lt_irrefl b ((hkept b).mpr (.inl (by linarith)))
  have hmost : b ≤ a + 1 := by
    by_contra hnot
    have hreached := (hkept (a + 1)).mp (not_le.mp hnot)
    rw [halfCent_succ] at hreached
    rcases hreached with hnear | ⟨htie, -⟩ <;> linarith
  constructor
  · rintro ⟨k, hk, hreached⟩
    have hwithin : a ≤ k := by
      by_contra hnot
      exact absurd ((hcents k).mp (not_le.mp hnot)) (not_le.mpr hk)
    have hless := (hkept k).mpr hreached
    omega
  · intro hnone
    have hnot : ¬a < b := fun hmore => hnone ⟨a, habove, (hkept a).mp hmore⟩
    omega

theorem size_roundedNumeral_lt (hless : n.size < 10 ^ 25) : (roundedNumeral n).size < n.size + 1 := by
  obtain ⟨k, hk, hnear⟩ := roundedNumeral_nearest n
  have hunit := lastUnit_pos n.size
  have hsmall := lastUnit_le (size_nonneg n) hless
  have hmost : (k : ℚ) ≤ n.size / lastUnit n.size + 1 / 2 := by linarith [(abs_le.mp hnear.abs_sub_le).1]
  calc (roundedNumeral n).size = k * lastUnit n.size := hk
    _ ≤ (n.size / lastUnit n.size + 1 / 2) * lastUnit n.size := mul_le_mul_of_nonneg_right hmost hunit.le
    _ = n.size + lastUnit n.size / 2 := by rw [add_mul, div_mul_cancel₀ _ hunit.ne']; ring
    _ < n.size + 1 := by linarith

/-! ## With a sign -/

theorem roundedTo_neg (places : ℕ) (x : ℚ) : roundedTo places (-x) = -roundedTo places x := by
  rw [roundedTo, neg_mul, roundAway_neg, Int.cast_neg, neg_div]
  rfl

theorem JustBelowHalfCent.ne_zero (h : JustBelowHalfCent x) : x ≠ 0 := by
  rintro rfl
  obtain ⟨k, -, hreached⟩ := h
  have hunit : lastUnit 0 < 1 / 100 := (lastUnit_le le_rfl (by positivity)).trans_lt (by norm_num)
  have hfirst : 1 / 200 ≤ halfCent k := by
    have hmono := halfCent_mono (Nat.zero_le k)
    norm_num [halfCent] at hmono ⊢
    exact hmono
  rw [Reaches, abs_zero, sub_zero] at hreached
  rcases hreached with hnear | ⟨htie, -⟩ <;> linarith

theorem abs_kept_lt (hless : n.size < 10 ^ 25) : |n.kept| < n.size + 1 := by
  have hnonneg := size_nonneg (roundedNumeral ⟨false, n.coefficient, n.exponent⟩)
  have hmost := size_roundedNumeral_lt (n := ⟨false, n.coefficient, n.exponent⟩) hless
  unfold Numeral.kept
  simp only
  split
  · rw [abs_neg, abs_of_nonneg hnonneg]
    exact hmost
  · rw [abs_of_nonneg hnonneg]
    exact hmost

/-- What is kept of an amount is rounded to the same number of cents, or, just below a half cent, to one more. -/
theorem roundedTo_kept (hless : n.size < 10 ^ 25) :
    (JustBelowHalfCent n.value → roundedTo 2 n.kept =
      if n.value < 0 then roundedTo 2 n.value - 1 / 100 else roundedTo 2 n.value + 1 / 100) ∧
      (¬JustBelowHalfCent n.value → roundedTo 2 n.kept = roundedTo 2 n.value) := by
  obtain ⟨y, hy⟩ : ∃ y, y = (roundedNumeral ⟨false, n.coefficient, n.exponent⟩).size := ⟨_, rfl⟩
  have hkept : n.kept = if n.negative then -y else y := by rw [hy]; rfl
  have hvalue : n.value = if n.negative then -n.size else n.size := rfl
  obtain ⟨hup, hsame⟩ := roundAway_kept (n := ⟨false, n.coefficient, n.exponent⟩) hless
  rw [← hy] at hup hsame
  change (JustBelowHalfCent n.size → roundAway (y * 10 ^ 2) = roundAway (n.size * 10 ^ 2) + 1) at hup
  change (¬JustBelowHalfCent n.size → roundAway (y * 10 ^ 2) = roundAway (n.size * 10 ^ 2)) at hsame
  rw [← abs_justBelowHalfCent, n.abs_value]
  constructor
  · intro hbelow
    have hmore : roundedTo 2 y = roundedTo 2 n.size + 1 / 100 := by
      rw [roundedTo, hup hbelow, roundedTo]
      push_cast
      ring
    have hpos : 0 < n.size := (size_nonneg n).lt_of_ne' hbelow.ne_zero
    rw [hkept, hvalue]
    split
    · rw [if_pos (by linarith), roundedTo_neg, roundedTo_neg, hmore]
      ring
    · rw [if_neg (by linarith), hmore]
  · intro hnot
    have hequal : roundedTo 2 y = roundedTo 2 n.size := by rw [roundedTo, hsame hnot, roundedTo]
    rw [hkept, hvalue]
    split
    · rw [roundedTo_neg, roundedTo_neg, hequal]
    · exact hequal

/-! ## The two texts -/

/-- A number is rounded at once, and written without the zeros at the end of its decimals. -/
theorem numberText_eq_ok {places : ℕ} (hamount : amountOf v = .ok n) (hplaces : settings.fractionDigits = places)
    (hdigits : digitCount (roundAway (n.value * 10 ^ places)).natAbs ≤ workingPrecision) :
    ∃ q : Spelling, numberText settings v = .ok (String.ofList q.text) ∧ q.WellFormed ∧
      q.fraction.length ≤ places ∧ q.groups.flatten.length ≤ workingPrecision ∧
      q.value = roundedTo places n.value := by
  obtain ⟨c, hc⟩ : ∃ c, c = onPlaces n.coefficient n.exponent places := ⟨_, rfl⟩
  rw [natAbs_roundAway_value, ← hc] at hdigits
  have hrounded : roundedOrSame n places = ⟨n.negative, c, -places⟩ := by
    rw [roundedOrSame, roundToPlaces?_eq (hc ▸ hdigits), ← hc]
    rfl
  obtain ⟨p, htext, hwell, hlength, hwhole, hvalue, -⟩ := Spelling.exists_eq_groupedText n.negative c places
  refine ⟨p.short, ?_, hwell.short, ?_, ?_, ?_⟩
  · rw [numberText, hamount, hplaces]
    simp only [hrounded, htext, hwell.dropFractionZeros_text, bind, Except.bind]
  · rw [← hlength]
    exact (List.rdropWhile_prefix _ _).length_le
  · calc p.groups.flatten.length = digitCount (c / 10 ^ places) := congrArg List.length hwhole
      _ ≤ digitCount c := digitCount_mono (Nat.div_le_self ..)
      _ ≤ workingPrecision := hdigits
  · rw [p.value_short, hvalue, roundedTo_value, hc]

/-- An amount is written as money and as a number with the same number of cents, rounded once, unless it is just
below a half cent: then the money shows one cent more. -/
theorem money_agrees_with_number (settings : FormatSettings) {v : Value} {x : ℚ} (hv : v.ReadsAs x)
    (hplaces : settings.fractionDigits = 2) (hsize : |x| < 10 ^ 25) :
    ∃ p q : Spelling,
      currencyText settings v = .ok (p.withSymbol settings.currencySymbol) ∧ p.IsAmount p.value ∧
      numberText settings v = .ok (String.ofList q.text) ∧ q.WellFormed ∧ q.value = roundedTo 2 x ∧
      (Value.text (String.ofList (p.text.filter (· != ',')))).ReadsAs p.value ∧
      (Value.text (String.ofList (q.text.filter (· != ',')))).ReadsAs q.value ∧
      (¬JustBelowHalfCent x → p.value = q.value) ∧
      (JustBelowHalfCent x → p.value = if x < 0 then q.value - 1 / 100 else q.value + 1 / 100) := by
  have hwritable : |x| < 10 ^ digitLimit := hsize.trans_le (pow_le_pow_right₀ (by norm_num) (by decide))
  obtain ⟨n, hamount, rfl⟩ := amountOf_of_readsAs hv hwritable
  rw [n.abs_value] at hsize
  have hscaled : ∀ {y : ℚ}, |y| < n.size + 1 →
      digitCount (roundAway (y * 10 ^ 2)).natAbs ≤ workingPrecision := by
    intro y hy
    refine digitCount_roundAway_le ?_
    rw [abs_mul, abs_of_pos (by norm_num : (0 : ℚ) < 10 ^ 2)]
    norm_num [workingPrecision] at hsize ⊢
    linarith
  have hless : n.size < leastRefused := (hsize.trans (pow_lt_leastRefused (by decide)))
  obtain ⟨p, hmoney, hform, hpwhole⟩ := currencyText_eq_ok settings hamount hless (hscaled (abs_kept_lt hsize))
  obtain ⟨q, hnumber, hwell, hqlength, hqwhole, hvalue⟩ :=
    numberText_eq_ok hamount hplaces (hscaled (n.abs_value.trans_lt (lt_add_one _)))
  have hread : ∀ {r : Spelling}, r.WellFormed → r.groups.flatten.length ≤ workingPrecision →
      r.fraction.length ≤ 2 → (Value.text (String.ofList (r.text.filter (· != ',')))).ReadsAs r.value := by
    intro r hr hwhole hfraction
    refine hr.readsAs ?_
    rw [Spelling.digits, List.length_append]
    unfold workingPrecision at hwhole
    omega
  obtain ⟨hup, hsame⟩ := roundedTo_kept hsize
  have hpvalue := hform.value
  refine ⟨p, q, hmoney, hpvalue ▸ hform, hnumber, hwell, hvalue,
    hread hform.toWellFormed hpwhole hform.decimals.le, hread hwell hqwhole hqlength, fun hnot => ?_,
    fun hbelow => ?_⟩
  · rw [hpvalue, hvalue, hsame hnot]
  · rw [hpvalue, hvalue, hup hbelow]

theorem amount_below_half_cent_differs :
    (currencyText .standard (.text "-1.00499999999999999999999999999999") = .ok "-€1.01" ∧
      numberText .standard (.text "-1.00499999999999999999999999999999") = .ok "-1") ∧
      ∃ p q : Spelling,
        currencyText .standard (.text "-1.00499999999999999999999999999999") = .ok (p.withSymbol "€") ∧
        numberText .standard (.text "-1.00499999999999999999999999999999") = .ok (String.ofList q.text) ∧
        q.value = roundedTo 2 (-1.00499999999999999999999999999999) ∧ p.value = q.value - 1 / 100 := by
  have hread : (Value.text "-1.00499999999999999999999999999999").ReadsAs
      (Numeral.value ⟨true, 100499999999999999999999999999999, -32⟩) := .text (by decide +kernel)
  have hvalue : Numeral.value ⟨true, 100499999999999999999999999999999, -32⟩ =
      -1.00499999999999999999999999999999 := by norm_num [Numeral.value, Numeral.size]
  rw [hvalue] at hread
  have hlog : Int.log 10 (1.00499999999999999999999999999999 : ℚ) = 0 := by
    have hfloor : ⌊(1.00499999999999999999999999999999 : ℚ)⌋₊ = 1 :=
      (Nat.floor_eq_iff (by norm_num)).mpr ⟨by norm_num, by norm_num⟩
    rw [Int.log_of_one_le_right 10 (by norm_num), hfloor, Nat.log_one_right, Nat.cast_zero]
  have hbelow : JustBelowHalfCent (-1.00499999999999999999999999999999) := by
    refine ⟨100, ?_, .inl ?_⟩
    · norm_num [halfCent, abs_of_neg]
    · rw [lastUnit, abs_neg, abs_of_pos (by norm_num : (0 : ℚ) < 1.00499999999999999999999999999999), hlog]
      norm_num [halfCent, workingPrecision, zpow_neg]
  obtain ⟨p, q, hmoney, -, hnumber, -, hq, -, -, -, hdiffer⟩ :=
    money_agrees_with_number .standard hread rfl (by norm_num [abs_of_neg])
  have hless := hdiffer hbelow
  rw [if_pos (by norm_num)] at hless
  exact ⟨⟨by decide +kernel, by decide +kernel⟩, p, q, hmoney, hnumber, hq, hless⟩

/-- An amount less than half a cent by less than the working precision shows is written as a cent. -/
theorem less_than_half_cent_is_written_as_cent :
    (Value.text "0.00499999999999999999999999999999999").ReadsAs 0.00499999999999999999999999999999999 ∧
      |(0.00499999999999999999999999999999999 : ℚ)| < 10 ^ 25 ∧ FormatSettings.standard.fractionDigits = 2 ∧
      currencyText .standard (.text "0.00499999999999999999999999999999999") = .ok ("€" ++ "0.01") ∧
      (Value.text "0.01").ReadsAs 0.01 ∧
      numberText .standard (.text "0.00499999999999999999999999999999999") = .ok "0" ∧
      (Value.text "0").ReadsAs 0 ∧ roundedTo 2 0.00499999999999999999999999999999999 = 0 := by
  have hread : ∀ {s : String} {n : Numeral} {x : ℚ}, readDecimal? s.toList = some (.finite n) → n.value = x →
      (Value.text s).ReadsAs x := by
    rintro s n _ h rfl
    exact .text h
  have hamount : (0.00499999999999999999999999999999999 : ℚ) * 10 ^ 2 < 1 / 2 := by norm_num
  refine ⟨hread (n := ⟨false, 499999999999999999999999999999999, -35⟩) (by decide +kernel) ?_, by norm_num, rfl,
    by decide +kernel, hread (n := ⟨false, 1, -2⟩) (by decide +kernel) ?_, by decide +kernel,
    hread (n := ⟨false, 0, 0⟩) (by decide +kernel) ?_, ?_⟩
  · norm_num [Numeral.value, Numeral.size]
  · norm_num [Numeral.value, Numeral.size]
  · norm_num [Numeral.value, Numeral.size]
  · rw [roundedTo, roundAway_of_nonneg (by norm_num), Int.floor_eq_zero_iff.mpr ⟨by norm_num, by linarith⟩]
    norm_num

end DocTemplate
