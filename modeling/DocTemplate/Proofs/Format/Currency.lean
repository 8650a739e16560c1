import DocTemplate.Format.Basic
import DocTemplate.Proofs.Format.Significant
import DocTemplate.Proofs.Format.Spelling

/-!
# Amounts as they are written

An amount of money is written with its symbol and two decimals, and with a sign just if it is not rounded to zero.
What is no number is written as nothing. Main statement: `amount_is_written_exactly`.
-/

namespace DocTemplate

open DocTemplate.Number DocTemplate.Text

/-! ## Sign and symbol -/

namespace Spelling

variable {p : Spelling} {x : ℚ}

/-- A written number without its sign. -/
def unsigned (p : Spelling) : Spelling := { p with negative := false }

/-- A written number with a symbol between its sign and its digits. -/
def withSymbol (symbol : String) (p : Spelling) : String :=
  (if p.negative then "-" else "") ++ symbol ++ String.ofList p.unsigned.text

/-- The form of an amount of money: two decimals, and a sign just if it is less than zero. -/
structure IsAmount (p : Spelling) (x : ℚ) : Prop extends p.WellFormed where
  decimals : p.fraction.length = 2
  sign : p.negative = true ↔ x < 0
  size : p.unsigned.value = |x|

theorem text_eq_unsigned (p : Spelling) :
    p.text = (if p.negative then ['-'] else []) ++ p.unsigned.text := by
  simp only [text, unsigned, Bool.false_eq_true, if_false, List.nil_append, List.append_assoc]

theorem value_eq_unsigned (p : Spelling) :
    p.value = if p.negative then -p.unsigned.value else p.unsigned.value := rfl

theorem value_unsigned (p : Spelling) : p.unsigned.value = |p.value| := by
  have hnonneg : 0 ≤ p.unsigned.value := by
    change (0 : ℚ) ≤ runValue p.digits / 10 ^ p.fraction.length
    positivity
  rw [value_eq_unsigned p]
  split
  · rw [abs_neg, abs_of_nonneg hnonneg]
  · rw [abs_of_nonneg hnonneg]

theorem IsAmount.value (h : p.IsAmount x) : p.value = x := by
  rw [value_eq_unsigned, h.size]
  split
  · next hneg => rw [abs_of_neg (h.sign.mp hneg), neg_neg]
  · next hpos => exact abs_of_nonneg (not_lt.mp (mt h.sign.mpr hpos))

theorem mem_unsigned_text {c : Char} (h : c ∈ p.unsigned.text) : c = ',' ∨ c = '.' ∨ c ∈ p.digits := by
  rcases List.mem_append.mp h with hwhole | hpoint
  · exact (mem_join hwhole).imp_right fun hflatten => .inr (List.mem_append_left _ hflatten)
  · change c ∈ behindPoint p.fraction at hpoint
    unfold behindPoint at hpoint
    split at hpoint
    · cases hpoint
    · exact .inr ((List.mem_cons.mp hpoint).imp_right (List.mem_append_right _))

theorem WellFormed.mem_unsigned_text_of_mem_digits (h : p.WellFormed) {c : Char} (hc : c ∈ p.digits) :
    c ∈ p.unsigned.text := by
  have hfilter : p.unsigned.text.filter (· != ',') = p.groups.flatten ++ behindPoint p.fraction :=
    WellFormed.filter_text (p := p.unsigned) ⟨h.digit, h.threes, h.leading⟩
  refine List.mem_of_mem_filter (p := (· != ',')) (hfilter ▸ ?_)
  rcases List.mem_append.mp hc with hwhole | hfraction
  · exact List.mem_append_left _ hwhole
  · refine List.mem_append_right _ ?_
    unfold behindPoint
    rw [if_neg (by simpa using List.ne_nil_of_mem hfraction)]
    exact List.mem_cons_of_mem _ hfraction

/-- What is written shows a digit other than zero just if it is not zero. -/
theorem WellFormed.all_zero_iff (h : p.WellFormed) :
    (p.unsigned.text.all fun c => c == '0' || c == '.' || c == ',') = true ↔ p.value = 0 := by
  have hpow : (10 : ℚ) ^ p.fraction.length ≠ 0 := by positivity
  have hzero : p.value = 0 ↔ runValue p.digits = 0 := by
    rw [← abs_eq_zero, ← value_unsigned]
    change (runValue p.digits / 10 ^ p.fraction.length : ℚ) = 0 ↔ _
    rw [div_eq_zero_iff, or_iff_left hpow, Nat.cast_eq_zero]
  rw [hzero, List.all_eq_true]
  simp only [Bool.or_eq_true, beq_iff_eq]
  constructor
  · intro hall
    have hdigits : p.digits = zeros p.digits.length := by
      refine List.eq_replicate_iff.mpr ⟨rfl, fun c hc => ?_⟩
      rcases hall c (h.mem_unsigned_text_of_mem_digits hc) with (hdigit | rfl) | rfl
      · exact hdigit
      · exact absurd hc (h.notMem (by decide))
      · exact absurd hc (h.notMem (by decide))
    rw [hdigits, runValue_zeros]
  · intro hrun c hc
    rcases mem_unsigned_text hc with hcomma | hpoint | hdigit
    · exact .inr hcomma
    · exact .inl (.inr hpoint)
    · exact .inl (.inl (eq_zero_of_runValue_eq_zero h.digit hrun c hdigit))

/-- A number with two decimals in the form of an amount. -/
theorem exists_isAmount (negative : Bool) (c : ℕ) :
    ∃ p : Spelling, p.IsAmount (Numeral.value ⟨negative, c, -2⟩) ∧
      groupedText ⟨false, c, -2⟩ = p.unsigned.text ∧ p.groups.flatten = decimalDigits (c / 10 ^ 2) := by
  obtain ⟨p, htext, hwell, hlength, hflatten, hvalue, hsign⟩ := exists_eq_groupedText negative c 2
  have hnegative : p.negative = (negative && c != 0) := by
    rw [Bool.eq_iff_iff, hsign, hvalue, Numeral.value_neg_iff, Bool.and_eq_true, bne_iff_ne]
  refine ⟨p, ⟨hwell, hlength, hvalue ▸ hsign, hvalue ▸ p.value_unsigned⟩, ?_, hflatten⟩
  have hsigned : groupedText ⟨negative, c, -2⟩ =
      (if p.negative then ['-'] else []) ++ groupedText ⟨false, c, -2⟩ := by
    rw [hnegative]
    unfold groupedText
    split <;> rfl
  have hboth := htext.symm.trans hsigned
  rw [text_eq_unsigned] at hboth
  exact (List.append_cancel_left hboth).symm

end Spelling

/-! ## Amounts -/

variable {settings : FormatSettings} {v : Value} {n : Numeral} {x : ℚ}

theorem Number.Numeral.value_zero (negative : Bool) (e : ℤ) : Numeral.value ⟨negative, 0, e⟩ = 0 := by
  simp [Numeral.value, Numeral.size]

theorem Number.Numeral.abs_value (n : Numeral) : |n.value| = n.size := by
  unfold Numeral.value
  split
  · rw [abs_neg, abs_of_nonneg (size_nonneg n)]
  · exact abs_of_nonneg (size_nonneg n)

theorem natAbs_roundAway_value (n : Numeral) (places : ℕ) :
    (roundAway (n.value * 10 ^ places)).natAbs = onPlaces n.coefficient n.exponent places := by
  rw [roundAway_value]
  split
  · rw [Int.natAbs_neg, Int.natAbs_natCast]
  · rw [Int.natAbs_natCast]

/-- The number that is kept of an amount by the working precision. -/
def Number.Numeral.kept (n : Numeral) : ℚ :=
  let size := (roundedNumeral ⟨false, n.coefficient, n.exponent⟩).size
  if n.negative then -size else size

/-- The sign is written where the amount is negative and a digit other than zero is shown. -/
theorem sign_eq {c : ℕ} {p : Spelling} (hzero : n.coefficient = 0 → c = 0)
    (hform : p.IsAmount (Numeral.value ⟨n.negative, c, -2⟩)) :
    (n.negative && n.coefficient != 0 &&
      !(p.unsigned.text.all fun c => c == '0' || c == '.' || c == ',')) = p.negative := by
  have hshown : (p.unsigned.text.all fun c => c == '0' || c == '.' || c == ',') = false ↔ p.value ≠ 0 := by
    rw [← Bool.not_eq_true, hform.all_zero_iff]
  have hneg := Numeral.value_neg_iff (n := ⟨n.negative, c, -2⟩)
  rw [Bool.eq_iff_iff, hform.sign, hneg]
  simp only [Bool.and_eq_true, bne_iff_ne, Bool.not_eq_true', hshown, hform.value]
  constructor
  · rintro ⟨⟨hnegative, -⟩, hvalue⟩
    refine ⟨hnegative, fun hnone => hvalue ?_⟩
    rw [hnone, Numeral.value_zero]
  · rintro ⟨hnegative, hsome⟩
    exact ⟨⟨hnegative, mt hzero hsome⟩, (hneg.mpr ⟨hnegative, hsome⟩).ne⟩

/-- An amount is rounded to the working precision, and then to two decimals. -/
theorem currencyText_eq_ok (settings : FormatSettings) (hamount : amountOf v = .ok n)
    (hless : n.size < leastRefused)
    (hdigits : digitCount (roundAway (n.kept * 10 ^ 2)).natAbs ≤ workingPrecision) :
    ∃ p : Spelling, currencyText settings v = .ok (p.withSymbol settings.currencySymbol) ∧
      p.IsAmount (roundedTo 2 n.kept) ∧ p.groups.flatten.length ≤ workingPrecision := by
  obtain ⟨size, hsize⟩ : ∃ size, size = roundedNumeral ⟨false, n.coefficient, n.exponent⟩ := ⟨_, rfl⟩
  have hpositive : size.negative = false := hsize ▸ negative_roundedNumeral _
  have hkept : n.kept = Numeral.value ⟨n.negative, size.coefficient, size.exponent⟩ := by
    rw [hsize]
    rfl
  obtain ⟨c, hc⟩ : ∃ c, c = onPlaces size.coefficient size.exponent (2 : ℕ) := ⟨_, rfl⟩
  rw [hkept, natAbs_roundAway_value, ← hc] at hdigits
  have hplaces : roundedOrSame size 2 = ⟨false, c, -2⟩ := by
    have hfew : digitCount (onPlaces size.coefficient size.exponent (2 : ℕ)) ≤ workingPrecision := hc ▸ hdigits
    have hrounded := roundToPlaces?_eq hfew
    rw [hpositive, ← hc] at hrounded
    exact congrArg (·.getD size) hrounded
  have hzero : n.coefficient = 0 → c = 0 := by
    intro hnone
    have hsame := coefficient_roundedNumeral (n := ⟨false, n.coefficient, n.exponent⟩) hnone
    rw [hc, hsize, hsame, onPlaces_zero]
  obtain ⟨p, hform, htext, hwhole⟩ := Spelling.exists_isAmount n.negative c
  refine ⟨p, ?_, ?_, ?_⟩
  · have hprecision : roundToPrecision ⟨false, n.coefficient, n.exponent⟩ = .ok size :=
      hsize ▸ roundToPrecision_eq_ok hless
    rw [currencyText, hamount]
    simp only [bind, Except.bind, hprecision, hplaces, htext, sign_eq hzero hform]
    rfl
  · rw [hkept, roundedTo_value, ← hc]
    exact hform
  · calc p.groups.flatten.length = digitCount (c / 10 ^ 2) := congrArg List.length hwhole
      _ ≤ digitCount c := digitCount_mono (Nat.div_le_self ..)
      _ ≤ workingPrecision := hdigits

/-- A number with no more digits than the precision is kept whole. -/
theorem kept_eq_value (h : HasDigits workingPrecision n.value) : n.kept = n.value := by
  have hsame := roundedNumeral_exact (n := ⟨false, n.coefficient, n.exponent⟩) (n.abs_value ▸ h.abs)
  unfold Numeral.kept Numeral.value
  simp only [hsame]
  rfl

/-- What is read as no number is an amount of nothing. -/
theorem currencyText_of_not_readsAs (settings : FormatSettings) (h : ∀ x, ¬v.ReadsAs x) :
    currencyText settings v = .ok (settings.currencySymbol ++ "0.00") := by
  have hamount : amountOf v = .ok zeroAmount := by
    have hchars : ∀ cs, (∀ n, readDecimal? cs ≠ some (.finite n)) → amountOfChars cs = zeroAmount := by
      intro cs hcs
      unfold amountOfChars
      split
      · next n hread => exact absurd hread (hcs n)
      · rfl
    cases v with
    | bool b => exact absurd (.bool b) (h _)
    | int n => exact absurd (.int n) (h _)
    | float y => exact congrArg Except.ok (hchars _ fun n hread => h _ (.float hread))
    | decimal y =>
      cases y with
      | finite n => exact absurd (.decimal n) (h _)
      | infinite negative => rfl
      | nan negative signaling digits => rfl
    | text s => exact congrArg Except.ok (hchars _ fun n hread => h _ (.text hread))
    | _ => rfl
  have hprecision : roundToPrecision ⟨false, 0, 0⟩ = .ok ⟨false, 0, 0⟩ := by decide
  have htext : groupedText (roundedOrSame ⟨false, 0, 0⟩ 2) = "0.00".toList := by decide
  rw [currencyText, hamount]
  simp only [bind, Except.bind, zeroAmount, hprecision, htext]
  rfl

theorem digitCount_roundAway_le {y : ℚ} (h : |y| + 1 / 2 < 10 ^ workingPrecision) :
    digitCount (roundAway y).natAbs ≤ workingPrecision := by
  have hrounded : |(roundAway y : ℚ)| ≤ |y| + 1 / 2 := by
    calc |(roundAway y : ℚ)| ≤ |y| + |roundAway y - y| := by
          simpa using abs_add_le y (roundAway y - y)
      _ ≤ |y| + 1 / 2 := by
          rw [abs_sub_comm]
          linarith [abs_sub_roundAway_le y]
  have hless : ((roundAway y).natAbs : ℚ) < (10 ^ workingPrecision : ℕ) := by
    rw [Nat.cast_natAbs, Int.cast_abs]
    push_cast
    linarith
  exact (Nat.length_toDigits_le_iff (by decide) (by decide)).mpr (by exact_mod_cast hless)

theorem pow_lt_leastRefused {k : ℕ} (h : (k : ℤ) ≤ greatestExponent) : (10 : ℚ) ^ k < leastRefused := by
  have hpos : (0 : ℚ) < 10 ^ greatestExponent := by positivity
  have hleast : (10 : ℚ) ^ k ≤ 10 ^ greatestExponent := by
    rw [← zpow_natCast]
    exact zpow_le_zpow_right₀ (by norm_num) h
  have hhalf : 5 * (10 : ℚ) ^ (greatestExponent - workingPrecision) ≤ 10 ^ greatestExponent := by
    have hmany : (5 : ℚ) ≤ 10 ^ workingPrecision := by norm_num [workingPrecision]
    rw [zpow_sub₀ (by norm_num), zpow_natCast, ← mul_div_assoc, div_le_iff₀ (by positivity), mul_comm]
    exact mul_le_mul_of_nonneg_left hmany hpos.le
  have hten : (10 : ℚ) ^ (greatestExponent + 1) = 10 * 10 ^ greatestExponent := by
    rw [zpow_add_one₀ (by norm_num), mul_comm]
  unfold leastRefused
  linarith

/-- Below `10 ^ 26`, 28 digits leave two of them for the decimals. -/
theorem HasDigits.scaled_lt (h : HasDigits workingPrecision x) (hsize : |x| < 10 ^ 26) :
    |x * 10 ^ 2| + 1 / 2 < 10 ^ workingPrecision := by
  have habs : |x * 10 ^ 2| = |x| * 10 ^ 2 := by rw [abs_mul, abs_of_pos (by norm_num : (0 : ℚ) < 10 ^ 2)]
  rw [habs]
  rcases lt_or_ge |x| (10 ^ 25) with hsmall | hgreat
  · norm_num [workingPrecision] at hsmall ⊢
    linarith
  · -- The unit of the last digit is a cent: no half of it is rounded.
    have hpos : 0 < |x| := lt_of_lt_of_le (by norm_num) hgreat
    have hlog : Int.log 10 |x| = 25 := by
      have hleast : (25 : ℤ) ≤ Int.log 10 |x| :=
        (Int.zpow_le_iff_le_log (by decide) hpos).mp (by exact_mod_cast hgreat)
      have hmost : Int.log 10 |x| < (26 : ℤ) :=
        (Int.lt_zpow_iff_log_lt (by decide) hpos).mp (by exact_mod_cast hsize)
      omega
    obtain ⟨k, hk⟩ := h.exists_eq_mul_lastUnit
    have hcents : |x| * 10 ^ 2 = k := by
      have hunit : lastUnit x = 10 ^ (-2 : ℤ) := by
        rw [lastUnit, hlog]
        rfl
      rw [hk, hunit, mul_assoc]
      norm_num
    have hless : (k : ℚ) < (10 ^ workingPrecision : ℕ) := by
      rw [← hcents]
      norm_num [workingPrecision] at hsize ⊢
      linarith
    have hwhole : (k : ℚ) + 1 ≤ 10 ^ workingPrecision := by
      exact_mod_cast Nat.succ_le_of_lt (by exact_mod_cast hless : k < 10 ^ workingPrecision)
    rw [hcents]
    linarith

/-- An amount is written in the form of the number rounded once, half away from zero, to two decimals; what is no
number is written as nothing. -/
theorem amount_is_written_exactly (settings : FormatSettings) (v : Value) :
    (∀ x : ℚ, v.ReadsAs x → HasDigits 28 x → |x| < 10 ^ 26 →
      ∃ p : Spelling, currencyText settings v = .ok (p.withSymbol settings.currencySymbol) ∧
        p.IsAmount (roundedTo 2 x)) ∧
      ((∀ x : ℚ, ¬v.ReadsAs x) → currencyText settings v = .ok (settings.currencySymbol ++ "0.00")) := by
  refine ⟨fun x hv hdigits hsize => ?_, currencyText_of_not_readsAs settings⟩
  have hwritable : |x| < 10 ^ digitLimit := hsize.trans_le (pow_le_pow_right₀ (by norm_num) (by decide))
  obtain ⟨n, hamount, rfl⟩ := amountOf_of_readsAs hv hwritable
  have hkept := kept_eq_value hdigits
  have hless : n.size < leastRefused := by
    rw [← n.abs_value]
    exact hsize.trans (pow_lt_leastRefused (by decide))
  have hcount := digitCount_roundAway_le (hdigits.scaled_lt hsize)
  obtain ⟨p, htext, hform, -⟩ := currencyText_eq_ok settings hamount hless (hkept ▸ hcount)
  exact ⟨p, htext, hkept ▸ hform⟩

theorem half_cent_is_written_exactly :
    ((∃ p : Spelling, currencyText .standard (.text "-9999.995") = .ok (p.withSymbol "€") ∧
      p.IsAmount (roundedTo 2 (-9999.995))) ∧
      currencyText .standard (.text "-9999.995") = .ok "-€10,000.00") ∧
      currencyText .standard (.text "twelve") = .ok ("€" ++ "0.00") := by
  have hread : (Value.text "-9999.995").ReadsAs (Numeral.value ⟨true, 9999995, -3⟩) := .text (by decide +kernel)
  have hvalue : Numeral.value ⟨true, 9999995, -3⟩ = -9999.995 := by norm_num [Numeral.value, Numeral.size]
  rw [hvalue] at hread
  have hdigits : HasDigits 28 (-9999.995) := ⟨-9999995, -3, by norm_num, by norm_num⟩
  have hnone : ∀ x, ¬(Value.text "twelve").ReadsAs x := by
    rintro _ (_ | _ | _ | _ | h)
    have hword : readDecimal? "twelve".toList = none := by decide +kernel
    cases hword.symm.trans h
  refine ⟨⟨?_, by decide +kernel⟩, (amount_is_written_exactly .standard (.text "twelve")).2 hnone⟩
  exact (amount_is_written_exactly .standard (.text "-9999.995")).1 _ hread hdigits (by norm_num [abs_lt])

end DocTemplate
