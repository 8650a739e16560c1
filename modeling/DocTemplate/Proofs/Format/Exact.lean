import DocTemplate.Format.Basic
import DocTemplate.Proofs.Format.Spelling

/-!
# Numbers as they are written

A number is rounded once, half away from zero, to the decimals that may be shown, and written without those that
say nothing. Main statement: `number_is_written_exactly`.
-/

namespace DocTemplate

open DocTemplate.Number DocTemplate.Text

/-- The form of a number: without zeros at the end of its fraction, and with a sign just if it is less than
zero. -/
structure Spelling.Canonical (p : Spelling) (x : ℚ) : Prop extends p.WellFormed where
  trailing : p.fraction.getLast? ≠ some '0'
  sign : p.negative = true ↔ x < 0
  value : p.value = x

/-- The form of zero. -/
theorem Spelling.Canonical.text_zero {p : Spelling} (h : p.Canonical 0) : p.text = ['0'] := by
  have hsign : p.negative = false := Bool.eq_false_iff.mpr (mt h.sign.mp (lt_irrefl 0))
  have hrun : runValue p.digits = 0 := by
    have hpow : (10 : ℚ) ^ p.fraction.length ≠ 0 := by positivity
    have hvalue := h.value
    rw [Spelling.value, hsign] at hvalue
    simpa [hpow] using hvalue
  obtain ⟨hwhole, hfraction⟩ := List.forall_mem_append.mp (eq_zero_of_runValue_eq_zero h.digit hrun)
  have hgroups : p.groups = [['0']] := by
    obtain ⟨c, rest, hflatten⟩ := List.exists_cons_of_ne_nil h.whole_ne_nil
    have hc : c = '0' := hwhole c (hflatten ▸ List.mem_cons_self)
    exact h.threes.eq_singleton (h.leading (by rw [hflatten, hc, List.head?_cons]))
  have hnofraction : p.fraction = [] := by
    by_contra hne
    refine h.trailing ?_
    rw [List.getLast?_eq_getLast_of_ne_nil hne, hfraction _ (List.getLast_mem hne)]
  rw [Spelling.text, hsign, hgroups, hnofraction]
  rfl

/-- A number that is rounded to no more digits than the precision allows has a size that can be written. -/
theorem abs_lt_of_rounded {x : ℚ} {places : ℕ}
    (h : digitCount (roundAway (x * 10 ^ places)).natAbs ≤ workingPrecision) : |x| < 10 ^ digitLimit := by
  have hrounded : |(roundAway (x * 10 ^ places) : ℚ)| < 10 ^ workingPrecision := by
    rw [← Int.cast_abs, Int.abs_eq_natAbs]
    have hless := (lt_ten_pow_digitCount _).trans_le (Nat.pow_le_pow_right (by decide : 0 < 10) h)
    exact_mod_cast hless
  have hnear := abs_sub_roundAway_le (x * 10 ^ places)
  have hscaled : |x| ≤ |x * 10 ^ places| := by
    rw [abs_mul, abs_of_pos (by positivity : (0 : ℚ) < 10 ^ places)]
    exact le_mul_of_one_le_right (abs_nonneg x) (one_le_pow₀ (by norm_num))
  have hmore : (10 : ℚ) ^ workingPrecision + 1 ≤ 10 ^ (workingPrecision + 1) := by
    have hone : (1 : ℚ) ≤ 10 ^ workingPrecision := one_le_pow₀ (by norm_num)
    rw [pow_succ]
    linarith
  calc |x| ≤ |x * 10 ^ places| := hscaled
    _ ≤ |x * 10 ^ places - roundAway (x * 10 ^ places)| + |(roundAway (x * 10 ^ places) : ℚ)| := by
      simpa using abs_add_le (x * 10 ^ places - roundAway (x * 10 ^ places)) (roundAway (x * 10 ^ places))
    _ < 10 ^ workingPrecision + 1 := by linarith
    _ ≤ 10 ^ (workingPrecision + 1) := hmore
    _ ≤ 10 ^ digitLimit := pow_le_pow_right₀ (by norm_num) (by decide)

/-- A number is written in the form of the rounded number, and read back from its text as this number; zero
is written as one digit. -/
theorem number_is_written_exactly {settings : FormatSettings} {v : Value} {x : ℚ} {places : ℕ}
    (hv : v.ReadsAs x) (hplaces : settings.fractionDigits = places) (hmost : places ≤ 1000)
    (hdigits : digitCount (roundAway (x * 10 ^ places)).natAbs ≤ workingPrecision) :
    ∃ p : Spelling, numberText settings v = .ok (String.ofList p.text) ∧
      p.Canonical (roundedTo places x) ∧ p.fraction.length ≤ places ∧
      (Value.text (String.ofList (p.text.filter (· != ',')))).ReadsAs (roundedTo places x) ∧
      (roundedTo places x = 0 → p.text = ['0']) := by
  obtain ⟨n, hamount, rfl⟩ := amountOf_of_readsAs hv (abs_lt_of_rounded hdigits)
  obtain ⟨c, hc⟩ : ∃ c, c = onPlaces n.coefficient n.exponent places := ⟨_, rfl⟩
  have hcount : digitCount c ≤ workingPrecision := by
    rw [roundAway_value, ← hc] at hdigits
    split at hdigits
    · rwa [Int.natAbs_neg, Int.natAbs_natCast] at hdigits
    · rwa [Int.natAbs_natCast] at hdigits
  have hrounded : roundedOrSame n places = ⟨n.negative, c, -places⟩ := by
    rw [roundedOrSame, roundToPlaces?_eq (hc ▸ hcount), ← hc]
    rfl
  obtain ⟨p, htext, hwell, hlength, hwhole, hvalue, hsign⟩ :=
    Spelling.exists_eq_groupedText n.negative c places
  have hround : p.value = roundedTo places n.value := by rw [hvalue, roundedTo_value, hc]
  have hshorter : p.short.fraction.length ≤ places := by
    rw [← hlength]
    exact (List.rdropWhile_prefix _ _).length_le
  have hcanonical : p.short.Canonical (roundedTo places n.value) :=
    { hwell.short with
      trailing := p.getLast?_short
      sign := hround ▸ hsign
      value := p.value_short.trans hround }
  refine ⟨p.short, ?_, hcanonical, hshorter, ?_, fun hzero => ?_⟩
  · rw [numberText, hamount, hplaces]
    simp only [hrounded, htext, hwell.dropFractionZeros_text, bind, Except.bind]
  · have hread := hwell.short.readsAs ?_
    · rwa [hcanonical.value] at hread
    · have hbefore : p.short.groups.flatten.length ≤ workingPrecision := by
        calc p.short.groups.flatten.length = digitCount (c / 10 ^ places) := congrArg List.length hwhole
          _ ≤ digitCount c := digitCount_mono (Nat.div_le_self ..)
          _ ≤ workingPrecision := hcount
      rw [Spelling.digits, List.length_append]
      unfold workingPrecision at hbefore
      omega
  · rw [hzero] at hcanonical
    exact hcanonical.text_zero

theorem long_text_is_written_exactly :
    (∃ p : Spelling, numberText .standard (.text " -1234567.895") = .ok (String.ofList p.text) ∧
      p.Canonical (roundedTo 2 (-1234567.895)) ∧ p.fraction.length ≤ 2 ∧
      (Value.text (String.ofList (p.text.filter (· != ',')))).ReadsAs (roundedTo 2 (-1234567.895)) ∧
      (roundedTo 2 (-1234567.895) = 0 → p.text = ['0'])) ∧
      numberText .standard (.text " -1234567.895") = .ok "-1,234,567.9" := by
  have hread : (Value.text " -1234567.895").ReadsAs (Numeral.value ⟨true, 1234567895, -3⟩) :=
    .text (by decide +kernel)
  have hvalue : Numeral.value ⟨true, 1234567895, -3⟩ = -1234567.895 := by
    norm_num [Numeral.value, Numeral.size]
  rw [hvalue] at hread
  have hround : roundAway (-1234567.895 * 10 ^ 2) = -123456790 := by
    rw [roundAway, if_neg (by norm_num)]
    norm_num
  have hdigits : digitCount (roundAway (-1234567.895 * 10 ^ 2)).natAbs ≤ workingPrecision := by
    rw [hround]
    decide
  exact ⟨number_is_written_exactly hread rfl (by decide) hdigits, by decide +kernel⟩

end DocTemplate
