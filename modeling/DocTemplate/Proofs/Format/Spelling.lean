import DocTemplate.Proofs.Format.Grouping
import DocTemplate.Proofs.Format.Rounding

/-!
# Written numbers

The parts of a number as it is written, the number that they stand for, and that it is this number which is
read back from the text without its commas.
-/

namespace DocTemplate

open DocTemplate.Number DocTemplate.Text

/-- The number that a value is read as, if it is read as one. -/
inductive Value.ReadsAs : Value → ℚ → Prop
  | bool (b : Bool) : ReadsAs (.bool b) (if b then 1 else 0)
  | int (n : ℤ) : ReadsAs (.int n) n
  | float {x : Float} {n : Numeral} (h : readDecimal? (floatText x) = some (.finite n)) :
    ReadsAs (.float x) n.value
  | decimal (n : Numeral) : ReadsAs (.decimal (.finite n)) n.value
  | text {s : String} {n : Numeral} (h : readDecimal? s.toList = some (.finite n)) : ReadsAs (.text s) n.value

theorem value_of_int (n : ℤ) : Numeral.value ⟨n < 0, n.natAbs, 0⟩ = n := by
  have habs : (n.natAbs : ℚ) = |(n : ℚ)| := by rw [← Int.cast_abs, Int.abs_eq_natAbs, Int.cast_natCast]
  simp only [Numeral.value, Numeral.size, decide_eq_true_eq, zpow_zero, mul_one, habs]
  split
  · next hneg => rw [abs_of_neg (by exact_mod_cast hneg), neg_neg]
  · next hnonneg => exact abs_of_nonneg (by exact_mod_cast not_lt.mp hnonneg)

/-- A value that is read as a number of a size that can be written has this amount. -/
theorem amountOf_of_readsAs {v : Value} {x : ℚ} (h : v.ReadsAs x) (hsize : |x| < 10 ^ digitLimit) :
    ∃ n, amountOf v = .ok n ∧ n.value = x := by
  cases h with
  | bool b =>
    refine ⟨_, rfl, ?_⟩
    cases b <;> simp [Numeral.value, Numeral.size]
  | int n =>
    have hwithin : ¬digitLimit < digitCount n.natAbs := by
      rw [lt_digitCount_iff (by decide), Nat.not_le]
      rw [← Int.cast_abs, Int.abs_eq_natAbs] at hsize
      exact_mod_cast hsize
    have htext : integerText n =
        .ok (if n < 0 then '-' :: decimalDigits n.natAbs else decimalDigits n.natAbs) := if_neg hwithin
    refine ⟨⟨n < 0, n.natAbs, 0⟩, ?_, value_of_int n⟩
    rw [amountOf, htext]
    rfl
  | float h => exact ⟨_, congrArg Except.ok (by rw [amountOfChars, h]), rfl⟩
  | decimal n => exact ⟨n, rfl, rfl⟩
  | text h => exact ⟨_, congrArg Except.ok (by rw [amountOfChars, h]), rfl⟩

/-- The digits of a number: those before the point in groups, and those behind it. -/
structure Spelling where
  negative : Bool
  groups : List (List Char)
  fraction : List Char

namespace Spelling

variable {p : Spelling}

def text (p : Spelling) : List Char :=
  (if p.negative then ['-'] else []) ++ join [','] p.groups ++ behindPoint p.fraction

def digits (p : Spelling) : List Char := p.groups.flatten ++ p.fraction

/-- The number that is written. -/
def value (p : Spelling) : ℚ :=
  let size : ℚ := runValue p.digits / 10 ^ p.fraction.length
  if p.negative then -size else size

/-- Digits in groups of three; a zero stands in front only where it is the one digit before the point. -/
structure WellFormed (p : Spelling) : Prop where
  digit : ∀ c ∈ p.digits, c.isDigit
  threes : InThrees p.groups
  leading : p.groups.flatten.head? = some '0' → p.groups.flatten = ['0']

theorem WellFormed.notMem (h : p.WellFormed) {c : Char} (hc : c ∈ ['-', '+', '_', '.', ',', 'i', 'n', 's']) :
    c ∉ p.digits := by
  intro hmem
  obtain ⟨-, -, -, -, hother⟩ := digit_facts (h.digit c hmem)
  exact hother hc

theorem WellFormed.whole_ne_nil (h : p.WellFormed) : p.groups.flatten ≠ [] := by
  obtain ⟨first, rest, hgroups, hleast, -⟩ := h.threes
  rw [hgroups, List.flatten_cons]
  exact List.append_ne_nil_of_left_ne_nil (List.length_pos_iff.mp hleast) _

/-! ## Reading back -/

theorem WellFormed.filter_text (h : p.WellFormed) :
    p.text.filter (· != ',') = plainNumber p.negative p.groups.flatten p.fraction := by
  have hcomma := h.notMem (c := ',') (by decide)
  rw [digits, List.mem_append, not_or] at hcomma
  have hsign : (if p.negative then ['-'] else []).filter (· != ',') = if p.negative then ['-'] else [] := by
    cases p.negative <;> rfl
  have hfraction : (behindPoint p.fraction).filter (· != ',') = behindPoint p.fraction := by
    refine List.filter_eq_self.mpr fun c hc => ?_
    suffices c ≠ ',' by simpa using this
    rintro rfl
    unfold behindPoint at hc
    split at hc
    · cases hc
    · exact hcomma.2 (List.mem_of_ne_of_mem (by decide) hc)
  rw [text, List.filter_append, List.filter_append, hsign, filter_join hcomma.1, hfraction, plainNumber]

theorem WellFormed.readsAs (h : p.WellFormed) (hlength : p.digits.length < 10 ^ 18) :
    (Value.text (String.ofList (p.text.filter (· != ',')))).ReadsAs p.value := by
  have hread := readDecimal?_plainNumber p.negative h.whole_ne_nil h.digit hlength
  have hvalue : p.value =
      Numeral.value ⟨p.negative, runValue (p.groups.flatten ++ p.fraction), -(p.fraction.length : ℤ)⟩ := by
    unfold value digits Numeral.value Numeral.size
    simp only [zpow_neg, zpow_natCast, div_eq_mul_inv]
  rw [hvalue, h.filter_text]
  refine .text ?_
  rw [String.toList_ofList]
  exact hread

/-! ## Zeros at the end -/

/-- A written number without the zeros at the end of its fraction. -/
def short (p : Spelling) : Spelling := { p with fraction := dropEnd (· == '0') p.fraction }

theorem fraction_eq (p : Spelling) : ∃ k, p.fraction = p.short.fraction ++ zeros k := by
  have hparts : p.short.fraction ++ p.fraction.rtakeWhile (· == '0') = p.fraction :=
    List.rdropWhile_append_rtakeWhile
  have hzeros : p.fraction.rtakeWhile (· == '0') = zeros (p.fraction.rtakeWhile (· == '0')).length := by
    refine List.eq_replicate_iff.mpr ⟨rfl, fun c hc => ?_⟩
    exact eq_of_beq (List.mem_rtakeWhile_imp (p := (· == '0')) hc)
  rw [hzeros] at hparts
  exact ⟨_, hparts.symm⟩

theorem WellFormed.short (h : p.WellFormed) : p.short.WellFormed where
  digit c hc := by
    obtain ⟨k, hk⟩ := p.fraction_eq
    refine h.digit c ?_
    rw [digits, hk, ← List.append_assoc]
    exact List.mem_append_left _ hc
  threes := h.threes
  leading := h.leading

theorem value_short (p : Spelling) : p.short.value = p.value := by
  obtain ⟨k, hk⟩ := p.fraction_eq
  have hdigits : p.digits = p.short.digits ++ zeros k := by
    rw [digits, hk, ← List.append_assoc]
    rfl
  have hsize : (runValue p.digits / 10 ^ p.fraction.length : ℚ) =
      runValue p.short.digits / 10 ^ p.short.fraction.length := by
    rw [hdigits, hk, runValue_append, runValue_zeros, List.length_append, length_zeros, add_zero, Nat.cast_mul,
      Nat.cast_pow, Nat.cast_ofNat, pow_add]
    exact mul_div_mul_right _ _ (by positivity)
  unfold value
  rw [hsize]
  rfl

theorem getLast?_short (p : Spelling) : p.short.fraction.getLast? ≠ some '0' := by
  intro hlast
  obtain ⟨hne, hzero⟩ := List.mem_getLast?_eq_getLast hlast
  exact List.rdropWhile_last_not (· == '0') p.fraction hne (beq_iff_eq.mpr hzero.symm)

theorem WellFormed.dropFractionZeros_text (h : p.WellFormed) : dropFractionZeros p.text = p.short.text := by
  have hpoint := h.notMem (c := '.') (by decide)
  rw [digits, List.mem_append, not_or] at hpoint
  refine dropFractionZeros_behindPoint ?_ hpoint.2
  rw [List.mem_append, not_or]
  refine ⟨by cases p.negative <;> decide, fun hmem => ?_⟩
  rcases mem_join hmem with hcomma | hgroup
  · exact absurd hcomma (by decide)
  · exact hpoint.1 hgroup

/-- A number with decimals is written with all of them, and with a sign just if it is less than zero. -/
theorem exists_eq_groupedText (negative : Bool) (c places : ℕ) :
    ∃ p : Spelling, groupedText ⟨negative, c, -places⟩ = p.text ∧ p.WellFormed ∧ p.fraction.length = places ∧
      p.groups.flatten = decimalDigits (c / 10 ^ places) ∧
      p.value = Numeral.value ⟨negative, c, -places⟩ ∧ (p.negative = true ↔ p.value < 0) := by
  obtain ⟨groups, hgrouped, hflatten, hthrees⟩ := grouped_eq (decimalDigits_ne_nil (c / 10 ^ places))
  have hdigits : runValue (groups.flatten ++ decimals places c) = c :=
    hflatten ▸ runValue_decimalDigits_append_decimals
  have hvalue : value ⟨negative && c != 0, groups, decimals places c⟩ = Numeral.value ⟨negative, c, -places⟩ := by
    simp only [value, digits, hdigits, length_decimals, Numeral.value, Numeral.size, zpow_neg, zpow_natCast,
      div_eq_mul_inv]
    rcases eq_or_ne c 0 with rfl | hne
    · simp
    · simp [hne]
  refine ⟨⟨negative && c != 0, groups, decimals places c⟩, ?_, ⟨?_, hthrees, ?_⟩, length_decimals, hflatten,
    hvalue, ?_⟩
  · rw [groupedText, groupedSize_eq, hgrouped, text]
    split <;> rfl
  · intro d hd
    rcases List.mem_append.mp hd with hwhole | hfraction
    · exact isDigit_of_mem_decimalDigits (hflatten ▸ hwhole)
    · exact isDigit_of_mem_decimals hfraction
  · intro hzero
    rw [hflatten] at hzero ⊢
    exact decimalDigits_of_head hzero
  · rw [hvalue, Numeral.value_neg_iff, Bool.and_eq_true, bne_iff_ne]

end Spelling

end DocTemplate
