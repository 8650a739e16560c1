import Mathlib.Algebra.Ring.Nat
import Mathlib.Data.List.DropRight
import DocTemplate.Number.Decimal

/-!
# Runs of digits

The number that a run of digits writes, and how numbers are read that are written plainly: a sign, digits, a
point and more digits.
-/

namespace DocTemplate.Text

theorem dropEnd_eq_rdropWhile (p : Char → Bool) (cs : List Char) : dropEnd p cs = cs.rdropWhile p := rfl

theorem trim_eq_self {cs : List Char} (h : ∀ c ∈ cs, ¬isBlank c) : trim cs = cs := by
  have hstart : dropStart isBlank cs = cs :=
    List.dropWhile_eq_self_iff.mpr fun hne => h _ (List.getElem_mem hne)
  rw [trim, dropAround, hstart, dropEnd_eq_rdropWhile, List.rdropWhile_eq_self_iff]
  exact fun hne => h _ (List.getLast_mem hne)

end DocTemplate.Text

namespace DocTemplate.Number

open DocTemplate.Text

/-! ## Digits -/

theorem eq_ofNat_of_isDigit {c : Char} (h : c.isDigit) : ∃ k < 10, c = Char.ofNat ('0'.toNat + k) := by
  have hbounds : '0'.toNat ≤ c.toNat ∧ c.toNat ≤ '9'.toNat := by
    simpa [Char.isDigit, UInt32.le_iff_toNat_le] using h
  have hten : '9'.toNat = '0'.toNat + 9 := rfl
  refine ⟨c.toNat - '0'.toNat, by omega, ?_⟩
  rw [Nat.add_sub_cancel' hbounds.1, Char.ofNat_toNat]

/-- What is used of a digit: its value, and that it is no other kind of character. -/
theorem digit_facts {c : Char} (h : c.isDigit) :
    digitValue? c = some (c.toNat - '0'.toNat) ∧ c.toNat - '0'.toNat < 10 ∧ ¬isBlank c ∧ c.toLower = c ∧
      c ∉ ['-', '+', '_', '.', ',', 'i', 'n', 's'] := by
  obtain ⟨k, hk, rfl⟩ := eq_ofNat_of_isDigit h
  revert k
  decide

theorem asciiDigit?_eq {c : Char} (h : c.isDigit) : asciiDigit? c = some (c.toNat - '0'.toNat) := by
  obtain ⟨k, hk, rfl⟩ := eq_ofNat_of_isDigit h
  revert k
  decide

theorem isDigit_of_mem_decimalDigits {n : Nat} {c : Char} (h : c ∈ decimalDigits n) : c.isDigit :=
  Nat.isDigit_of_mem_toDigits (by decide) (by decide) h

theorem decimalDigits_ne_nil (n : Nat) : decimalDigits n ≠ [] := Nat.toDigits_ne_nil

theorem decimalDigits_zero : decimalDigits 0 = ['0'] := Nat.toDigits_zero 10

/-- Only zero is written with a zero in front. -/
theorem decimalDigits_of_head {n : Nat} (h : (decimalDigits n).head? = some '0') : decimalDigits n = ['0'] := by
  suffices hzero : n = 0 by rw [hzero, decimalDigits_zero]
  unfold decimalDigits at h
  induction n using Nat.strongRecOn with
  | ind n ih =>
    rcases Nat.lt_or_ge n 10 with hless | hmore
    · rw [Nat.toDigits_of_lt_base hless] at h
      have hvalue := Nat.toNat_digitChar_sub_48_of_lt_ten hless
      rw [Option.some.inj h] at hvalue
      exact hvalue.symm
    · rw [Nat.toDigits_of_base_le (by decide) hmore, List.head?_append_of_ne_nil _ Nat.toDigits_ne_nil] at h
      have := ih (n / 10) (by omega) h
      omega

/-! ## The number that a run writes -/

/-- The number that a run of digits writes. -/
def runValue (ds : List Char) : Nat := Nat.ofDigitChars 10 ds 0

theorem runValue_decimalDigits (n : Nat) : runValue (decimalDigits n) = n := Nat.ofDigitChars_ten_toDigits

theorem runValue_append (ds es : List Char) :
    runValue (ds ++ es) = runValue ds * 10 ^ es.length + runValue es := by
  unfold runValue
  rw [Nat.ofDigitChars_append, Nat.ofDigitChars_eq_ofDigitChars_zero, Nat.mul_comm]

theorem length_zeros (n : Nat) : (zeros n).length = n := List.length_replicate

theorem runValue_zeros (n : Nat) : runValue (zeros n) = 0 := by
  unfold runValue zeros
  rw [Nat.ofDigitChars_replicate_zero, Nat.mul_zero]

theorem runValue_cons (c : Char) (ds : List Char) :
    runValue (c :: ds) = (c.toNat - '0'.toNat) * 10 ^ ds.length + runValue ds := by
  have hone : runValue [c] = c.toNat - '0'.toNat := by
    rw [runValue, Nat.ofDigitChars_cons, Nat.ofDigitChars_nil, Nat.mul_zero, Nat.zero_add]
  rw [← List.singleton_append, runValue_append, hone]

theorem runValue_lt {ds : List Char} (h : ∀ c ∈ ds, c.isDigit) : runValue ds < 10 ^ ds.length := by
  induction ds with
  | nil => exact Nat.one_pos
  | cons c ds ih =>
    obtain ⟨hc, hds⟩ := List.forall_mem_cons.mp h
    have hdigit := (digit_facts hc).2.1
    have hrest := ih hds
    rw [runValue_cons, List.length_cons, Nat.pow_succ']
    calc (c.toNat - '0'.toNat) * 10 ^ ds.length + runValue ds
        < (c.toNat - '0'.toNat + 1) * 10 ^ ds.length := by rw [Nat.succ_mul]; omega
      _ ≤ 10 * 10 ^ ds.length := Nat.mul_le_mul_right _ hdigit

/-- Zero is written with zeros only. -/
theorem eq_zero_of_runValue_eq_zero {ds : List Char} (h : ∀ c ∈ ds, c.isDigit) (hzero : runValue ds = 0) :
    ∀ c ∈ ds, c = '0' := by
  induction ds with
  | nil => exact nofun
  | cons c ds ih =>
    obtain ⟨hc, hds⟩ := List.forall_mem_cons.mp h
    rw [runValue_cons, Nat.add_eq_zero_iff, Nat.mul_eq_zero] at hzero
    obtain ⟨hfirst, hrest⟩ := hzero
    have hpow : 10 ^ ds.length ≠ 0 := (Nat.pow_pos (by decide)).ne'
    have hc' : c = '0' := by
      obtain ⟨k, hk, rfl⟩ := eq_ofNat_of_isDigit hc
      have hvalue : ∀ k < 10, (Char.ofNat ('0'.toNat + k)).toNat - '0'.toNat = k := by decide
      rw [hvalue k hk] at hfirst
      rw [hfirst.resolve_right hpow]
      rfl
    exact List.forall_mem_cons.mpr ⟨hc', ih hds hrest⟩

theorem ofDigits_values (ds : List Char) :
    ofDigits 10 (ds.map fun c => c.toNat - '0'.toNat) = runValue ds := by
  rw [ofDigits, runValue, Nat.ofDigitChars_eq_foldl, List.foldl_map]

/-! ## Reading -/

theorem takeDigits_append {ds rest : List Char} (hds : ∀ c ∈ ds, c.isDigit)
    (hrest : ∀ c, rest.head? = some c → digitValue? c = none) :
    takeDigits digitValue? (ds ++ rest) = (ds.map fun c => c.toNat - '0'.toNat, rest) := by
  induction ds with
  | nil =>
    cases rest with
    | nil => rfl
    | cons c rest => rw [List.nil_append, takeDigits, hrest c rfl]; rfl
  | cons c ds ih =>
    obtain ⟨hc, hds⟩ := List.forall_mem_cons.mp hds
    rw [List.cons_append, takeDigits, (digit_facts hc).1, ih hds]
    rfl

/-- A point and digits behind it, if there are any. -/
def behindPoint (fraction : List Char) : List Char := if fraction.isEmpty then [] else '.' :: fraction

theorem behindPoint_nil : behindPoint [] = [] := rfl

theorem behindPoint_cons (d : Char) (ds : List Char) : behindPoint (d :: ds) = '.' :: d :: ds := rfl

/-- A number as it is written plainly. -/
def plainNumber (negative : Bool) (whole fraction : List Char) : List Char :=
  (if negative then ['-'] else []) ++ whole ++ behindPoint fraction

theorem readUnsigned?_plain {whole fraction : List Char} (hne : whole ≠ [])
    (hdigits : ∀ c ∈ whole ++ fraction, c.isDigit) :
    readUnsigned? digitValue? (whole ++ behindPoint fraction) =
      some (runValue (whole ++ fraction), -(fraction.length : Int)) := by
  obtain ⟨hwhole, hfraction⟩ := List.forall_mem_append.mp hdigits
  have hnil : ∀ c, ([] : List Char).head? = some c → digitValue? c = none := fun c hc => by cases hc
  rw [← ofDigits_values, List.map_append, readUnsigned?]
  cases fraction with
  | nil =>
    rw [behindPoint_nil, takeDigits_append hwhole hnil]
    simp [hne, readExponent?]
  | cons d ds =>
    have hpoint : ∀ c, (behindPoint (d :: ds)).head? = some c → digitValue? c = none := by
      intro c hc
      rw [← Option.some.inj hc]
      decide
    have htail := takeDigits_append hfraction hnil
    rw [List.append_nil] at htail
    rw [takeDigits_append hwhole hpoint, behindPoint_cons]
    simp [htail, readExponent?]

theorem takeSign_plain (negative : Bool) {c : Char} (hc : c.isDigit) (cs : List Char) :
    takeSign ((if negative then ['-'] else []) ++ c :: cs) = (negative, c :: cs) := by
  cases negative with
  | true => rfl
  | false =>
    obtain ⟨-, -, -, -, hother⟩ := digit_facts hc
    simp only [List.mem_cons, not_or] at hother
    unfold takeSign
    split <;> simp_all

theorem readSpecialDecimal?_plain (negative : Bool) {c : Char} (hc : c.isDigit) (cs : List Char) :
    readSpecialDecimal? ((if negative then ['-'] else []) ++ c :: cs) = none := by
  obtain ⟨-, -, -, hlower, hother⟩ := digit_facts hc
  simp only [List.mem_cons, not_or] at hother
  rw [readSpecialDecimal?, takeSign_plain negative hc]
  simp only [List.map_cons, hlower]
  split <;> simp_all

theorem readNumeral?_plain (negative : Bool) {whole fraction : List Char} (hne : whole ≠ [])
    (hdigits : ∀ c ∈ whole ++ fraction, c.isDigit) :
    readNumeral? digitValue? (plainNumber negative whole fraction) =
      some ⟨negative, runValue (whole ++ fraction), -(fraction.length : Int)⟩ := by
  have hunsigned := readUnsigned?_plain hne hdigits
  obtain ⟨c, whole, rfl⟩ := List.exists_cons_of_ne_nil hne
  have hsign := takeSign_plain negative (hdigits c (by simp)) (whole ++ behindPoint fraction)
  rw [List.cons_append] at hunsigned
  rw [plainNumber, List.append_assoc, List.cons_append, readNumeral?, hsign]
  simp only [hunsigned]
  rfl

theorem plain_of_mem_plainNumber (negative : Bool) {whole fraction : List Char}
    (hdigits : ∀ c ∈ whole ++ fraction, c.isDigit) :
    ∀ c ∈ plainNumber negative whole fraction, ¬isBlank c ∧ c ≠ '_' := by
  have hdigit : ∀ c ∈ whole ++ fraction, ¬isBlank c ∧ c ≠ '_' := by
    intro c hc
    obtain ⟨-, -, hblank, -, hother⟩ := digit_facts (hdigits c hc)
    exact ⟨hblank, by rintro rfl; simp at hother⟩
  have hsign : ¬isBlank '-' ∧ '-' ≠ '_' := by decide
  have hpoint : ¬isBlank '.' ∧ '.' ≠ '_' := by decide
  obtain ⟨hwhole, hfraction⟩ := List.forall_mem_append.mp hdigit
  refine List.forall_mem_append.mpr ⟨List.forall_mem_append.mpr ⟨?_, hwhole⟩, ?_⟩
  · cases negative with
    | true => exact List.forall_mem_singleton.mpr hsign
    | false => exact List.forall_mem_nil _
  · cases fraction with
    | nil => exact List.forall_mem_nil _
    | cons d ds => exact List.forall_mem_cons.mpr ⟨hpoint, hfraction⟩

theorem digitCount_runValue_le {ds : List Char} (hne : ds ≠ []) (h : ∀ c ∈ ds, c.isDigit) :
    digitCount (runValue ds) ≤ ds.length :=
  (Nat.length_toDigits_le_iff (by decide) (List.length_pos_iff.mpr hne)).mpr (runValue_lt h)

/-- A number that is written plainly is read as it is written. -/
theorem readDecimal?_plainNumber (negative : Bool) {whole fraction : List Char} (hne : whole ≠ [])
    (hdigits : ∀ c ∈ whole ++ fraction, c.isDigit) (hlength : (whole ++ fraction).length < 10 ^ 18) :
    readDecimal? (plainNumber negative whole fraction) =
      some (.finite ⟨negative, runValue (whole ++ fraction), -(fraction.length : Int)⟩) := by
  have hchars := plain_of_mem_plainNumber negative hdigits
  have hnumeral := readNumeral?_plain negative hne hdigits
  have hspecial : readSpecialDecimal? (plainNumber negative whole fraction) = none := by
    obtain ⟨c, whole, rfl⟩ := List.exists_cons_of_ne_nil hne
    rw [plainNumber, List.append_assoc, List.cons_append]
    exact readSpecialDecimal?_plain negative (hdigits c (by simp)) _
  have hcount := digitCount_runValue_le (List.append_ne_nil_of_left_ne_nil hne fraction) hdigits
  rw [readDecimal?, trim_eq_self fun c hc => (hchars c hc).1,
    List.filter_eq_self.mpr fun c hc => by simpa using (hchars c hc).2]
  simp only [hspecial, hnumeral]
  have hwithin : ¬(decimalExponentLimit <
      leadingExponent (runValue (whole ++ fraction)) (-(fraction.length : Int)) ∨
        -(fraction.length : Int) < -1999999999999999997) := by
    rw [List.length_append] at hcount hlength
    unfold decimalExponentLimit leadingExponent
    omega
  exact if_neg hwithin

end DocTemplate.Number
