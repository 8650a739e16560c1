import DocTemplate.Format.Basic
import DocTemplate.Proofs.Calendar.Range
import DocTemplate.Proofs.Format.Precision
import DocTemplate.Proofs.Value.Plain

/-!
# Values without a text

Most values have a text in every format. The exceptions are moments near both ends of the calendar, whole
numbers of thousands of digits, and amounts of a million digits. Main statement: `formatValue_fails_iff`.
-/

namespace DocTemplate

open DocTemplate.Number DocTemplate.Calendar

variable {settings : FormatSettings} {kind : Option FormatKind} {v : Value} {e : Failure}

/-! ## Plain text -/

namespace Value

/-- Whether a value is no whole number with more digits than are written. -/
def isShortKind : Value → Bool
  | int n => digitCount n.natAbs ≤ digitLimit
  | _ => true

/-- Whether no whole number in a value has more digits than are written. -/
def isShort (v : Value) : Bool := v.throughout isShortKind

end Value

theorem isShort_int_iff {n : Int} : (Value.int n).isShort = false ↔ digitLimit < digitCount n.natAbs := by
  change decide (_ ≤ _) = false ↔ _
  rw [decide_eq_false_iff_not, Nat.not_le]

theorem integerText_eq_error_iff {n : Int} :
    integerText n = .error e ↔ e = .integerTooLong ∧ (Value.int n).isShort = false := by
  rw [isShort_int_iff]
  unfold integerText
  change (if digitLimit < digitCount n.natAbs then _ else _) = _ ↔ _
  split
  · next h => exact ⟨fun heq => ⟨(Except.error.inj heq).symm, h⟩, fun heq => heq.1 ▸ rfl⟩
  · next h => exact iff_of_false nofun fun heq => h heq.2

/-- Two readings one after the other that fail in the same way. -/
theorem bind_both_eq_error_iff {α β γ : Type} {x : Except Failure α} {y : Except Failure β} {f : α → β → γ}
    {p q : Bool} {e₀ : Failure} (hx : ∀ e, x = .error e ↔ e = e₀ ∧ p = false)
    (hy : ∀ e, y = .error e ↔ e = e₀ ∧ q = false) :
    (do let a ← x; let b ← y; .ok (f a b)) = (.error e : Except Failure γ) ↔
      e = e₀ ∧ (p && q) = false := by
  have hrest : ∀ a, (do let b ← y; .ok (f a b)) = (.error e : Except Failure γ) ↔ e = e₀ ∧ q = false := by
    intro a
    rw [bind_eq_error_iff, hy]
    exact or_iff_left (by rintro ⟨_, -, ⟨⟩⟩)
  rw [bind_eq_error_iff, hx, Bool.and_eq_false_iff]
  simp only [hrest]
  cases x with
  | error e' =>
    obtain ⟨rfl, rfl⟩ := (hx e').mp rfl
    simp
  | ok a =>
    have hp : p = true := by
      by_contra hp
      exact nomatch (hx e₀).mpr ⟨rfl, eq_false_of_ne_true hp⟩
    simp [hp]

namespace Value

mutual

/-- The literal form of a value fails just if a whole number in it is too long. -/
theorem literal_eq_error_iff : ∀ {v : Value} {e : Failure},
    v.literal = .error e ↔ e = .integerTooLong ∧ v.isShort = false
  | int n, _ => integerText_eq_error_iff
  | list items, e => by
    rw [literal, map_eq_error_iff, literals_eq_error_iff]
    rfl
  | tuple items, e => by
    rw [literal, map_eq_error_iff, literals_eq_error_iff]
    rfl
  | record fields, e => by
    rw [literal, map_eq_error_iff, fieldLiterals_eq_error_iff]
    rfl
  | null, _ | bool _, _ | float _, _ | decimal _, _ | text _, _ | bytes _, _ | date _, _ | moment _, _ =>
    iff_of_false nofun fun h => nomatch h.2

theorem literals_eq_error_iff : ∀ {items : List Value} {e : Failure},
    literals items = .error e ↔ e = .integerTooLong ∧ throughoutItems isShortKind items = false
  | [], _ => iff_of_false nofun fun h => nomatch h.2
  | v :: vs, e => by
    rw [literals, throughoutItems]
    exact bind_both_eq_error_iff (fun _ => literal_eq_error_iff) fun _ => literals_eq_error_iff

theorem fieldLiterals_eq_error_iff : ∀ {fields : List (String × Value)} {e : Failure},
    fieldLiterals fields = .error e ↔ e = .integerTooLong ∧ throughoutFields isShortKind fields = false
  | [], _ => iff_of_false nofun fun h => nomatch h.2
  | (key, v) :: fields, e => by
    rw [fieldLiterals, throughoutFields]
    exact bind_both_eq_error_iff (fun _ => literal_eq_error_iff) fun _ => fieldLiterals_eq_error_iff

end

/-- A value has no plain text just if a whole number in it is too long, or if it is a moment without a date in
universal time. -/
theorem plain_eq_error_iff : v.plain = .error e ↔
    e = .integerTooLong ∧ v.isShort = false ∨
      e = .dateOutOfRange ∧ ∃ m, v = .moment m ∧ m.utcDate? = none := by
  have hshown : v.shown.map String.ofList = .error e ↔ e = .integerTooLong ∧ v.isShort = false := by
    rw [map_eq_error_iff]
    cases v with
    | decimal d => exact iff_of_false nofun fun h => nomatch h.2
    | text s => exact iff_of_false nofun fun h => nomatch h.2
    | _ => exact literal_eq_error_iff
  cases v with
  | moment m =>
    cases hm : m.utcDate? with
    | some d =>
      have hplain : (moment m).plain = .ok (String.ofList d.text) := by simp only [plain, hm]
      rw [hplain]
      refine iff_of_false nofun ?_
      rintro (⟨-, h⟩ | ⟨-, _, ⟨⟩, h⟩)
      · cases h
      · cases hm.symm.trans h
    | none =>
      have hplain : (moment m).plain = .error .dateOutOfRange := by simp only [plain, hm]
      rw [hplain]
      constructor
      · rintro ⟨⟩
        exact .inr ⟨rfl, m, rfl, hm⟩
      · rintro (⟨-, h⟩ | ⟨rfl, -⟩)
        · cases h
        · rfl
  | null | bool _ | float _ | date _ =>
    refine iff_of_false nofun ?_
    rintro (⟨-, h⟩ | ⟨-, _, h, -⟩) <;> cases h
  | _ => exact hshown.trans (or_iff_left (by rintro ⟨-, _, h, -⟩; cases h)).symm

end Value

/-! ## Dates -/

theorem dateOfSeconds?_infinity : dateOfSeconds? infinity = none ∧ dateOfSeconds? (-infinity) = none := by
  have hparts : parts? infinity = none ∧ parts? (-infinity) = none := by decide +kernel
  unfold dateOfSeconds?
  rw [hparts.1, hparts.2]
  exact ⟨rfl, rfl⟩

/-- A whole number that is too long to be written has no date. -/
theorem dateOf_of_long {n : Int} (h : digitLimit < digitCount n.natAbs) : dateOf (.int n) = .ok none := by
  have hne : n.natAbs ≠ 0 := by
    intro hzero
    rw [hzero] at h
    exact absurd h (by decide)
  have hsize : nearestFloat n.natAbs (-3) = infinity := by
    unfold nearestFloat
    rw [if_neg hne]
    have : (400 : ℤ) < -3 + digitCount n.natAbs := by
      unfold digitLimit at h
      omega
    simp only [this, if_true]
    rfl
  unfold dateOf
  simp only [hsize]
  split
  · rw [dateOfSeconds?_infinity.2]
  · rw [dateOfSeconds?_infinity.1]

/-! ## Formats -/

/-- Whether a format writes amounts. -/
def writesAmounts : Option FormatKind → Bool
  | some .currency | some .number => true
  | _ => false

/-- What has no text in a format, and why. -/
inductive Defeats (kind : Option FormatKind) : Value → Failure → Prop
  /-- A moment whose instant lies outside the years 1 to 9999. -/
  | moment {m : Moment} {t : Int} (hkind : writesAmounts kind = false) (ht : m.instant? = some t)
      (hout : outsideCalendar t) : Defeats kind (.moment m) .dateOutOfRange
  /-- Text that is such a moment. -/
  | typedMoment {s : String} {m : Moment} {t : Int} (hkind : kind = some .date)
      (hread : Moment.read? (spellZulu (Text.trim s.toList)) = some m) (ht : m.instant? = some t)
      (hout : outsideCalendar t) : Defeats kind (.text s) .dateOutOfRange
  /-- A whole number of too many digits. -/
  | integer {n : Int} (hlong : digitLimit < digitCount n.natAbs) : Defeats kind (.int n) .integerTooLong
  /-- A value that holds such a whole number, where all that it holds is written. -/
  | inside {v : Value} (hkind : writesAmounts kind = false) (hlong : v.isShort = false) :
      Defeats kind v .integerTooLong
  /-- An amount of money that has reached the bound. -/
  | amount {v : Value} {n : Numeral} (hkind : kind = some .currency) (hread : amountOf v = .ok n)
      (hgreat : leastRefused ≤ n.size) : Defeats kind v .decimalTooGreat

theorem leastRefused_pos : 0 < leastRefused := by
  have hone : (1 : ℚ) ≤ 10 ^ workingPrecision := one_le_pow₀ (by norm_num)
  have hpos : (0 : ℚ) < 10 ^ (greatestExponent - workingPrecision) := by positivity
  have hsplit : (10 : ℚ) ^ (greatestExponent + 1) =
      10 * (10 ^ (greatestExponent - workingPrecision) * 10 ^ workingPrecision) := by
    rw [← zpow_natCast, ← zpow_add₀ (by norm_num), sub_add_cancel, zpow_add_one₀ (by norm_num), mul_comm]
  unfold leastRefused
  rw [hsplit]
  nlinarith

theorem not_defeats_null (kind : Option FormatKind) (e : Failure) : ¬ Defeats kind .null e := by
  rintro (_ | _ | _ | ⟨-, hlong⟩ | ⟨-, ⟨⟩, hgreat⟩)
  · cases hlong
  · refine absurd hgreat (not_le.mpr ?_)
    unfold Numeral.size zeroAmount
    rw [Nat.cast_zero, zero_mul]
    exact leastRefused_pos

theorem amountOf_eq_error_iff :
    amountOf v = .error e ↔ e = .integerTooLong ∧ ∃ n, v = .int n ∧ digitLimit < digitCount n.natAbs := by
  cases v with
  | int n =>
    change (integerText n).map _ = _ ↔ _
    rw [map_eq_error_iff, integerText_eq_error_iff, isShort_int_iff]
    exact and_congr_right fun _ => ⟨fun h => ⟨n, rfl, h⟩, by rintro ⟨_, ⟨⟩, h⟩; exact h⟩
  | decimal d => 
    refine iff_of_false ?_ (by rintro ⟨-, _, ⟨⟩, -⟩)
    cases d <;> exact nofun
  | _ => exact iff_of_false nofun (by rintro ⟨-, _, ⟨⟩, -⟩)

theorem numberText_eq_error_iff :
    numberText settings v = .error e ↔ Defeats (some .number) v e := by
  unfold numberText
  rw [bind_eq_error_iff, or_iff_left (by rintro ⟨_, -, ⟨⟩⟩), amountOf_eq_error_iff]
  constructor
  · rintro ⟨rfl, n, rfl, hlong⟩
    exact .integer hlong
  · rintro (⟨⟨⟩, -, -⟩ | ⟨⟨⟩, -, -, -⟩ | hlong | ⟨⟨⟩, -⟩ | ⟨⟨⟩, -, -⟩)
    exact ⟨rfl, _, rfl, hlong⟩

theorem currencyText_eq_error_iff :
    currencyText settings v = .error e ↔ Defeats (some .currency) v e := by
  have hround : ∀ n : Numeral,
      (do
        let size ← roundToPrecision ⟨false, n.coefficient, n.exponent⟩
        let text := groupedText (roundedOrSame size 2)
        let visible := !(text.all fun c => c == '0' || c == '.' || c == ',')
        let sign := if n.negative && n.coefficient != 0 && visible then "-" else ""
        .ok (sign ++ settings.currencySymbol ++ String.ofList text)) = .error e ↔
      e = .decimalTooGreat ∧ leastRefused ≤ n.size := by
    intro n
    rw [bind_eq_error_iff, or_iff_left (by rintro ⟨_, -, ⟨⟩⟩), roundToPrecision_eq_error_iff]
    rfl
  unfold currencyText
  rw [bind_eq_error_iff, amountOf_eq_error_iff]
  simp only [hround]
  constructor
  · rintro (⟨rfl, n, rfl, hlong⟩ | ⟨n, hread, rfl, hgreat⟩)
    · exact .integer hlong
    · exact .amount rfl hread hgreat
  · rintro (⟨⟨⟩, -, -⟩ | ⟨⟨⟩, -, -, -⟩ | hlong | ⟨⟨⟩, -⟩ | ⟨-, hread, hgreat⟩)
    · exact .inl ⟨rfl, _, rfl, hlong⟩
    · exact .inr ⟨_, hread, rfl, hgreat⟩

theorem plain_eq_error_iff_defeats (hamount : writesAmounts kind = false)
    (htext : kind = some .date → ∀ s, v ≠ .text s) : v.plain = .error e ↔ Defeats kind v e := by
  rw [Value.plain_eq_error_iff]
  constructor
  · rintro (⟨rfl, hlong⟩ | ⟨rfl, m, rfl, hdate⟩)
    · exact .inside hamount hlong
    · obtain ⟨t, ht, hout⟩ := Moment.utcDate?_eq_none_iff.mp hdate
      exact .moment hamount ht hout
  · rintro (⟨-, ht, hout⟩ | ⟨hkind, -, -, -⟩ | hlong | ⟨-, hlong⟩ | ⟨rfl, -, -⟩)
    · exact .inr ⟨rfl, _, rfl, Moment.utcDate?_eq_none_iff.mpr ⟨_, ht, hout⟩⟩
    · exact absurd rfl (htext hkind _)
    · exact .inl ⟨rfl, isShort_int_iff.mpr hlong⟩
    · exact .inl ⟨rfl, hlong⟩
    · cases hamount

/-- Where a value has a plain text if it has a date, its date fails to be written just if its plain text
does. -/
theorem dateText_eq_error_iff_plain {date : Option Date} (hdate : dateOf v = .ok date)
    (hplain : date ≠ none → v.plain ≠ .error e) : dateText v = .error e ↔ v.plain = .error e := by
  unfold dateText
  rw [hdate]
  cases date with
  | none => rfl
  | some d => exact iff_of_false nofun (hplain nofun)

/-- A value that is read as a moment fails to be written as a date just if the moment has none. -/
theorem dateText_eq_error_iff_moment {m : Moment} (hdate : dateOf v = dateOf (.moment m)) :
    dateText v = .error e ↔ e = .dateOutOfRange ∧ ∃ t, m.instant? = some t ∧ outsideCalendar t := by
  rw [← Moment.utcDate?_eq_none_iff]
  unfold dateText
  rw [hdate]
  cases hutc : m.utcDate? with
  | some d =>
    have hmoment : dateOf (.moment m) = .ok (some d) := by simp only [dateOf, hutc]
    rw [hmoment]
    exact iff_of_false nofun fun h => nomatch h.2
  | none =>
    have hmoment : dateOf (.moment m) = .error .dateOutOfRange := by simp only [dateOf, hutc]
    rw [hmoment]
    exact ⟨fun h => ⟨(Except.error.inj h).symm, rfl⟩, fun h => h.1 ▸ rfl⟩

theorem dateText_text_eq_error_iff {s : String} :
    dateText (.text s) = .error e ↔ Defeats (some .date) (.text s) e := by
  cases hread : Moment.read? (spellZulu (Text.trim s.toList)) with
  | none =>
    have hdate : dateOf (.text s) = .ok none := by simp only [dateOf, hread]
    rw [dateText_eq_error_iff_plain hdate nofun]
    refine iff_of_false nofun ?_
    rintro (_ | ⟨-, h, -, -⟩ | _ | ⟨-, hlong⟩ | ⟨⟨⟩, -, -⟩)
    · cases hread.symm.trans h
    · cases hlong
  | some m =>
    have hdate : dateOf (.text s) = dateOf (.moment m) := by simp only [dateOf, hread]
    rw [dateText_eq_error_iff_moment hdate]
    constructor
    · rintro ⟨rfl, t, ht, hout⟩
      exact .typedMoment rfl hread ht hout
    · rintro (_ | ⟨-, h, ht, hout⟩ | _ | ⟨-, hlong⟩ | ⟨⟨⟩, -, -⟩)
      · obtain rfl := Option.some.inj (hread.symm.trans h)
        exact ⟨rfl, _, ht, hout⟩
      · cases hlong

theorem dateText_eq_error_iff : dateText v = .error e ↔ Defeats (some .date) v e := by
  have hplain : (∀ s, v ≠ .text s) → (v.plain = .error e ↔ Defeats (some .date) v e) := fun htext =>
    plain_eq_error_iff_defeats rfl fun _ => htext
  cases v with
  | text s => exact dateText_text_eq_error_iff
  | moment m =>
    rw [dateText_eq_error_iff_moment rfl]
    constructor
    · rintro ⟨rfl, t, ht, hout⟩
      exact .moment rfl ht hout
    · rintro (⟨-, ht, hout⟩ | _ | _ | ⟨-, hlong⟩ | ⟨⟨⟩, -, -⟩)
      · exact ⟨rfl, _, ht, hout⟩
      · cases hlong
  | int n =>
    rw [← hplain nofun]
    by_cases hlong : digitLimit < digitCount n.natAbs
    · exact dateText_eq_error_iff_plain (dateOf_of_long hlong) (absurd rfl)
    · refine dateText_eq_error_iff_plain rfl fun _ herror => ?_
      rcases Value.plain_eq_error_iff.mp herror with ⟨-, hshort⟩ | ⟨-, _, ⟨⟩, -⟩
      exact hlong (isShort_int_iff.mp hshort)
  | float _ | date _ => exact (dateText_eq_error_iff_plain rfl fun _ h => by cases h).trans (hplain nofun)
  | _ => exact (dateText_eq_error_iff_plain rfl (absurd rfl)).trans (hplain nofun)

theorem not_writesAmounts (hcurrency : kind ≠ some .currency) (hnumber : kind ≠ some .number) :
    writesAmounts kind = false := by
  rcases kind with _ | kind
  · rfl
  · cases kind <;> simp_all [writesAmounts]

theorem formatValue_eq_error_iff :
    formatValue settings v kind = .error e ↔ Defeats kind v e := by
  unfold formatValue
  split
  · next hnull =>
    cases v with
    | null => exact iff_of_false nofun (not_defeats_null kind e)
    | _ => cases hnull
  · split
    · exact currencyText_eq_error_iff
    · exact numberText_eq_error_iff
    · exact dateText_eq_error_iff
    · next hcurrency hnumber hdate =>
      exact plain_eq_error_iff_defeats (not_writesAmounts hcurrency hnumber) fun h => absurd h hdate

/-- A value has a text in a format, unless it is one of those. -/
theorem formatValue_fails_iff (settings : FormatSettings) (v : Value) (format : Option String) :
    (∀ e, formatValue settings v (format.bind FormatKind.named?) = .error e ↔
      Defeats (format.bind FormatKind.named?) v e) ∧
    ((∃ s, formatValue settings v (format.bind FormatKind.named?) = .ok s) ↔
      ∀ e, ¬ Defeats (format.bind FormatKind.named?) v e) := by
  have hfails : ∀ e, formatValue settings v (format.bind FormatKind.named?) = .error e ↔
      Defeats (format.bind FormatKind.named?) v e := fun e => formatValue_eq_error_iff
  refine ⟨hfails, ?_⟩
  simp only [← hfails]
  cases formatValue settings v (format.bind FormatKind.named?) with
  | ok s => exact iff_of_true ⟨s, rfl⟩ nofun
  | error e => exact iff_of_false nofun fun h => h e rfl

/-- The last half hour of the calendar, two hours behind universal time, is not written as a date. -/
theorem last_moment_has_no_date :
    formatValue .standard (.text "9999-12-31T23:30:00-02:00") ((some "date").bind FormatKind.named?) =
      .error .dateOutOfRange := by
  decide +kernel

end DocTemplate
