import DocTemplate.Proofs.Calendar.Range
import DocTemplate.Proofs.Number.Digits

/-!
# Counting days

The number of a date is what one counts to, day after day, from the first of January of year 1 on (`counts_iff`). An
earlier date has a smaller number, and the texts of dates have the same order.
-/

namespace DocTemplate.Calendar

open DocTemplate.Number

/-! ## The date of a number -/

/-- Counting on from a month does not lose a day. -/
theorem monthDay_value (year : Nat) {fuel month day m d : Nat} (hmonth : 1 ≤ month)
    (h : monthDay year fuel month day = (m, d)) :
    daysBeforeMonth year m + d = daysBeforeMonth year month + day := by
  induction fuel generalizing month day with
  | zero =>
    cases h
    rfl
  | succ fuel ih =>
    rw [monthDay] at h
    split at h
    · cases h
      rfl
    · next hlong =>
      obtain ⟨month, rfl⟩ := Nat.exists_eq_add_of_le' hmonth
      rw [ih (by omega) h, daysBeforeMonth]
      omega

/-- The date that is found for a number has the number. -/
theorem dayNumber_of_ofDayNumber? {n : Int} {d : Date} (h : Date.ofDayNumber? n = some d) : d.dayNumber = n := by
  unfold Date.ofDayNumber? at h
  split at h
  · next hin =>
    obtain ⟨k, rfl⟩ := Int.eq_ofNat_of_zero_le (by omega : 0 ≤ n)
    have hfirst := (yearOfDay_spec (n := k) (by omega)).1
    obtain ⟨m, day, hday⟩ : ∃ m day, monthDay (yearOfDay k) 12 1 (k - daysBeforeYear (yearOfDay k)) = (m, day) :=
      ⟨_, _, rfl⟩
    have hvalue := monthDay_value (yearOfDay k) Nat.le.refl hday
    simp only [Int.toNat_natCast, hday, Date.ofNumbers?] at h
    split at h
    · cases h
      rw [daysBeforeMonth] at hvalue
      change ((daysBeforeYear (yearOfDay k) + daysBeforeMonth (yearOfDay k) m + day : Nat) : Int) = k
      omega
    · cases h
  · cases h

/-! ## The order of dates -/

theorem daysInMonth_bounds (year month : Nat) : 1 ≤ daysInMonth year month ∧ daysInMonth year month ≤ 31 := by
  unfold daysInMonth
  split
  · split <;> decide
  all_goals decide

theorem isDate_iff {year month day : Nat} : isDate year month day = true ↔
    1 ≤ year ∧ year ≤ 9999 ∧ 1 ≤ month ∧ month ≤ 12 ∧ 1 ≤ day ∧ day ≤ daysInMonth year month := by
  simp only [isDate, Bool.and_eq_true, decide_eq_true_eq, and_assoc]

theorem Date.bounds (d : Date) : 1 ≤ d.year ∧ d.year ≤ 9999 ∧ 1 ≤ d.month ∧ d.month ≤ 12 ∧ 1 ≤ d.day ∧
    d.day ≤ daysInMonth d.year d.month := isDate_iff.mp d.exists_

theorem isLeap_iff {year : Nat} : isLeap year = true ↔ 4 ∣ year ∧ (¬100 ∣ year ∨ 400 ∣ year) := by
  simp only [isLeap, Bool.and_eq_true, Bool.or_eq_true, beq_iff_eq, bne_iff_ne, ne_eq, Nat.dvd_iff_mod_eq_zero]

theorem daysBeforeYear_succ {year : Nat} (h : 1 ≤ year) :
    daysBeforeYear (year + 1) = daysBeforeYear year + daysBeforeMonth year 13 := by
  obtain ⟨y, rfl⟩ := Nat.exists_eq_add_of_le' h
  have hcentury : y / 100 ≤ y := Nat.div_le_self y 100
  rw [daysBeforeMonth_end, daysBeforeYear, daysBeforeYear]
  simp only [Nat.add_sub_cancel, Nat.succ_div, isLeap_iff]
  by_cases hfour : 4 ∣ y + 1
  · by_cases hhundred : 100 ∣ y + 1
    · by_cases hall : 400 ∣ y + 1
      · simp only [hfour, hhundred, hall, if_true, or_true, and_true]
        omega
      · simp only [hfour, hhundred, hall, if_true, if_false, not_true, or_false, and_false]
        omega
    · have hall : ¬400 ∣ y + 1 := fun hall => hhundred (Nat.dvd_trans (by decide) hall)
      simp only [hfour, hhundred, hall, if_true, if_false, not_false_iff, true_or, and_true]
      omega
  · have hhundred : ¬100 ∣ y + 1 := fun hhundred => hfour (Nat.dvd_trans (by decide) hhundred)
    have hall : ¬400 ∣ y + 1 := fun hall => hhundred (Nat.dvd_trans (by decide) hall)
    simp only [hfour, hhundred, hall, if_false, false_and]
    omega

theorem daysBeforeYear_mono {y z : Nat} (hy : 1 ≤ y) (h : y ≤ z) : daysBeforeYear y ≤ daysBeforeYear z := by
  induction h with
  | refl => exact Nat.le_refl _
  | @step z hyz ih =>
    rw [Nat.succ_eq_add_one, daysBeforeYear_succ (hy.trans hyz)]
    omega

theorem daysBeforeMonth_succ (year : Nat) {month : Nat} (h : 1 ≤ month) :
    daysBeforeMonth year (month + 1) = daysBeforeMonth year month + daysInMonth year month := by
  obtain ⟨month, rfl⟩ := Nat.exists_eq_add_of_le' h
  rfl

theorem daysBeforeMonth_mono (year : Nat) {m n : Nat} (h : m ≤ n) :
    daysBeforeMonth year m ≤ daysBeforeMonth year n := by
  induction h with
  | refl => exact Nat.le_refl _
  | @step n _ ih =>
    cases n with
    | zero => exact ih
    | succ n =>
      rw [daysBeforeMonth]
      omega

/-- A date is earlier than another one by its year, its month or its day. -/
def Date.Earlier (d e : Date) : Prop :=
  d.year < e.year ∨ d.year = e.year ∧ (d.month < e.month ∨ d.month = e.month ∧ d.day < e.day)

theorem dayNumber_le (d : Date) : d.dayNumber ≤ daysBeforeYear d.year + daysBeforeMonth d.year (d.month + 1) := by
  obtain ⟨-, -, hmonth, -, -, hday⟩ := d.bounds
  have hnext := daysBeforeMonth_succ d.year hmonth
  unfold Date.dayNumber
  omega

/-- An earlier date has a smaller number. -/
theorem Date.Earlier.dayNumber_lt {d e : Date} (h : d.Earlier e) : d.dayNumber < e.dayNumber := by
  have hle := dayNumber_le d
  obtain ⟨hyear, -, -, hmonth, -, -⟩ := d.bounds
  obtain ⟨-, -, -, -, hday, -⟩ := e.bounds
  rcases h with hless | ⟨hsame, hless | ⟨hmonths, hless⟩⟩
  · have hnext : daysBeforeYear (d.year + 1) ≤ daysBeforeYear e.year := daysBeforeYear_mono (by omega) hless
    rw [daysBeforeYear_succ hyear] at hnext
    have hmonths : daysBeforeMonth d.year (d.month + 1) ≤ daysBeforeMonth d.year 13 :=
      daysBeforeMonth_mono d.year (by omega)
    unfold Date.dayNumber at hle ⊢
    omega
  · have hmonths : daysBeforeMonth d.year (d.month + 1) ≤ daysBeforeMonth d.year e.month :=
      daysBeforeMonth_mono d.year hless
    unfold Date.dayNumber at hle ⊢
    rw [← hsame]
    omega
  · unfold Date.dayNumber
    rw [← hsame, ← hmonths]
    omega

theorem Date.earlier_or_eq_or_earlier (d e : Date) : d.Earlier e ∨ d = e ∨ e.Earlier d := by
  by_cases hsame : d.year = e.year ∧ d.month = e.month ∧ d.day = e.day
  · obtain ⟨hyear, hmonth, hday⟩ := hsame
    cases d
    cases e
    cases hyear
    cases hmonth
    cases hday
    exact .inr (.inl rfl)
  · unfold Earlier
    omega

/-! ## Day after day -/

/-- The day after a day is the next one of its month. After the last day of a month comes the first one of the next
month, and after the last month the first one of the next year. -/
def Date.IsNext (d e : Date) : Prop :=
  e.year = d.year ∧ e.month = d.month ∧ e.day = d.day + 1 ∨
    d.day = daysInMonth d.year d.month ∧ e.day = 1 ∧
      (e.year = d.year ∧ e.month = d.month + 1 ∨ d.month = 12 ∧ e.year = d.year + 1 ∧ e.month = 1)

/-- Days are counted one after the other from the first of January of year 1 on. -/
inductive Counts : Date → Nat → Prop
  | first : Counts ⟨1, 1, 1, rfl⟩ 1
  | next {d e : Date} {n : Nat} : Counts d n → d.IsNext e → Counts e (n + 1)

theorem Date.IsNext.dayNumber_eq {d e : Date} (h : d.IsNext e) : e.dayNumber = d.dayNumber + 1 := by
  obtain ⟨hyear, -, hmonth, -, -, -⟩ := d.bounds
  have hnext := daysBeforeMonth_succ d.year hmonth
  unfold dayNumber
  rcases h with ⟨hyears, hmonths, hdays⟩ | ⟨hlast, hfirst, ⟨hyears, hmonths⟩ | ⟨hdecember, hyears, hmonths⟩⟩
  · rw [hyears, hmonths, hdays]
    omega
  · rw [hyears, hmonths, hfirst]
    omega
  · have hend : daysBeforeMonth d.year 13 = daysBeforeMonth d.year 12 + daysInMonth d.year 12 := rfl
    rw [hyears, hmonths, hfirst, daysBeforeYear_succ hyear, daysBeforeMonth]
    rw [hdecember] at hlast ⊢
    omega

/-- Every day but the first one comes after another day. -/
theorem Date.exists_isNext (d : Date) : d = ⟨1, 1, 1, rfl⟩ ∨ ∃ e : Date, e.IsNext d := by
  obtain ⟨hyear, hyear', hmonth, hmonth', hday, hday'⟩ := d.bounds
  by_cases hfirst : d.day = 1
  · by_cases hjanuary : d.month = 1
    · by_cases hstart : d.year = 1
      · left
        cases d
        cases hstart
        cases hjanuary
        cases hfirst
        rfl
      · have hlong : daysInMonth (d.year - 1) 12 = 31 := rfl
        have hdecember : isDate (d.year - 1) 12 31 = true := isDate_iff.mpr (by omega)
        exact .inr ⟨⟨d.year - 1, 12, 31, hdecember⟩, .inr ⟨rfl, hfirst, .inr ⟨rfl, by dsimp only; omega, hjanuary⟩⟩⟩
    · have hpositive := daysInMonth_bounds d.year (d.month - 1)
      have hlast : isDate d.year (d.month - 1) (daysInMonth d.year (d.month - 1)) = true := isDate_iff.mpr (by omega)
      exact .inr ⟨⟨d.year, d.month - 1, _, hlast⟩, .inr ⟨rfl, hfirst, .inl ⟨rfl, by dsimp only; omega⟩⟩⟩
  · have hbefore : isDate d.year d.month (d.day - 1) = true := isDate_iff.mpr (by omega)
    exact .inr ⟨⟨d.year, d.month, d.day - 1, hbefore⟩, .inl ⟨rfl, rfl, by dsimp only; omega⟩⟩

/-- The number of a date is what the days are counted to. -/
theorem counts_iff {d : Date} {n : Nat} : Counts d n ↔ d.dayNumber = n := by
  constructor
  · intro h
    induction h with
    | first => rfl
    | next _ hnext ih => rw [hnext.dayNumber_eq, ih]
  · intro h
    induction n generalizing d with
    | zero =>
      have := d.bounds
      unfold Date.dayNumber at h
      omega
    | succ n ih =>
      rcases d.exists_isNext with rfl | ⟨e, hnext⟩
      · rw [← h]
        exact .first
      · have hcount := hnext.dayNumber_eq
        exact .next (ih (by omega)) hnext

/-! ## Instants -/

/-- What instant a moment names: the days are counted to its date, one after the other, then the time is counted, and
the offset is taken off. -/
def Moment.IsAt (m : Moment) (t : Int) : Prop :=
  ∃ n o, Counts m.date n ∧ m.offset = some o ∧ t = n * dayLength + m.time - o

theorem isAt_iff {m : Moment} {t : Int} : m.IsAt t ↔ m.instant? = some t := by
  rw [Moment.instant?, Moment.localTime, Option.map_eq_some_iff]
  constructor
  · intro h
    obtain ⟨n, o, hcount, hoffset, ht⟩ := h
    rw [counts_iff.mp hcount]
    exact ⟨o, hoffset, ht.symm⟩
  · intro h
    obtain ⟨o, hoffset, ht⟩ := h
    exact ⟨m.date.dayNumber, o, counts_iff.mpr rfl, hoffset, ht.symm⟩

/-- An instant of the calendar is a time of a date in universal time. -/
theorem exists_universal {t : Int} (h : ¬outsideCalendar t) :
    ∃ u : Moment, u.offset = some 0 ∧ u.IsAt t ∧ dateOfInstant? t = some u.date := by
  cases hdate : dateOfInstant? t with
  | none => exact absurd (dateOfInstant?_eq_none_iff.mp hdate) h
  | some d =>
    have hday := dayNumber_of_ofDayNumber? hdate
    have hrest := Int.emod_nonneg t (by decide : (dayLength : Int) ≠ 0)
    have hless := Int.emod_lt_of_pos t (by decide : (0 : Int) < dayLength)
    refine ⟨⟨d, (t % dayLength).toNat, some 0, by omega, fun o ho => ?_⟩, rfl, ?_, rfl⟩
    · cases ho
      decide
    · refine ⟨d.dayNumber, 0, counts_iff.mpr rfl, rfl, ?_⟩
      rw [hday, Int.toNat_of_nonneg hrest, Int.sub_zero, Int.mul_comm]
      exact (Int.mul_ediv_add_emod t dayLength).symm

theorem dayNumber_of_dateOfInstant? {t : Int} {d : Date} (h : dateOfInstant? t = some d) :
    (d.dayNumber : Int) = t / dayLength := dayNumber_of_ofDayNumber? h

theorem utcDate?_of_isAt {m : Moment} {t : Int} (h : m.IsAt t) : m.utcDate? = dateOfInstant? t := by
  rw [Moment.utcDate?, isAt_iff.mp h]

/-! ## The order of texts -/

/-- Digits come in the order of their values. -/
theorem digit_lt_or_eq {a b : Char} (hb : b.isDigit) (h : a.toNat - '0'.toNat ≤ b.toNat - '0'.toNat) :
    a < b ∨ a = b := by
  have hleast := (Char.isDigit_iff_toNat.mp hb).1
  have hvalues : a.toNat ≤ b.toNat := by
    have hzero : '0'.toNat = 48 := rfl
    omega
  exact (Nat.lt_or_eq_of_le hvalues).imp (fun hless => Char.lt_def.mpr (UInt32.lt_iff_toNat_lt.mpr hless))
    Char.toNat_inj.mp

/-- Of runs of digits of one length, the one that writes the smaller number comes first. -/
theorem lt_of_runValue_lt {as bs : List Char} (hbs : ∀ c ∈ bs, c.isDigit) (hlength : as.length = bs.length)
    (h : runValue as < runValue bs) : as < bs := by
  induction as generalizing bs with
  | nil =>
    rw [List.eq_nil_of_length_eq_zero hlength.symm] at h
    exact absurd h (Nat.lt_irrefl _)
  | cons a as ih =>
    cases bs with
    | nil => cases hlength
    | cons b bs =>
      obtain ⟨hb, hbs⟩ := List.forall_mem_cons.mp hbs
      have hlength : as.length = bs.length := Nat.succ.inj hlength
      have hrest := runValue_lt hbs
      rw [runValue_cons, runValue_cons, ← hlength] at h
      rw [← hlength] at hrest
      have hdigits : a.toNat - '0'.toNat ≤ b.toNat - '0'.toNat := by
        apply Nat.le_of_not_lt
        intro hmore
        have := Nat.mul_le_mul_right (10 ^ as.length) (Nat.succ_le_of_lt hmore)
        rw [Nat.succ_mul] at this
        omega
      rw [List.cons_lt_cons_iff]
      refine (digit_lt_or_eq hb hdigits).imp_right fun hsame => ⟨hsame, ih hbs hlength ?_⟩
      rw [hsame] at h
      exact Nat.lt_of_add_lt_add_left h

/-- What differs first decides how texts compare, whatever stands behind it. -/
theorem append_lt_append {as bs : List Char} (hlength : as.length = bs.length) (h : as < bs) (xs ys : List Char) :
    as ++ xs < bs ++ ys := by
  induction as generalizing bs with
  | nil =>
    rw [List.eq_nil_of_length_eq_zero hlength.symm] at h
    exact absurd h (List.lt_irrefl _)
  | cons a as ih =>
    cases bs with
    | nil => cases hlength
    | cons b bs =>
      rw [List.cons_append, List.cons_append, List.cons_lt_cons_iff]
      exact (List.cons_lt_cons_iff.mp h).imp_right (And.imp_right (ih (Nat.succ.inj hlength)))

/-! ## Numbers of a fixed width -/

theorem padded_eq (width n : Nat) : padded width n = zeros (width - (decimalDigits n).length) ++ decimalDigits n := rfl

theorem length_padded {width n : Nat} (hwidth : 0 < width) (h : n < 10 ^ width) : (padded width n).length = width := by
  have hfits : (decimalDigits n).length ≤ width := (Nat.length_toDigits_le_iff (by decide) hwidth).mpr h
  rw [padded_eq, List.length_append, length_zeros]
  omega

theorem isDigit_of_mem_padded {width n : Nat} {c : Char} (h : c ∈ padded width n) : c.isDigit := by
  rw [padded_eq, List.mem_append] at h
  cases h with
  | inl hzero =>
    rw [List.eq_of_mem_replicate hzero]
    rfl
  | inr hdigit => exact isDigit_of_mem_decimalDigits hdigit

theorem runValue_padded (width n : Nat) : runValue (padded width n) = n := by
  rw [padded_eq, runValue_append, runValue_zeros, runValue_decimalDigits, Nat.zero_mul, Nat.zero_add]

/-- Texts that begin with numbers of one width compare as the numbers do, if these differ. -/
theorem padded_append_lt {width m n : Nat} (hwidth : 0 < width) (h : m < n) (hn : n < 10 ^ width) (xs ys : List Char) :
    padded width m ++ xs < padded width n ++ ys := by
  have hlength : (padded width m).length = (padded width n).length := by
    rw [length_padded hwidth (h.trans hn), length_padded hwidth hn]
  refine append_lt_append hlength ?_ xs ys
  refine lt_of_runValue_lt (fun _ => isDigit_of_mem_padded) hlength ?_
  rw [runValue_padded, runValue_padded]
  exact h

/-! ## The texts of dates -/

/-- The digits that a date has in its text suffice for its numbers. -/
theorem Date.fits (d : Date) : d.year < 10 ^ 4 ∧ d.month < 10 ^ 2 ∧ d.day < 10 ^ 2 := by
  obtain ⟨-, hyear, -, hmonth, -, hday⟩ := d.bounds
  have hlength := daysInMonth_bounds d.year d.month
  omega

theorem Date.text_eq (d : Date) :
    d.text = padded 4 d.year ++ '-' :: (padded 2 d.month ++ '-' :: padded 2 d.day) := by
  rw [Date.text, List.append_assoc, List.cons_append]

/-- The text of an earlier date comes first. -/
theorem Date.Earlier.text_lt {d e : Date} (h : d.Earlier e) : d.text < e.text := by
  obtain ⟨hyear, hmonth, hday⟩ := e.fits
  rw [d.text_eq, e.text_eq]
  rcases h with hless | ⟨hsame, hless | ⟨hsame', hless⟩⟩
  · exact padded_append_lt (by decide) hless hyear _ _
  · rw [hsame]
    apply List.append_left_lt
    rw [List.cons_lt_cons_self]
    exact padded_append_lt (by decide) hless hmonth _ _
  · rw [hsame, hsame']
    apply List.append_left_lt
    rw [List.cons_lt_cons_self]
    apply List.append_left_lt
    rw [List.cons_lt_cons_self]
    have hdays : padded 2 d.day ++ [] < padded 2 e.day ++ [] := padded_append_lt (by decide) hless hday [] []
    rwa [List.append_nil, List.append_nil] at hdays

/-- The texts of dates come in the order of the dates. -/
theorem text_le_of_dayNumber_le {d e : Date} (h : d.dayNumber ≤ e.dayNumber) :
    String.ofList d.text ≤ String.ofList e.text := by
  rw [← String.not_lt, String.lt_iff, String.toList_ofList, String.toList_ofList]
  rcases d.earlier_or_eq_or_earlier e with hless | rfl | hmore
  · exact List.lt_asymm hless.text_lt
  · exact List.lt_irrefl _
  · exact absurd hmore.dayNumber_lt (Nat.not_lt_of_le h)

end DocTemplate.Calendar
