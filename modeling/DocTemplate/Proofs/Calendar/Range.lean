import DocTemplate.Calendar.Moment

/-!
# The days that have a date

Every day of the years 1 to 9999 has a date, and no other day has one. A moment that names an instant has
a date in universal time under the same condition (`utcDate?_eq_none_iff`).
-/

namespace DocTemplate.Calendar

/-! ## Years -/

/-- Every year of a long cycle begins where the cycles that are taken off end. -/
theorem daysBeforeYear_cycles {a b c d : Nat} (hb : b ≤ 3) (hc : c ≤ 24) (hd : d ≤ 3) :
    daysBeforeYear (400 * a + 100 * b + 4 * c + d + 1) = 146097 * a + 36524 * b + 1461 * c + 365 * d := by
  unfold daysBeforeYear
  simp only [Nat.add_sub_cancel]
  omega

/-- The last of four years has a day more, unless a cycle of 100 years alone ends with it. -/
theorem isLeap_last {a b c : Nat} (hc : c < 24 ∨ c = 24 ∧ b = 3) :
    isLeap (400 * a + 100 * b + 4 * c + 3 + 1) = true := by
  have hfour : (400 * a + 100 * b + 4 * c + 3 + 1) % 4 = 0 := by omega
  unfold isLeap
  rw [hfour]
  rcases hc with hc | ⟨rfl, rfl⟩
  · have hhundred : (400 * a + 100 * b + 4 * c + 3 + 1) % 100 ≠ 0 := by omega
    rw [bne_iff_ne.mpr hhundred]
    rfl
  · have hall : (400 * a + 100 * 3 + 4 * 24 + 3 + 1) % 400 = 0 := by omega
    rw [hall, beq_self_eq_true, Bool.or_true]
    rfl

/-- The day lies in the year that is found for it. -/
theorem yearOfDay_spec {n : Nat} (hn : 1 ≤ n) :
    daysBeforeYear (yearOfDay n) < n ∧
      n ≤ daysBeforeYear (yearOfDay n) + if isLeap (yearOfDay n) then 366 else 365 := by
  obtain ⟨a, ha⟩ : ∃ a, a = (n - 1) / 146097 := ⟨_, rfl⟩
  obtain ⟨r, hr⟩ : ∃ r, r = (n - 1) % 146097 := ⟨_, rfl⟩
  obtain ⟨b, hb⟩ : ∃ b, b = min (r / 36524) 3 := ⟨_, rfl⟩
  obtain ⟨c, hc⟩ : ∃ c, c = (r - b * 36524) / 1461 := ⟨_, rfl⟩
  obtain ⟨q, hq⟩ : ∃ q, q = (r - b * 36524) % 1461 := ⟨_, rfl⟩
  obtain ⟨d, hd⟩ : ∃ d, d = min (q / 365) 3 := ⟨_, rfl⟩
  have hyear : yearOfDay n = 400 * a + 100 * b + 4 * c + d + 1 := by
    simp only [yearOfDay, ← ha, ← hr, ← hb, ← hc, ← hq, ← hd]
  have hn' : n = 146097 * a + r + 1 := by omega
  have hrest : r = 36524 * b + 1461 * c + q := by omega
  have hdays := daysBeforeYear_cycles (a := a) (b := b) (c := c) (d := d) (by omega) (by omega) (by omega)
  rw [hyear, hdays]
  refine ⟨by omega, ?_⟩
  by_cases hlast : q = 1460
  · obtain rfl : d = 3 := by omega
    rw [if_pos (isLeap_last (by omega))]
    omega
  · have hday : q < 365 * d + 365 := by omega
    split <;> omega

theorem yearOfDay_le {n : Nat} (hn : n ≤ lastDayNumber) : yearOfDay n ≤ 9999 := by
  unfold lastDayNumber at hn
  unfold yearOfDay
  simp only
  omega

/-! ## Months -/

theorem daysBeforeMonth_end (year : Nat) :
    daysBeforeMonth year 13 = if isLeap year then 366 else 365 := by
  simp only [daysBeforeMonth, daysInMonth]
  split <;> rfl

/-- Counting on from a month ends in a month of the year, as long as the year has the day. -/
theorem monthDay_spec (year : Nat) : ∀ fuel month day : Nat, month + fuel = 13 → 1 ≤ month → 1 ≤ day →
    day + daysBeforeMonth year month ≤ daysBeforeMonth year 13 →
    ∃ m d, monthDay year fuel month day = (m, d) ∧ 1 ≤ m ∧ m ≤ 12 ∧ 1 ≤ d ∧ d ≤ daysInMonth year m := by
  intro fuel
  induction fuel with
  | zero =>
    intro month day hfuel _ hday hyear
    obtain rfl : month = 13 := hfuel
    omega
  | succ fuel ih =>
    intro month day hfuel hmonth hday hyear
    unfold monthDay
    split
    · next hfits => exact ⟨month, day, rfl, hmonth, by omega, hday, hfits⟩
    · next hlong =>
      obtain ⟨month, rfl⟩ := Nat.exists_eq_add_of_le' hmonth
      have hnext : daysBeforeMonth year (month + 1 + 1) =
          daysBeforeMonth year (month + 1) + daysInMonth year (month + 1) := rfl
      exact ih _ _ (by omega) (by omega) (by omega) (by omega)

/-! ## Days and moments -/

/-- A day has a date just if it lies in the years 1 to 9999. -/
theorem ofDayNumber?_eq_none_iff {n : Int} : Date.ofDayNumber? n = none ↔ n < 1 ∨ lastDayNumber < n := by
  unfold Date.ofDayNumber?
  split
  · next hin =>
    refine iff_of_false ?_ (by omega)
    obtain ⟨k, rfl⟩ := Int.eq_ofNat_of_zero_le (by omega : 0 ≤ n)
    obtain ⟨hfirst, hlast⟩ := yearOfDay_spec (n := k) (by omega)
    rw [← daysBeforeMonth_end] at hlast
    obtain ⟨m, d, hmd, hm, hm', hd, hd'⟩ := monthDay_spec (yearOfDay k) 12 1
      (k - daysBeforeYear (yearOfDay k)) rfl (by omega) (by omega) (by rw [daysBeforeMonth]; omega)
    have hyear := yearOfDay_le (n := k) (by omega)
    have hdate : isDate (yearOfDay k) m d = true := by
      simp only [isDate, Bool.and_eq_true, decide_eq_true_eq]
      exact ⟨⟨⟨⟨⟨Nat.succ_pos _, hyear⟩, hm⟩, hm'⟩, hd⟩, hd'⟩
    simp only [Int.toNat_natCast, hmd, Date.ofNumbers?, dif_pos hdate]
    exact nofun
  · next hout => exact iff_of_true rfl (by omega)

/-- The instants that have no date: those before the first day and those after the last one. -/
def outsideCalendar (t : Int) : Prop := t < dayLength ∨ (lastDayNumber + 1) * dayLength ≤ t

theorem dateOfInstant?_eq_none_iff {t : Int} : dateOfInstant? t = none ↔ outsideCalendar t := by
  unfold dateOfInstant? outsideCalendar dayLength lastDayNumber
  rw [ofDayNumber?_eq_none_iff]
  unfold lastDayNumber
  omega

/-- A moment has no date in universal time just if its instant lies outside the years 1 to 9999. -/
theorem Moment.utcDate?_eq_none_iff {m : Moment} :
    m.utcDate? = none ↔ ∃ t, m.instant? = some t ∧ outsideCalendar t := by
  unfold Moment.utcDate?
  cases m.instant? with
  | none => exact iff_of_false nofun (by rintro ⟨t, ht, -⟩; cases ht)
  | some t =>
    simp only [dateOfInstant?_eq_none_iff]
    exact ⟨fun h => ⟨t, rfl, h⟩, by rintro ⟨_, ⟨⟩, h⟩; exact h⟩

end DocTemplate.Calendar
