import DocTemplate.Format.Basic
import DocTemplate.Proofs.Calendar.Typed

/-!
# Dates of moments

A moment with an offset shows as the date of its instant in universal time, be it shown plainly, in the format of
dates, or typed in full first. Later instants do not show smaller texts.
-/

namespace DocTemplate

open DocTemplate.Calendar DocTemplate.Number DocTemplate.Text

/-! ## Typed moments -/

theorem spellZulu_zulu (cs : List Char) : spellZulu (cs ++ ['Z']) = cs ++ signedText false 0 0 := by
  rw [spellZulu, List.getLast?_concat, if_pos rfl, List.dropLast_concat]
  rfl

theorem spellZulu_signed (cs : List Char) (negative : Bool) (hours : Nat) {minutes : Nat} (h : minutes < 60) :
    spellZulu (cs ++ signedText negative hours minutes) = cs ++ signedText negative hours minutes := by
  have hlength : (padded 2 minutes).length = 2 := length_padded (by decide) (by omega)
  have hne : padded 2 minutes ≠ [] := List.ne_nil_of_length_pos (by omega)
  refine if_neg fun hlast => ?_
  rw [signedText, ← List.cons_append, List.append_cons, ← List.append_assoc,
    List.getLast?_append_of_ne_nil _ hne] at hlast
  obtain ⟨-, hother⟩ := isTyped_of_isDigit (isDigit_of_mem_padded (List.mem_of_getLast? hlast))
  exact hother (by decide)

/-- A moment is read as it is from its text with any text of its offset. -/
theorem read?_typed {m : Moment} {o : Int} {zone : List Char} (h : m.offset = some o) (hzone : IsZone o zone) :
    Moment.read? (spellZulu (trim (m.typed zone))) = some m := by
  rw [trim_eq_self fun c hc => (m.isTyped_typed hzone c hc).2]
  cases hzone with
  | zulu =>
    rw [Moment.typed, ← List.cons_append, ← List.append_assoc, spellZulu_zulu, List.append_assoc, List.cons_append]
    exact read?_signed (by decide) (by decide) h
  | @signed negative hours minutes hhours hminutes =>
    rw [Moment.typed, ← List.cons_append, ← List.append_assoc, spellZulu_signed _ _ _ hminutes, List.append_assoc,
      List.cons_append]
    exact read?_signed hhours hminutes h

/-! ## The date that shows -/

/-- The text that a moment shows as: plainly, as a date, and as a date after it is typed. -/
structure ShowsAs (m : Moment) (s : String) : Prop where
  plain : (Value.moment m).plain = .ok s
  formatted : ∀ settings, formatValue settings (.moment m) (some .date) = .ok s
  typed : ∀ settings o zone, m.offset = some o → IsZone o zone →
    formatValue settings (.text (String.ofList (m.typed zone))) (some .date) = .ok s

theorem showsAs_of_utcDate? {m : Moment} {d : Date} (h : m.utcDate? = some d) : ShowsAs m (String.ofList d.text) where
  plain := by
    rw [Value.plain, h]
  formatted settings := by
    change dateText (.moment m) = _
    rw [dateText, dateOf, h]
    rfl
  typed settings o zone ho hzone := by
    change dateText (.text (String.ofList (m.typed zone))) = _
    rw [dateText, dateOf, String.toList_ofList, read?_typed ho hzone]
    simp only [h]
    rfl

/-- A moment with an offset, whose instant has a date, shows as the date that the same instant has in universal
time. The texts of moments are in the order of their instants. -/
theorem moment_shows_universal_date {m : Moment} {t : Int} (hinstant : m.IsAt t) (hinside : ¬outsideCalendar t) :
    ∃ u : Moment, u.offset = some 0 ∧ u.IsAt t ∧ ShowsAs m (String.ofList u.date.text) ∧
      ∀ later t', later.IsAt t' → t ≤ t' → ¬outsideCalendar t' →
        ∃ s, ShowsAs later s ∧ String.ofList u.date.text ≤ s ∧ (t' = t → s = String.ofList u.date.text) := by
  obtain ⟨u, hzulu, hsame, hdate⟩ := exists_universal hinside
  refine ⟨u, hzulu, hsame, showsAs_of_utcDate? (by rw [utcDate?_of_isAt hinstant, hdate]), ?_⟩
  intro later t' hinstant' hle hinside'
  obtain ⟨u', -, -, hdate'⟩ := exists_universal hinside'
  refine ⟨_, showsAs_of_utcDate? (by rw [utcDate?_of_isAt hinstant', hdate']), ?_, ?_⟩
  · apply text_le_of_dayNumber_le
    have hdays : t / dayLength ≤ t' / dayLength := Int.ediv_le_ediv (by decide) hle
    rw [← dayNumber_of_dateOfInstant? hdate, ← dayNumber_of_dateOfInstant? hdate'] at hdays
    exact Int.ofNat_le.mp hdays
  · intro heq
    rw [heq, hdate] at hdate'
    rw [Option.some.inj hdate']

/-- A quarter of an hour before the end of the 28th of February of a leap year, five and a half hours behind
universal time. -/
def leapEve : Moment := ⟨⟨2024, 2, 28, by decide⟩, 85500000000, some (-19800000000), by decide, fun o ho => by
  cases ho
  decide⟩

theorem leap_eve_shows_leap_day :
    leapEve.IsAt 63844866900000000 ∧ ¬outsideCalendar 63844866900000000 ∧
      ShowsAs leapEve "2024-02-29" ∧
        formatValue .standard (.text "2024-02-28T23:45:00-05:30") (some .date) = .ok "2024-02-29" := by
  have hinstant : leapEve.IsAt 63844866900000000 := isAt_iff.mpr (by decide)
  have hinside : ¬outsideCalendar 63844866900000000 := by
    unfold outsideCalendar
    decide
  obtain ⟨u, -, -, hshows, -⟩ := moment_shows_universal_date hinstant hinside
  have hplain : (Value.moment leapEve).plain = .ok "2024-02-29" := by decide
  rw [Except.ok.inj (hshows.plain.symm.trans hplain)] at hshows
  have htyped : String.ofList (leapEve.typed (signedText true 5 30)) = "2024-02-28T23:45:00-05:30" := by decide
  refine ⟨hinstant, hinside, hshows, ?_⟩
  rw [← htyped]
  exact hshows.typed .standard (signedOffset true 5 30) _ rfl (.signed true (by decide) (by decide))

end DocTemplate
