import DocTemplate.Layout.Load
import DocTemplate.Proofs.Json.Limits

/-!
# Layouts written as JSON

A layout that is handed over as text or bytes is read or refused with a report, unless the bytes are no text
or the text goes beyond a limit of the JSON reader. Main statement: `load_json_ends`.
-/

namespace DocTemplate

open DocTemplate.Text

/-- How reading a layout from JSON text may end. -/
inductive Ending (cs : List Char) : Except LoadFailure Layout → Prop
  | layout (l : Layout) : Ending cs (.ok l)
  /-- A refusal, which has at least one report. -/
  | refused {r : Refusal} (hreports : r.reports ≠ []) : Ending cs (.error (.refused r))
  /-- A whole number of more digits than are read. -/
  | digits {count : Nat} (hlong : digitLimit < count) (hrun : Json.HasDigits count cs) :
      Ending cs (.error (.integerTooLong count))
  /-- More brackets than may be nested. -/
  | nesting (hmore : Json.nestingLimit + 1 < Json.openings cs) : Ending cs (.error .tooDeep)

theorem reports_ne_nil (r : Refusal) : r.reports ≠ [] := by
  cases r <;> exact nofun

theorem check_ends (cs : List Char) (v : Value) :
    Ending cs (((rawComponents v).bind checkComponents).mapError .refused) := by
  cases (rawComponents v).bind checkComponents with
  | error r => exact .refused (reports_ne_nil r)
  | ok l => exact .layout l

theorem parseText_ends {parsed : Except Json.ReadFailure Value} {cs : List Char}
    (h : (∃ v, parsed = .ok v) ∨ (∃ fault place, parsed = .error (.malformed fault place)) ∨
      ∃ e, parsed = .error e ∧ Json.Exceeds cs e) :
    Ending cs (parseText parsed cs >>= fun v =>
      ((rawComponents v).bind checkComponents).mapError .refused) := by
  rcases h with ⟨v, rfl⟩ | ⟨fault, place, rfl⟩ | ⟨e, rfl, hexceeds⟩
  · exact check_ends cs v
  · exact .refused (reports_ne_nil _)
  · cases hexceeds with
    | digits hlong hrun => exact .digits hlong hrun
    | nesting hmore => exact .nesting hmore

/-- Text of a layout gives the layout or a refusal, or it has a whole number of too many digits or too many
brackets; so do bytes, if they can be decoded at all. -/
theorem load_json_ends (s : String) (bs : List UInt8) :
    Ending s.toList (loadLayout (.text s)) ∧
      match decodeDetected? bs with
      | some ps => Ending (replaced ps) (loadLayout (.bytes bs))
      | none => loadLayout (.bytes bs) = .error .undecodable := by
  refine ⟨parseText_ends ?_, ?_⟩
  · unfold Json.read
    split
    · exact .inr (.inl ⟨_, _, rfl⟩)
    · exact Json.readChars_bounded _
  · split
    · next ps hps =>
      unfold loadLayout rawLayout
      simp only [hps]
      cases hcs : characters? ps with
      | some cs =>
        rw [replaced_eq hcs]
        exact parseText_ends (Json.readChars_bounded cs)
      | none => exact .refused (reports_ne_nil _)
    · next hnone =>
      unfold loadLayout rawLayout
      simp only [hnone]
      rfl

/-- A byte that begins no character is neither read nor refused. -/
theorem stray_byte_is_not_refused :
    loadLayout (.bytes [0xff]) = .error .undecodable ∧
      ¬ ((∃ l, loadLayout (.bytes [0xff]) = .ok l) ∨
        ∃ r : Refusal, loadLayout (.bytes [0xff]) = .error (.refused r) ∧ r.reports ≠ []) := by
  refine ⟨rfl, ?_⟩
  rintro (⟨_, ⟨⟩⟩ | ⟨_, ⟨⟩, -⟩)

end DocTemplate
