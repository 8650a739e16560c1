import DocTemplate.Layout.Namesake
import DocTemplate.Proofs.Action
import DocTemplate.Proofs.Number.Alphabet

/-!
# Numbers in namesakes

Nothing has checked the extra fields of a namesake. But the level of a heading is written as a number wherever it
has an order among numbers, and so is the size of a spacer wherever there is room of that height.
-/

namespace DocTemplate

open DocTemplate.Number

theorem numberText_headingLevel (level : Int) : NumberText (toString (headingLevel level)).toList := by
  have hall : ∀ n ∈ [1, 2, 3, 4], NumberText (toString n).toList := by decide
  exact hall _ (headingLevel_mem level)

theorem Number.Numeral.numberText_levelText (n : Numeral) : NumberText n.levelText.toList := by
  unfold levelText
  split
  · decide
  · split
    · decide
    · rw [String.toList_ofList]
      exact .finite n

theorem numberText_levelText {v : Value} {level : String} (h : v.levelText = .ok level) :
    NumberText level.toList := by
  unfold Value.levelText at h
  split at h
  · next b => cases b <;> exact Except.ok.inj h ▸ by decide
  · exact Except.ok.inj h ▸ numberText_headingLevel _
  · next x =>
    obtain rfl := Except.ok.inj h
    split
    · decide
    · split
      · decide
      · rw [String.toList_ofList]
        exact .floatText x
  · next n => exact Except.ok.inj h ▸ n.numberText_levelText
  · next negative => cases negative <;> exact Except.ok.inj h ▸ by decide
  · cases h
  · cases h

theorem numberText_integerText {n : Int} {cs : List Char} (h : integerText n = .ok cs) : NumberText cs := by
  unfold integerText at h
  by_cases hlong : digitLimit < (decimalDigits n.natAbs).length
  · cases (if_pos hlong).symm.trans h
  · obtain rfl := Except.ok.inj ((if_neg hlong).symm.trans h)
    split
    · exact .cons (by decide) (.decimalDigits _)
    · exact .decimalDigits _

/-- What is a height is written as a number, or as whether it is one or none. -/
theorem numberText_plain {v : Value} {x : Float} (hheight : v.asHeight = .ok x) {s : String}
    (h : v.plain = .ok s) : NumberText s.toList := by
  cases v with
  | bool b => cases b <;> exact Except.ok.inj h ▸ by decide
  | int n =>
    cases hn : integerText n with
    | error e =>
      have hplain : Value.plain (.int n) = .error e := by simp [Value.plain, Value.shown, Value.literal, hn, Except.map]
      cases hplain.symm.trans h
    | ok cs =>
      have hplain : Value.plain (.int n) = .ok (String.ofList cs) := by
        simp [Value.plain, Value.shown, Value.literal, hn, Except.map]
      obtain rfl := Except.ok.inj (hplain.symm.trans h)
      rw [String.toList_ofList]
      exact numberText_integerText hn
  | float y =>
    obtain rfl := Except.ok.inj h
    rw [String.toList_ofList]
    exact .wholeOrFull y
  | _ => cases hheight

namespace Namesake

variable {extras : Fields}

theorem numberText_level {text : String} (h : level extras = .ok text) : NumberText text.toList := by
  obtain ⟨v, -, hv⟩ := bind_eq_ok_iff.mp h
  exact numberText_levelText hv

theorem numberText_gap {x : Float} (hroom : room extras = .ok x) {height : String}
    (h : gap extras = .ok height) : NumberText height.toList := by
  obtain ⟨v, hv, hheight⟩ := bind_eq_ok_iff.mp hroom
  obtain ⟨w, hw, hplain⟩ := bind_eq_ok_iff.mp h
  obtain rfl := Except.ok.inj (hv.symm.trans hw)
  exact numberText_plain hheight hplain

end Namesake

end DocTemplate
