import DocTemplate.Proofs.Layout.Schema
import Mathlib.Logic.Relation

/-!
# Nulls in nodes

A null among the fields of a node means that the field is not set. Main statement: `null_means_not_set`.
-/

namespace DocTemplate

open Checked Schema Relation

/-- A null is added to the fields of a node, or taken out of them. -/
inductive NullChanged (n : Schema.Node) : Fields → Fields → Prop
  | added (before after : Fields) (key : String) :
    NullChanged n (before ++ after) (before ++ (key, .null) :: after)
  | removed (before after : Fields) (key : String) :
    NullChanged n (before ++ (key, .null) :: after) (before ++ after)

theorem NullChanged.dropNulls_eq {n : Schema.Node} {fs gs : Fields} (h : NullChanged n fs gs) :
    dropNulls fs = dropNulls gs := by
  cases h with
  | added before after key => exact (dropNulls_null before after key).symm
  | removed before after key => exact dropNulls_null before after key

theorem Schema.EditedLayout.outcome_eq {v w : Value} (h : EditedLayout NullChanged v w) :
    (rawComponents v).bind checkComponents = (rawComponents w).bind checkComponents := by
  have hnode (n : Schema.Node) (fs gs : Fields) (h : NullChanged n fs gs) :
      Agree id (n.read (.record fs)) (n.read (.record gs)) := agree_id_iff.mpr (n.read_congr h.dropNulls_eq)
  obtain ⟨items, others, hitems, hothers, hread⟩ := h.agree hnode
  rw [hitems, hothers]
  simp only [Except.bind, checkComponents, agree_id_iff.mp hread]

/-- Nulls may be added to the nodes of a raw layout, and taken out of them, without a difference to what
loading it gives: the layout or the refusal with all its problems. -/
theorem null_means_not_set {source other v w : Value} (hv : rawLayout source = .ok v)
    (hw : rawLayout other = .ok w) (h : ReflTransGen (EditedLayout NullChanged) v w) :
    loadLayout source = loadLayout other := by
  have houtcome : (rawComponents v).bind checkComponents = (rawComponents w).bind checkComponents := by
    clear hv hw
    induction h with
    | refl => rfl
    | tail _ hstep ih => exact ih.trans hstep.outcome_eq
  unfold loadLayout
  rw [hv, hw]
  exact congrArg (Except.mapError LoadFailure.refused) houtcome

/-- A condition of an unknown component in a box, whose operator is null in the second of two spellings. -/
def meterSource (operator : Fields) : Value :=
  .record [("components", .list [.record [("id", .text "frame"), ("type", .text "box"),
    ("children", .tuple [.record [("id", .text "level"), ("type", .text "meter"),
      ("visible_when", .record ([("field", .text "level")] ++ operator))]])]])]

theorem meter_without_operator :
    rawLayout (meterSource []) = .ok (meterSource []) ∧
      rawLayout (meterSource [("operator", .null)]) = .ok (meterSource [("operator", .null)]) ∧
      ReflTransGen (EditedLayout NullChanged) (meterSource []) (meterSource [("operator", .null)]) ∧
      loadLayout (meterSource []) = loadLayout (meterSource [("operator", .null)]) := by
  have hcondition : Edited NullChanged .conditions (.record [("field", .text "level")])
      (.record [("field", .text "level"), ("operator", .null)]) :=
    .condition (.here (.added [("field", .text "level")] [] "operator"))
  have hmeter : Edited NullChanged (.one .component) _ _ :=
    .field [("id", .text "level"), ("type", .text "meter")] "visible_when" [] (by simp) (.conditions rfl) hcondition
  have hframe : Edited NullChanged (.one .component) _ _ :=
    .field [("id", .text "frame"), ("type", .text "box")] "children" [] (by simp) (.children rfl)
      (.inTuple [] [] hmeter)
  have hedited : EditedLayout NullChanged (meterSource []) (meterSource [("operator", .null)]) :=
    .wrapped [] [] (by simp) (.inList [] [] hframe)
  exact ⟨rfl, rfl, .single hedited, null_means_not_set rfl rfl (.single hedited)⟩

end DocTemplate
