import DocTemplate.Layout.Dump
import DocTemplate.Proofs.Layout.Schema
import Mathlib.Logic.Relation

/-!
# Names of two words

A field whose name has two words may be written with a capital or with an underscore between them. Main
statement: `spellings_mean_the_same`.
-/

namespace DocTemplate

open Checked Schema Relation

deriving instance DecidableEq for FieldName

/-- The fields with names of two words. -/
def styleNames : List FieldName := [⟨"fontSize", "font_size"⟩, ⟨"marginBottom", "margin_bottom"⟩]

def tableNames : List FieldName := [⟨"rowsBinding", "rows_binding"⟩, ⟨"showHeader", "show_header"⟩]

/-- A node declares a field whose name has two words: every style and every component has some, and tables
have more. -/
inductive Declares : Schema.Node → Fields → FieldName → Prop
  | style {fields : Fields} {name : FieldName} (h : name ∈ styleNames) : Declares .style fields name
  | visibleWhen {fields : Fields} : Declares .component fields visibleWhenName
  | table {fields : Fields} {name : FieldName} (h : name ∈ tableNames)
    (hkind : kindOf? (dropNulls fields) = some .table) : Declares .component fields name

/-- A field that a node declares is written with an underscore, where the node has it in one spelling only. -/
inductive Respelled (n : Schema.Node) : Fields → Fields → Prop
  | mk (name : FieldName) (before : Fields) (v : Value) (after : Fields)
    (hdeclared : Declares n (before ++ (name.wire, v) :: after) name)
    (hother : ∀ f ∈ before ++ after, f.1 ≠ name.wire ∧ f.1 ≠ name.spelled) :
    Respelled n (before ++ (name.wire, v) :: after) (before ++ (name.spelled, v) :: after)

/-- The spelling with a capital, for names that have two spellings. -/
def capitalized (key : String) : String :=
  match (visibleWhenName :: (styleNames ++ tableNames)).find? (·.spelled == key) with
  | some name => name.wire
  | none => key

theorem capitalized_spelled {name : FieldName} (h : name ∈ visibleWhenName :: (styleNames ++ tableNames)) :
    capitalized name.wire = capitalized name.spelled := by
  revert name
  decide

/-- Two names are one, or have no spelling in common. -/
def FieldName.SameOrApart (m name : FieldName) : Prop :=
  m = name ∨ (name.wire ≠ m.wire ∧ name.wire ≠ m.spelled ∧ name.spelled ≠ m.wire ∧ name.spelled ≠ m.spelled)

instance (m name : FieldName) : Decidable (m.SameOrApart name) := inferInstanceAs (Decidable (_ ∨ _))

section

variable {m : FieldName} {before after : Fields} {v : Value}
  (hother : ∀ f ∈ before ++ after, f.1 ≠ m.wire ∧ f.1 ≠ m.spelled)

include hother

theorem lookup_wire_respelled : (before ++ after).lookup m.wire = none :=
  lookup_eq_none_of_ne fun f hf => (hother f hf).1

theorem first_wire : ∀ f ∈ before, f.1 ≠ m.wire := fun f hf => (hother f (List.mem_append_left after hf)).1

theorem first_spelled : ∀ f ∈ before, f.1 ≠ m.spelled := fun f hf => (hother f (List.mem_append_left after hf)).2

theorem find?_wire : m.find? (before ++ (m.wire, v) :: after) = some (m.wire, v) := by
  simp [FieldName.find?, lookup_exchanged (first_wire hother)]

theorem find?_spelled : m.find? (before ++ (m.spelled, v) :: after) = some (m.spelled, v) := by
  have hwire := lookup_wire_respelled hother
  by_cases h : m.wire = m.spelled
  · simp [FieldName.find?, lookup_exchanged (first_spelled hother), h]
  · simp [FieldName.find?, lookup_exchanged (first_spelled hother), h, hwire]

/-- A field is read alike when a name is respelled that is its own or another one. -/
theorem fieldAlike_respelled {α : Type} {read : Value → Checked α} {name : FieldName}
    (hspell : capitalized m.wire = capitalized m.spelled) (h : m.SameOrApart name) :
    FieldAlike capitalized read (before ++ (m.wire, v) :: after) (before ++ (m.spelled, v) :: after) name := by
  unfold FieldAlike
  rcases h with rfl | ⟨hwire, hwire', hspelled, hspelled'⟩
  · rw [find?_wire hother, find?_spelled hother]
    exact .found hspell (.refl _)
  · rw [find?_exchanged (first_wire hother) hwire hspelled, find?_exchanged (first_spelled hother) hwire' hspelled']
    exact .of_eq rfl

theorem styleAlike_respelled (hm : m ∈ styleNames) :
    StyleAlike capitalized (before ++ (m.wire, v) :: after) (before ++ (m.spelled, v) :: after) := by
  have hspell : capitalized m.wire = capitalized m.spelled :=
    capitalized_spelled (List.mem_cons_of_mem _ (List.mem_append_left _ hm))
  have hfield {α : Type} {read : Value → Checked α} {name : FieldName}
      (h : ∀ m ∈ styleNames, m.SameOrApart name) :
      FieldAlike capitalized read (before ++ (m.wire, v) :: after) (before ++ (m.spelled, v) :: after) name :=
    fieldAlike_respelled hother hspell (h m hm)
  constructor <;> apply hfield <;> decide

theorem kindOf?_respelled (hwire : m.wire ≠ "type") (hspelled : m.spelled ≠ "type") :
    kindOf? (before ++ (m.wire, v) :: after) = kindOf? (before ++ (m.spelled, v) :: after) := by
  simp only [kindOf?, Fields.get?, lookup_exchanged (first_wire hother), lookup_exchanged (first_spelled hother),
    if_neg hwire.symm, if_neg hspelled.symm]

omit hother in
/-- The extras of an unknown component do not depend on how its conditions are spelled. -/
theorem extrasOf_respelled
    (hother : ∀ f ∈ before ++ after, f.1 ≠ visibleWhenName.wire ∧ f.1 ≠ visibleWhenName.spelled) :
    extrasOf (before ++ (visibleWhenName.wire, v) :: after) =
      extrasOf (before ++ (visibleWhenName.spelled, v) :: after) := by
  unfold extrasOf
  rw [find?_wire hother, find?_spelled hother]
  simp only [Option.map_some, Option.toList_some, List.mem_singleton]
  rw [List.filter_append, List.filter_append, List.filter_cons_of_neg (by simp),
    List.filter_cons_of_neg (by simp)]
  congr 1
  · refine List.filter_congr fun f hf => ?_
    obtain ⟨hwire, hspelled⟩ := hother f (List.mem_append_left after hf)
    simp [hwire, hspelled]
  · refine List.filter_congr fun f hf => ?_
    obtain ⟨hwire, hspelled⟩ := hother f (List.mem_append_right before hf)
    simp [hwire, hspelled]

theorem componentAlike_respelled (hm : m ∈ visibleWhenName :: tableNames)
    (hextras : kindOf? (before ++ (m.wire, v) :: after) = none → m = visibleWhenName) :
    ComponentAlike capitalized (before ++ (m.wire, v) :: after) (before ++ (m.spelled, v) :: after) := by
  have hspell : capitalized m.wire = capitalized m.spelled := by
    refine capitalized_spelled ?_
    rcases List.mem_cons.mp hm with rfl | hm
    · exact List.mem_cons_self
    · exact List.mem_cons_of_mem _ (List.mem_append_right _ hm)
  have hfield {α : Type} {read : Value → Checked α} {name : FieldName}
      (h : ∀ m ∈ visibleWhenName :: tableNames, m.SameOrApart name) :
      FieldAlike capitalized read (before ++ (m.wire, v) :: after) (before ++ (m.spelled, v) :: after) name :=
    fieldAlike_respelled hother hspell (h m hm)
  have hnames : ∀ m ∈ visibleWhenName :: tableNames, m.wire ≠ "type" ∧ m.spelled ≠ "type" := by decide
  refine ⟨?_, kindOf?_respelled hother (hnames m hm).1 (hnames m hm).2, fun k _ => ?_, hfield (by decide), ?_⟩
  · constructor <;> apply hfield <;> decide
  · cases k <;> constructor <;> apply hfield <;> decide
  · intro hnone
    obtain rfl := hextras hnone
    exact extrasOf_respelled hother

end

/-- A node is read alike when the name of a field is respelled. -/
theorem Respelled.agree {n : Schema.Node} {fs gs : Fields} (h : Respelled n fs gs) :
    Agree capitalized (n.read (.record fs)) (n.read (.record gs)) := by
  obtain ⟨name, before, v, after, hdeclared, hother⟩ := h
  by_cases hnull : v.isNull
  · obtain rfl := Value.eq_null_of_isNull hnull
    rw [n.read_congr ((dropNulls_null before after _).trans (dropNulls_null before after _).symm)]
    exact .refl _
  have hset (key : String) :
      dropNulls (before ++ (key, v) :: after) = dropNulls before ++ (key, v) :: dropNulls after :=
    dropNulls_exchanged (by simpa using hnull)
  have hother' : ∀ f ∈ dropNulls before ++ dropNulls after, f.1 ≠ name.wire ∧ f.1 ≠ name.spelled := by
    rw [← dropNulls_append]
    exact fun f hf => hother f (List.mem_filter.mp hf).1
  cases hdeclared with
  | style h =>
    apply StyleAlike.agree
    rw [hset, hset]
    exact styleAlike_respelled hother' h
  | visibleWhen =>
    apply ComponentAlike.agree
    rw [hset, hset]
    exact componentAlike_respelled hother' (by decide) fun _ => rfl
  | table h hkind =>
    apply ComponentAlike.agree
    rw [hset] at hkind
    rw [hset, hset]
    refine componentAlike_respelled hother' (List.mem_cons_of_mem _ h) fun hnone => ?_
    rw [hkind] at hnone
    cases hnone

/-- A layout is loaded from what is left when names are respelled in one node. -/
theorem Schema.EditedLayout.loads_iff {v w : Value} (h : EditedLayout Respelled v w) (layout : Layout) :
    (rawComponents v).bind checkComponents = .ok layout ↔ (rawComponents w).bind checkComponents = .ok layout := by
  obtain ⟨items, others, hitems, hothers, hread⟩ := h.agree fun _ _ _ => Respelled.agree
  rw [hitems, hothers]
  simp only [Except.bind]
  rw [checkComponents_eq_ok_iff, checkComponents_eq_ok_iff]
  exact hread.accepted_iff layout

/-- Names of two words may be respelled in any nodes of a raw layout, without a difference to whether it is
loaded, to the layout that is loaded, and to how that is written. -/
theorem spellings_mean_the_same {source other v w : Value} (hv : rawLayout source = .ok v)
    (hw : rawLayout other = .ok w) (h : ReflTransGen (EditedLayout Respelled) v w) :
    (∀ layout, loadLayout source = .ok layout ↔ loadLayout other = .ok layout) ∧
      (loadLayout source).toOption.map dumpLayout = (loadLayout other).toOption.map dumpLayout := by
  have hraw : ∀ layout, (rawComponents v).bind checkComponents = .ok layout ↔
      (rawComponents w).bind checkComponents = .ok layout := by
    clear hv hw
    induction h with
    | refl => exact fun _ => .rfl
    | tail _ hstep ih => exact fun layout => (ih layout).trans (hstep.loads_iff layout)
  have hloads : ∀ layout, loadLayout source = .ok layout ↔ loadLayout other = .ok layout := by
    intro layout
    unfold loadLayout
    rw [hv, hw]
    exact mapError_eq_ok_iff.trans ((hraw layout).trans mapError_eq_ok_iff.symm)
  refine ⟨hloads, congrArg (Option.map dumpLayout) ?_⟩
  cases hsource : loadLayout source with
  | ok layout => rw [(hloads layout).mp hsource]
  | error e =>
    cases hother : loadLayout other with
    | ok layout =>
      rw [(hloads layout).mpr hother] at hsource
      cases hsource
    | error e' => rfl

/-- A sign of an unknown kind beside a table, in a box. -/
def signSource (conditions rows : String) : Value :=
  .list [.record [("id", .text "frame"), ("type", .text "box"), ("children", .list [
    .record [("id", .text "sign"), ("type", .text "sign"), (conditions, .record [("field", .text "open")])],
    .record [("id", .text "terms"), ("type", .text "table"), (rows, .text "terms")]])]]

theorem sign_spelled_twice :
    rawLayout (signSource "visibleWhen" "rowsBinding") = .ok (signSource "visibleWhen" "rowsBinding") ∧
      rawLayout (signSource "visible_when" "rows_binding") = .ok (signSource "visible_when" "rows_binding") ∧
      ReflTransGen (EditedLayout Respelled) (signSource "visibleWhen" "rowsBinding")
        (signSource "visible_when" "rows_binding") ∧
      ∀ layout, loadLayout (signSource "visibleWhen" "rowsBinding") = .ok layout ↔
        loadLayout (signSource "visible_when" "rows_binding") = .ok layout := by
  have hsign : Edited Respelled (.one .component) _ _ :=
    .here (.mk visibleWhenName [("id", .text "sign"), ("type", .text "sign")] (.record [("field", .text "open")]) []
      .visibleWhen (by decide))
  have hterms : Edited Respelled (.one .component) _ _ :=
    .here (.mk ⟨"rowsBinding", "rows_binding"⟩ [("id", .text "terms"), ("type", .text "table")] (.text "terms")
      [] (.table (by decide) rfl) (by decide))
  have hfirst : EditedLayout Respelled (signSource "visibleWhen" "rowsBinding")
      (signSource "visible_when" "rowsBinding") :=
    .components (.inList [] [] (.field [("id", .text "frame"), ("type", .text "box")] "children" [] (by simp)
      (.children rfl) (.inList [] _ hsign)))
  have hsecond : EditedLayout Respelled (signSource "visible_when" "rowsBinding")
      (signSource "visible_when" "rows_binding") :=
    .components (.inList [] [] (.field [("id", .text "frame"), ("type", .text "box")] "children" [] (by simp)
      (.children rfl) (.inList [_] [] hterms)))
  have hboth := ReflTransGen.tail (.single hfirst) hsecond
  exact ⟨rfl, rfl, hboth, (spellings_mean_the_same rfl rfl hboth).1⟩

end DocTemplate
