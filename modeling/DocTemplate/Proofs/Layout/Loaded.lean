import DocTemplate.Proofs.Json.Plain
import DocTemplate.Proofs.Layout.Yields

/-!
# What is known of a loaded layout

A layout that is read from plain data has sizes that are not negative and loose values that are plain. Its
unknown components are unknown for good: their kind has no known name, and the fields that they keep are
theirs alone. Main statement: `loaded_of_loadLayout`.
-/

namespace DocTemplate

open Checked

/-- A size that is not negative, if it is set. -/
def Sized (size : Option Float) : Prop := ∀ x ∈ size, 0 ≤ x

/-- The sizes of a style are not negative. -/
structure Style.Loaded (s : Style) : Prop where
  fontSize : Sized s.fontSize
  padding : Sized s.padding
  marginBottom : Sized s.marginBottom
  border : ∀ b ∈ s.border, Sized b.width

/-- What components share is as it is read. -/
structure Common.Loaded (c : Common) : Prop where
  style : ∀ s ∈ c.style, s.Loaded
  visibleWhen : ∀ k ∈ c.visibleWhen, k.value.isPlain

/-- The keys that are no extras of an unknown component. -/
def sharedKeys : List String := ["visibleWhen", "id", "text", "label", "binding", "style", "type"]

/-- The extras of an unknown component are set, and are no fields that all components have. -/
structure ExtrasLoaded (extras : Fields) : Prop where
  plain : ∀ f ∈ extras, f.2.isPlain
  set : ∀ f ∈ extras, ¬f.2.isNull
  own : ∀ f ∈ extras, f.1 ∉ sharedKeys

mutual

/-- A component is as it is read. -/
def Component.Loaded : Component → Prop
  | .heading c _ | .text c | .list c _ | .chips c _ | .divider c => c.Loaded
  | .spacer c size => c.Loaded ∧ 0 ≤ size
  | .image c _ width height => c.Loaded ∧ Sized width ∧ Sized height
  | .box c children => c.Loaded ∧ LoadedAll children
  | .table c _ columns _ => c.Loaded ∧ ∀ k ∈ columns, Sized k.width
  | .unknown c kind extras => c.Loaded ∧ Kind.named? kind = none ∧ ExtrasLoaded extras

/-- Components are as they are read. -/
def LoadedAll : List Component → Prop
  | [] => True
  | c :: cs => c.Loaded ∧ LoadedAll cs

end

/-! ## Parts of components -/

theorem readSize_yields (v : Value) : Yields (readSize v) fun x => 0 ≤ x := by
  refine .andThen fun x => ?_
  split
  · next h => exact .accepted h
  · exact .reject

theorem optional_readSize_yields (fields : Fields) (name : FieldName) :
    Yields (optional fields name readSize) Sized :=
  optional_yields fun f _ => readSize_yields f.2

theorem readBorder_yields (v : Value) : Yields (readBorder v) fun b => Sized b.width :=
  readRecord_yields fun fields _ =>
    .seq (.map (optional_readSize_yields (dropNulls fields) _) fun _ hwidth _ _ => hwidth) .any

theorem readStyle_yields (v : Value) : Yields (readStyle v) Style.Loaded := by
  refine readRecord_yields fun fields _ => ?_
  have hborder : Yields (optional (dropNulls fields) (.word "border") readBorder) fun b? =>
      ∀ b ∈ b?, Sized b.width := optional_yields fun f _ => readBorder_yields f.2
  have hsize (name : FieldName) := optional_readSize_yields (dropNulls fields) name
  refine .seq (.seq (.seq (.seq (.seq (.seq (.seq (.seq (.map (hsize _) ?_) .any) .any) .any) .any)
    (hsize _)) (hsize _)) .any) hborder
  intro _ hfont _ _ _ _ _ _ _ _ _ hpadding _ hmargin _ _ _ hborder
  exact ⟨hfont, hpadding, hmargin, hborder⟩

theorem readCondition_yields {v : Value} (hv : v.isPlain) :
    Yields (readCondition v) fun k => k.value.isPlain := by
  refine readRecord_yields fun fields hfields => ?_
  subst hfields
  have hvalue : Yields (withDefault (dropNulls fields) (.word "value") .null .accepted) fun v => v.isPlain :=
    withDefault_yields rfl fun f hf => .accepted (mem_dropNulls hv hf).1
  exact .seq (.seq (.map .any fun _ _ _ _ _ hvalue => hvalue) .any) hvalue

theorem readConditions_yields {v : Value} (hv : v.isPlain) :
    Yields (readConditions v) fun ks => ∀ k ∈ ks, k.value.isPlain := by
  have hsequence {u : Value} (hu : u.isPlain) :
      Yields (readSequence readCondition u) fun ks => ∀ k ∈ ks, k.value.isPlain :=
    readSequence_yields fun _ hitems w hw => readCondition_yields (Value.isPlain_of_items? hu hitems w hw)
  unfold readConditions
  split
  · next fields =>
    refine hsequence (Value.isPlain_list.mpr ?_)
    simpa using hv
  · exact hsequence hv

theorem readColumn_yields (v : Value) : Yields (readColumn v) fun k => Sized k.width := by
  refine readRecord_yields fun fields _ => ?_
  refine .seq (.seq (.seq (.seq (.seq (.map .any ?_) .any) .any)
    (optional_readSize_yields (dropNulls fields) _)) .any) .any
  intro _ _ _ _ _ _ _ hwidth _ _ _ _
  exact hwidth

theorem optional_readStyle_yields (fields : Fields) (name : FieldName) :
    Yields (optional fields name readStyle) fun s? => ∀ s ∈ s?, s.Loaded :=
  optional_yields fun f _ => readStyle_yields f.2

theorem columns_yields (fields : Fields) (name : FieldName) :
    Yields (withDefault fields name [] (readSequence readColumn)) fun ks => ∀ k ∈ ks, Sized k.width :=
  withDefault_yields (by simp) fun _ _ => readSequence_yields fun _ _ w _ => readColumn_yields w

theorem spacerSize_yields (fields : Fields) (name : FieldName) :
    Yields (withDefault fields name 12.0 readSize) fun x => 0 ≤ x :=
  withDefault_yields (by decide +kernel) fun f _ => readSize_yields f.2

theorem readCommon_yields {fields : Fields} (h : ∀ f ∈ fields, f.2.isPlain) :
    Yields (readCommon fields) Common.Loaded := by
  have hconditions : Yields (withDefault fields visibleWhenName [] readConditions) fun ks =>
      ∀ k ∈ ks, k.value.isPlain :=
    withDefault_yields (by simp) fun f hf => readConditions_yields (h f hf)
  refine .seq (.seq (.seq (.seq (.seq (.map .any ?_) .any) .any) .any)
    (optional_readStyle_yields fields _)) hconditions
  intro _ _ _ _ _ _ _ _ _ hstyle _ hconditions
  exact ⟨hstyle, hconditions⟩

/-! ## Unknown components -/

/-- What a component keeps as extras stands under no key that all components have: a field of conditions
counts as one under the spelling that is read. -/
theorem extrasLoaded_extrasOf {fields : Fields} (hplain : (Value.record fields).isPlain) :
    ExtrasLoaded (extrasOf (dropNulls fields)) where
  plain f hf := (mem_dropNulls hplain (List.mem_filter.mp hf).1).1
  set f hf := (mem_dropNulls hplain (List.mem_filter.mp hf).1).2
  own f hf hshared := by
    obtain ⟨hmem, hkey⟩ := List.mem_filter.mp hf
    simp only [Bool.not_eq_true', Bool.or_eq_false_iff, decide_eq_false_iff_not] at hkey
    rcases List.mem_cons.mp hshared with hwire | hcommon
    · have hfind : (visibleWhenName.find? (dropNulls fields)).map (·.1) = some f.1 := by
        cases hlookup : (dropNulls fields).lookup "visibleWhen" with
        | none =>
          have hne := List.lookup_eq_none_iff.mp hlookup f hmem
          simp [hwire] at hne
        | some v => simp [FieldName.find?, visibleWhenName, hlookup, hwire]
      exact hkey.2 (by simp [hfind])
    · exact hkey.1 hcommon

/-- Plain data that are read as text are text. -/
theorem eq_text_of_readText {v : Value} (hv : v.isPlain) {s : String} (h : readText v = .accepted s) :
    v = .text s := by
  cases v with
  | text t => rw [Checked.accepted.inj h]
  | bytes bs => cases hv
  | _ => cases h

/-- A text that plain data have to give is a field with this text. -/
theorem required_readText_yields {fields : Fields} (hplain : (Value.record fields).isPlain) (name : String) :
    Yields (required (dropNulls fields) (.word name) readText) fun s =>
      (dropNulls fields).lookup name = some (.text s) := by
  intro s hs
  cases hlookup : (dropNulls fields).lookup name with
  | none => simp [required, FieldName.find?, FieldName.word, hlookup, Checked.reject, inside] at hs
  | some v =>
    simp only [required, FieldName.find?, FieldName.word, hlookup, inside_eq_accepted_iff] at hs
    have hset := Value.isPlain_record.mpr fun f hf => (mem_dropNulls hplain hf).1
    rw [eq_text_of_readText (Value.isPlain_of_lookup hset hlookup) hs]

theorem readUnknown_yields {fields : Fields} (hplain : (Value.record fields).isPlain)
    (hkind : kindOf? (dropNulls fields) = none) :
    Yields (readUnknown (dropNulls fields)) Component.Loaded := by
  have hcommon := readCommon_yields fun f hf => (mem_dropNulls hplain hf).1
  have htype : Yields (required (dropNulls fields) (.word "type") readText) fun name =>
      Kind.named? name = none := by
    intro name hname
    have hlookup := required_readText_yields hplain "type" name hname
    rwa [kindOf?, Fields.get?, hlookup] at hkind
  refine .seq (.map hcommon ?_) htype
  intro _ hc _ hname
  exact ⟨hc, hname, extrasLoaded_extrasOf hplain⟩

/-! ## Components -/

theorem readKind_yields {fields : Fields} (h : ∀ f ∈ fields, f.2.isPlain)
    {children : Unit → Checked (List Component)} (hchildren : Yields (children ()) LoadedAll)
    (kind : Kind) : Yields (readKind fields children kind) Component.Loaded := by
  have hcommon := readCommon_yields h
  cases kind with
  | heading => exact .seq (.map hcommon fun _ hc _ _ => hc) .any
  | text => exact .map hcommon fun _ hc => hc
  | list => exact .seq (.map hcommon fun _ hc _ _ => hc) .any
  | chips => exact .seq (.map hcommon fun _ hc _ _ => hc) .any
  | divider => exact .map hcommon fun _ hc => hc
  | spacer => exact .seq (.map hcommon fun _ hc _ hsize => ⟨hc, hsize⟩) (spacerSize_yields fields _)
  | image =>
    refine .seq (.seq (.seq (.map hcommon ?_) .any) (optional_readSize_yields fields _))
      (optional_readSize_yields fields _)
    intro _ hc _ _ _ hwidth _ hheight
    exact ⟨hc, hwidth, hheight⟩
  | box => exact .seq (.map hcommon fun _ hc _ hchildren => ⟨hc, hchildren⟩) hchildren
  | table =>
    refine .seq (.seq (.seq (.map hcommon ?_) .any) (columns_yields fields _)) .any
    intro _ hc _ _ _ hcolumns _ _
    exact ⟨hc, hcolumns⟩

mutual

theorem readComponent_yields : ∀ {v : Value}, v.isPlain → Yields (readComponent v) Component.Loaded
  | .record fields, hplain => by
    rw [readComponent]
    split
    · have hchildren := readChildren_yields (Value.isPlain_record.mp hplain)
      exact (readKind_yields (fun f hf => (mem_dropNulls hplain hf).1) hchildren _).inside
    · next hkind => exact (readUnknown_yields hplain hkind).inside
  | .null, _ | .bool _, _ | .int _, _ | .float _, _ | .decimal _, _ | .text _, _ | .bytes _, _
  | .date _, _ | .moment _, _ | .list _, _ | .tuple _, _ => Yields.reject.inside

theorem readChildren_yields : ∀ {fields : List (String × Value)}, (∀ f ∈ fields, f.2.isPlain) →
    Yields (readChildren fields) LoadedAll
  | [], _ => .accepted trivial
  | (key, v) :: fields, hplain => by
    rw [readChildren]
    split
    · exact (readChildList_yields (hplain (key, v) List.mem_cons_self)).inside
    · exact readChildren_yields fun f hf => hplain f (List.mem_cons_of_mem _ hf)

theorem readChildList_yields : ∀ {v : Value}, v.isPlain → Yields (readChildList v) LoadedAll
  | .list _, hplain => readComponents_yields (Value.isPlain_list.mp hplain) 0
  | .null, _ | .bool _, _ | .int _, _ | .float _, _ | .text _, _ | .record _, _ => .reject

theorem readComponents_yields : ∀ {vs : List Value}, (∀ v ∈ vs, v.isPlain) → ∀ index : Nat,
    Yields (readComponents index vs) LoadedAll
  | [], _, _ => .accepted trivial
  | v :: _, hplain, index =>
    .seq (.map (readComponent_yields (hplain v List.mem_cons_self)).inside
        fun _ hc _ hcs => ⟨hc, hcs⟩)
      (readComponents_yields (fun w hw => hplain w (List.mem_cons_of_mem v hw)) (index + 1))

end

/-! ## Layouts -/

theorem rawLayout_isPlain {source v : Value} (hplain : source.isPlain) (h : rawLayout source = .ok v) :
    v.isPlain := by
  unfold rawLayout at h
  split at h
  · unfold parseText at h
    split at h
    · next w hread =>
      obtain rfl := Except.ok.inj h
      exact Json.read_isPlain hread
    all_goals cases h
  · cases hplain
  · obtain rfl := Except.ok.inj h
    exact hplain

theorem rawComponents_isPlain {v : Value} (hplain : v.isPlain) {items : List Value}
    (h : rawComponents v = .ok items) : ∀ w ∈ items, w.isPlain := by
  unfold rawComponents at h
  split at h
  · split at h
    · cases h
    · next hlookup =>
      split at h
      · next hitems =>
        obtain rfl := Except.ok.inj h
        exact Value.isPlain_of_items? (Value.isPlain_of_lookup hplain hlookup) hitems
      · cases h
  · split at h
    · next hitems =>
      obtain rfl := Except.ok.inj h
      exact Value.isPlain_of_items? hplain hitems
    · cases h

theorem checkComponents_eq_ok_iff {items : List Value} {layout : Layout} :
    checkComponents items = .ok layout ↔ readComponents 0 items = .accepted layout := by
  unfold checkComponents
  split <;> simp_all

theorem loadLayout_eq_ok_iff {source : Value} {layout : Layout} :
    loadLayout source = .ok layout ↔ ∃ v items, rawLayout source = .ok v ∧
      rawComponents v = .ok items ∧ readComponents 0 items = .accepted layout := by
  constructor
  · intro h
    obtain ⟨v, hv, h⟩ := bind_eq_ok_iff.mp h
    obtain ⟨items, hitems, h⟩ := bind_eq_ok_iff.mp (mapError_eq_ok_iff.mp h)
    exact ⟨v, items, hv, hitems, checkComponents_eq_ok_iff.mp h⟩
  · rintro ⟨v, items, hv, hitems, h⟩
    refine bind_eq_ok_iff.mpr ⟨v, hv, mapError_eq_ok_iff.mpr ?_⟩
    exact bind_eq_ok_iff.mpr ⟨items, hitems, checkComponents_eq_ok_iff.mpr h⟩

/-- A layout that is read from plain data is as layouts are that are read. -/
theorem loaded_of_loadLayout {source : Value} (hplain : source.isPlain) {layout : Layout}
    (h : loadLayout source = .ok layout) : LoadedAll layout := by
  obtain ⟨v, items, hv, hitems, hread⟩ := loadLayout_eq_ok_iff.mp h
  exact readComponents_yields (rawComponents_isPlain (rawLayout_isPlain hplain hv) hitems) 0 layout hread

end DocTemplate
