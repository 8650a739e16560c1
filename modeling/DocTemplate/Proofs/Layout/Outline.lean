import DocTemplate.Proofs.Layout.RoundTrip

/-!
# Outlines of layouts

The outline of raw components says which nodes there are, of what name and kind, and which are inside which:
boxes alone have nodes inside. What is read of raw components has their outline, visits its nodes in order and
is written with the same outline again. Main statements: `outlines_of_readComponents`, `map_tag_subtrees`,
`outlines_dumpComponents`.
-/

namespace DocTemplate

open Checked

/-- A node with its name and the name of its kind, and the nodes inside it. -/
structure Outline where
  id : String
  kind : String
  inner : List Outline

namespace Outline

mutual

/-- A node and all nodes inside it, from the outside in. -/
def nodes : Outline → List Outline
  | ⟨id, kind, inner⟩ => ⟨id, kind, inner⟩ :: nodesOf inner

/-- The nodes of a list and all nodes inside them, in order. -/
def nodesOf : List Outline → List Outline
  | [] => []
  | o :: os => o.nodes ++ nodesOf os

end

/-- The name of a node, the name of its kind, and the kind if that is a known one. -/
def tag (o : Outline) : String × String × Option Kind := (o.id, o.kind, Kind.named? o.kind)

end Outline

/-- How raw data are looked at: the fields of a record that are set, the items of a list, and texts. -/
structure View (ι : Type) where
  field? : ι → String → Option ι
  items? : ι → Option (List ι)
  text? : ι → Option String

namespace View

variable {ι : Type} (V : View ι)

/-- The text of a field. -/
def textOf? (x : ι) (name : String) : Option String := (V.field? x name).bind V.text?

/-- What is inside a node of a kind: the children of a box, and nothing otherwise, whatever it calls its
children. -/
def inside? (x : ι) (kind : String) : Option (List ι) :=
  if kind = Kind.box.name then
    match V.field? x "children" with
    | some list => V.items? list
    | none => some []
  else some []

/-- Raw components have an outline: each is a record with a name and a kind, and so is all that is inside. -/
inductive Outlines : List ι → List Outline → Prop
  | nil : Outlines [] []
  | cons {x : ι} {xs items : List ι} {id kind : String} {inner rest : List Outline}
    (hid : V.textOf? x "id" = some id) (hkind : V.textOf? x "type" = some kind)
    (hinside : V.inside? x kind = some items) (hinner : Outlines items inner) (hrest : Outlines xs rest) :
    Outlines (x :: xs) (⟨id, kind, inner⟩ :: rest)

variable {V}

theorem inside?_of_ne {x : ι} {kind : String} (h : kind ≠ Kind.box.name) : V.inside? x kind = some [] := if_neg h

/-- Raw components have one outline only. -/
theorem Outlines.unique {xs : List ι} {os ps : List Outline} (ho : V.Outlines xs os) (hp : V.Outlines xs ps) :
    os = ps := by
  induction ho generalizing ps with
  | nil =>
    cases hp
    rfl
  | cons hid hkind hinside _ _ ihInner ihRest =>
    cases hp with
    | cons hid' hkind' hinside' hinner' hrest' =>
      obtain rfl := Option.some.inj (hid.symm.trans hid')
      obtain rfl := Option.some.inj (hkind.symm.trans hkind')
      obtain rfl := Option.some.inj (hinside.symm.trans hinside')
      rw [ihInner hinner', ihRest hrest']

theorem Outlines.append {xs ys : List ι} {os ps : List Outline} (h : V.Outlines xs os) (hrest : V.Outlines ys ps) :
    V.Outlines (xs ++ ys) (os ++ ps) := by
  induction h with
  | nil => exact hrest
  | cons hid hkind hinside hinner _ _ ihRest => exact .cons hid hkind hinside hinner ihRest

end View

/-- Values as raw data: a field that is null is not set. -/
def Value.view : View Value where
  field? v name := v.fields?.bind fun fields => (dropNulls fields).lookup name
  items? := Value.items?
  text? := Value.text?

namespace Value

variable (fields : Fields) (v : Value) (name : String)

@[simp] theorem view_field? : view.field? (record fields) name = (dropNulls fields).lookup name := rfl

@[simp] theorem view_items? : view.items? v = v.items? := rfl

@[simp] theorem view_text? : view.text? v = v.text? := rfl

end Value

mutual

/-- The outline of a component. -/
def Component.outline : Component → Outline
  | .box common children => ⟨common.id, Kind.box.name, outlinesOf children⟩
  | c => ⟨c.common.id, c.kindName, []⟩

def outlinesOf : List Component → List Outline
  | [] => []
  | c :: cs => c.outline :: outlinesOf cs

end

/-- What is seen of a component that is visited: its name, the name of its kind, and its class. -/
def Component.tag (c : Component) : String × String × Option Kind := (c.common.id, c.kindName, c.kind?)

theorem Component.outline_eq (c : Component) : c.outline = ⟨c.common.id, c.kindName, outlinesOf c.children⟩ := by
  cases c <;> rfl

theorem Component.children_of_kind? {c : Component} (h : c.kind? ≠ some .box) : c.children = [] := by
  cases c with
  | box => exact absurd rfl h
  | _ => rfl

/-! ## Visiting -/

/-- A component that was read is of the class that the name of its kind says. -/
theorem Component.Loaded.named?_kindName {c : Component} (h : c.Loaded) : Kind.named? c.kindName = c.kind? := by
  cases hkind : c.kind? with
  | some k => rw [c.kindName_of_kind? hkind, Kind.named?_name]
  | none =>
    cases c with
    | unknown => exact h.2.1
    | _ => cases hkind

theorem Component.Loaded.tag_outline {c : Component} (h : c.Loaded) : c.outline.tag = c.tag := by
  rw [c.outline_eq, Outline.tag, h.named?_kindName]
  rfl

mutual

theorem map_tag_subtree : ∀ {c : Component}, c.Loaded → c.subtree.map Component.tag = c.outline.nodes.map Outline.tag
  | .box common children, h => by
    have htag := h.tag_outline
    rw [Component.subtree, List.map_cons, map_tag_subtrees h.2]
    rw [Component.outline] at htag ⊢
    rw [Outline.nodes, List.map_cons, htag]
  | .heading .., h | .text .., h | .list .., h | .chips .., h | .divider .., h | .spacer .., h | .image .., h
  | .table .., h | .unknown .., h => congrArg ([·]) h.tag_outline.symm

theorem map_tag_subtrees : ∀ {cs : List Component}, LoadedAll cs →
    (Component.subtrees cs).map Component.tag = (Outline.nodesOf (outlinesOf cs)).map Outline.tag
  | [], _ => rfl
  | c :: cs, ⟨h, hrest⟩ => by
    rw [Component.subtrees, outlinesOf, Outline.nodesOf, List.map_append, List.map_append, map_tag_subtree h,
      map_tag_subtrees hrest]

end

/-! ## Reading -/

section

variable {fields : Fields}

theorem textOf?_eq_some {name text : String} (h : (dropNulls fields).lookup name = some (.text text)) :
    Value.view.textOf? (.record fields) name = some text := by
  simp [View.textOf?, h, Value.text?]

theorem readCommon_id_yields (hplain : (Value.record fields).isPlain) :
    Yields (readCommon (dropNulls fields)) fun c => Value.view.textOf? (.record fields) "id" = some c.id := by
  refine .seq (.seq (.seq (.seq (.seq (.map (required_readText_yields hplain "id") ?_) .any) .any) .any) .any) .any
  intro _ hid _ _ _ _ _ _ _ _ _ _
  exact textOf?_eq_some hid

/-- The type of a node of a known kind is the name of the kind. -/
theorem textOf?_type_of_kindOf? {kind : Kind} (h : kindOf? (dropNulls fields) = some kind) :
    Value.view.textOf? (.record fields) "type" = some kind.name := by
  unfold kindOf? at h
  split at h
  · next name hlookup =>
    have hname : kind.name = name := by simpa using List.find?_some h
    rw [hname]
    exact textOf?_eq_some hlookup
  · cases h

/-- A component of a known kind is of that class; only a box has children. -/
theorem readKind_class_yields {set : Fields} {children : Unit → Checked (List Component)} {Q : Common → Prop}
    {R : List Component → Prop} (hcommon : Yields (readCommon set) Q) (hchildren : Yields (children ()) R)
    (kind : Kind) : Yields (readKind set children kind) fun c =>
      Q c.common ∧ c.kind? = some kind ∧ (c.kind? = some .box → R c.children) := by
  cases kind with
  | heading => exact .seq (.map hcommon fun _ hc _ _ => ⟨hc, rfl, by simp [Component.kind?]⟩) .any
  | text => exact .map hcommon fun _ hc => ⟨hc, rfl, by simp [Component.kind?]⟩
  | list => exact .seq (.map hcommon fun _ hc _ _ => ⟨hc, rfl, by simp [Component.kind?]⟩) .any
  | chips => exact .seq (.map hcommon fun _ hc _ _ => ⟨hc, rfl, by simp [Component.kind?]⟩) .any
  | divider => exact .map hcommon fun _ hc => ⟨hc, rfl, by simp [Component.kind?]⟩
  | spacer => exact .seq (.map hcommon fun _ hc _ _ => ⟨hc, rfl, by simp [Component.kind?]⟩) .any
  | image =>
    refine .seq (.seq (.seq (.map hcommon ?_) .any) .any) .any
    exact fun _ hc _ _ _ _ _ _ => ⟨hc, rfl, by simp [Component.kind?]⟩
  | box => exact .seq (.map hcommon fun _ hc _ hchildren => ⟨hc, rfl, fun _ => hchildren⟩) hchildren
  | table =>
    refine .seq (.seq (.seq (.map hcommon ?_) .any) .any) .any
    exact fun _ hc _ _ _ _ _ _ => ⟨hc, rfl, by simp [Component.kind?]⟩

theorem readUnknown_class_yields {set : Fields} {Q : Common → Prop} {R : String → Prop}
    (hcommon : Yields (readCommon set) Q) (htype : Yields (required set (.word "type") readText) R) :
    Yields (readUnknown set) fun c => Q c.common ∧ c.kind? = none ∧ R c.kindName :=
  .seq (.map hcommon fun _ hc _ hname => ⟨hc, rfl, hname⟩) htype

end

/-- What is inside a raw box has the outline of components. -/
def ChildrenOutlined (v : Value) (cs : List Component) : Prop :=
  ∃ items, Value.view.inside? v Kind.box.name = some items ∧ Value.view.Outlines items (outlinesOf cs)

/-- A raw component has the outline of a component of its name and kind: only of a box it has to be known what is
inside. -/
theorem outlines_singleton {v : Value} {c : Component} (h : c.Loaded)
    (hid : Value.view.textOf? v "id" = some c.common.id) (htype : Value.view.textOf? v "type" = some c.kindName)
    (hbox : c.kind? = some .box → ChildrenOutlined v c.children) : Value.view.Outlines [v] [c.outline] := by
  rw [c.outline_eq]
  by_cases hkind : c.kind? = some .box
  · obtain ⟨items, hinside, hinner⟩ := hbox hkind
    rw [← c.kindName_of_kind? hkind] at hinside
    exact .cons hid htype hinside hinner .nil
  · have hname : c.kindName ≠ Kind.box.name := by
      intro hname
      have hknown := h.named?_kindName
      rw [hname, Kind.named?_name] at hknown
      exact hkind hknown.symm
    rw [c.children_of_kind? hkind]
    exact .cons hid htype (View.inside?_of_ne hname) .nil .nil

/-- The children of a box are those of the first field of the name that is set. -/
theorem inside?_cons {key : String} {v : Value} (hskip : (key == "children" && !v.isNull) = false) (fields : Fields) :
    Value.view.inside? (.record ((key, v) :: fields)) Kind.box.name =
      Value.view.inside? (.record fields) Kind.box.name := by
  have hfield : (dropNulls ((key, v) :: fields)).lookup "children" = (dropNulls fields).lookup "children" := by
    by_cases hnull : v.isNull
    · simp [dropNulls, hnull]
    · have hkey : "children" ≠ key := by
        rintro rfl
        simp [hnull] at hskip
      simp [dropNulls, hnull, hkey]
  simp only [View.inside?, Value.view_field?, hfield]

mutual

theorem outlines_of_readComponent : ∀ {v : Value}, v.isPlain →
    Yields (readComponent v) fun c => Value.view.Outlines [v] [c.outline]
  | .record fields, hplain => by
    intro c hc
    have hloaded := readComponent_yields hplain c hc
    have hcommon := readCommon_id_yields hplain
    rw [readComponent] at hc
    split at hc
    · next kind hkind =>
      have hchildren := childrenOutlined_of_readChildren (Value.isPlain_record.mp hplain)
      obtain ⟨hid, hclass, hbox⟩ := (readKind_class_yields hcommon hchildren kind).inside c hc
      have htype := textOf?_type_of_kindOf? hkind
      rw [← c.kindName_of_kind? hclass] at htype
      exact outlines_singleton hloaded hid htype hbox
    · obtain ⟨hid, hclass, htype⟩ :=
        (readUnknown_class_yields hcommon (required_readText_yields hplain "type")).inside c hc
      exact outlines_singleton hloaded hid (textOf?_eq_some htype) (by simp [hclass])
  | .null, _ | .bool _, _ | .int _, _ | .float _, _ | .decimal _, _ | .text _, _ | .bytes _, _
  | .date _, _ | .moment _, _ | .list _, _ | .tuple _, _ => Yields.reject.inside

theorem childrenOutlined_of_readChildren : ∀ {fields : List (String × Value)}, (∀ f ∈ fields, f.2.isPlain) →
    Yields (readChildren fields) (ChildrenOutlined (.record fields))
  | [], _ => .accepted ⟨[], rfl, .nil⟩
  | (key, v) :: fields, hplain => by
    intro cs hcs
    rw [readChildren] at hcs
    split at hcs
    · next hfound =>
      obtain ⟨hkey, hset⟩ := Bool.and_eq_true_iff.mp hfound
      obtain ⟨items, hitems, hinner⟩ := (outlines_of_readChildList (hplain (key, v) List.mem_cons_self)).inside cs hcs
      refine ⟨items, ?_, hinner⟩
      obtain rfl := eq_of_beq hkey
      simpa [View.inside?, dropNulls, hset] using hitems
    · next hskip =>
      obtain ⟨items, hinside, hinner⟩ :=
        childrenOutlined_of_readChildren (fun f hf => hplain f (List.mem_cons_of_mem _ hf)) cs hcs
      exact ⟨items, (inside?_cons (Bool.eq_false_iff.mpr hskip) fields).trans hinside, hinner⟩

theorem outlines_of_readChildList : ∀ {v : Value}, v.isPlain → Yields (readChildList v) fun cs =>
    ∃ items, v.items? = some items ∧ Value.view.Outlines items (outlinesOf cs)
  | .list items, hplain =>
    fun cs hcs => ⟨items, rfl, outlines_of_readComponents (Value.isPlain_list.mp hplain) 0 cs hcs⟩
  | .null, _ | .bool _, _ | .int _, _ | .float _, _ | .text _, _ | .record _, _ => .reject

/-- Plain raw components that are read have the outline of what they are read as. -/
theorem outlines_of_readComponents : ∀ {vs : List Value}, (∀ v ∈ vs, v.isPlain) → ∀ index : Nat,
    Yields (readComponents index vs) fun cs => Value.view.Outlines vs (outlinesOf cs)
  | [], _, _ => .accepted .nil
  | v :: _, hplain, index =>
    .seq (.map (outlines_of_readComponent (hplain v List.mem_cons_self)).inside fun _ hc _ hcs => hc.append hcs)
      (outlines_of_readComponents (fun w hw => hplain w (List.mem_cons_of_mem v hw)) (index + 1))

end

/-! ## Writing -/

theorem Common.Loaded.exists_conditions {c : Common} (h : c.Loaded) :
    ∃ conditions, c.visibleWhen.mapM Condition.dump = .ok conditions := by
  have hplain := h.visibleWhen
  generalize c.visibleWhen = ks at hplain
  induction ks with
  | nil => exact ⟨[], rfl⟩
  | cons k ks ih =>
    obtain ⟨hk, hks⟩ := List.forall_mem_cons.mp hplain
    obtain ⟨value, hvalue⟩ := Value.exists_toPlain hk
    obtain ⟨conditions, hconditions⟩ := ih hks
    exact ⟨_, mapM_cons_eq_ok_iff.mpr ⟨_, conditions, bind_eq_ok_iff.mpr ⟨value, hvalue, rfl⟩, hconditions, rfl⟩⟩

/-- A component is written with its outline, whatever fields of its own are written behind those that all
components have; those of a box have to hold its children. -/
theorem outlines_dumpWith {c : Component} (h : c.Loaded) (hcommon : c.common.Loaded) (own : Fields)
    (hbox : c.kind? = some .box → ∀ shared : Fields, (∀ f ∈ shared, f.1 ≠ "children") →
      ChildrenOutlined (.record (shared ++ own)) c.children) :
    ∃ v, c.dumpWith own = .ok v ∧ Value.view.Outlines [v] [c.outline] := by
  obtain ⟨conditions, hconditions⟩ := hcommon.exists_conditions
  have hdump := Common.dump_eq_written hconditions c.kindName
  have hset (key : String) (s : String) (hkey : (c.common.written c.kindName conditions).lookup key = some (.text s)) :
      Value.view.textOf? (.record (c.common.written c.kindName conditions ++ own)) key = some s := by
    have hwritten := dropNulls_eq_self (allSet_written c.common c.kindName conditions)
    simp [View.textOf?, dropNulls_append, hwritten, List.lookup_append, hkey, Value.text?]
  refine ⟨_, bind_eq_ok_iff.mpr ⟨_, hdump, rfl⟩, outlines_singleton h (hset "id" _ ?_) (hset "type" _ ?_) ?_⟩
  · simp [Common.written]
  · exact lookup_type_written c.common c.kindName conditions
  · exact fun hkind => hbox hkind _ fun f hf => ne_of_mem_of_not_mem (mem_sharedKeys_of_mem_written hf) (by decide)

theorem outlines_dumpWith_of_ne {c : Component} (h : c.Loaded) (hcommon : c.common.Loaded) (hkind : c.kind? ≠ some .box)
    (own : Fields) : ∃ v, c.dumpWith own = .ok v ∧ Value.view.Outlines [v] [c.outline] :=
  outlines_dumpWith h hcommon own fun hbox => absurd hbox hkind

mutual

theorem outlines_dump : ∀ {c : Component}, c.Loaded → ∃ v, c.dump = .ok v ∧ Value.view.Outlines [v] [c.outline]
  | .heading .., h | .text .., h | .list .., h | .chips .., h | .divider .., h => by
    rw [Component.dump]
    exact outlines_dumpWith_of_ne h h (by simp [Component.kind?]) _
  | .spacer .., h | .image .., h | .table .., h => by
    rw [Component.dump]
    exact outlines_dumpWith_of_ne h h.1 (by simp [Component.kind?]) _
  | .box common children, h => by
    obtain ⟨inner, hdump, hinner⟩ := outlines_dumpComponents h.2
    rw [Component.dump, hdump]
    refine outlines_dumpWith h h.1 _ fun _ shared hshared => ⟨inner, ?_, hinner⟩
    have hnone : (dropNulls shared).lookup "children" = none :=
      lookup_eq_none_of_ne fun f hf => hshared f (List.mem_filter.mp hf).1
    have hset : dropNulls [("children", Value.list inner)] = [("children", .list inner)] := rfl
    simp [View.inside?, dropNulls_append, List.lookup_append, hnone, hset, Value.items?]
  | .unknown _ _ extras, h => by
    obtain ⟨own, hown⟩ := Value.exists_toPlainFields h.2.2.plain
    rw [Component.dump, hown]
    exact outlines_dumpWith_of_ne h h.1 (by simp [Component.kind?]) own

/-- Components that were read are written with their outline. -/
theorem outlines_dumpComponents : ∀ {cs : List Component}, LoadedAll cs →
    ∃ vs, dumpComponents cs = .ok vs ∧ Value.view.Outlines vs (outlinesOf cs)
  | [], _ => ⟨[], rfl, .nil⟩
  | c :: cs, ⟨h, hrest⟩ => by
    obtain ⟨v, hdump, hv⟩ := outlines_dump h
    obtain ⟨vs, hdumps, hvs⟩ := outlines_dumpComponents hrest
    exact ⟨v :: vs, by rw [dumpComponents, hdump, hdumps]; rfl, hv.append hvs⟩

end

end DocTemplate
