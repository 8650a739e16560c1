import DocTemplate.Proofs.Layout.Cycles
import DocTemplate.Proofs.Layout.Outline

/-!
# Shared parts

A raw layout whose parts are shared, but none of which is inside itself, is read as the tree that it unrolls to: a
part that stands in several places is there once for each of them. Main statement: `loading_keeps_the_tree`.
-/

namespace DocTemplate

open Relation

/-- A layout has kept the tree of raw components, whose outline is the only one that they have. One visits one
component for each node of the outline, in order, with its name, its kind and the class of its kind; and what is
written of the layout has the outline again. -/
def KeepsTree {ι : Type} (V : View ι) (items : List ι) (layout : Layout) : Prop :=
  ∃ outlines, V.Outlines items outlines ∧ (∀ others, V.Outlines items others → others = outlines) ∧
    layout.components.map Component.tag = (Outline.nodesOf outlines).map Outline.tag ∧
    ∃ dump, dumpLayout layout = .ok dump ∧ Value.view.Outlines dump outlines

theorem keepsTree_of_loaded {ι : Type} {V : View ι} {items : List ι} {layout : Layout} (h : LoadedAll layout)
    (houtlines : V.Outlines items (outlinesOf layout)) : KeepsTree V items layout := by
  have hunique (others : List Outline) (hothers : V.Outlines items others) : others = outlinesOf layout :=
    hothers.unique houtlines
  exact ⟨outlinesOf layout, houtlines, hunique, map_tag_subtrees h, outlines_dumpComponents h⟩

/-- The cells that a cell holds. -/
def Cell.parts : Cell → List Nat
  | .leaf _ => []
  | .list items => items
  | .tuple items => items
  | .record fields => fields.map (·.2)

/-- A cell is of a kind that JSON has: what holds no parts is plain, and what holds parts is a list or a record. -/
def Cell.isPlain : Cell → Bool
  | .leaf v => v.isPlain && v.items?.isNone && v.fields?.isNone
  | .list _ => true
  | .tuple _ => false
  | .record _ => true

namespace Graph

variable {g : Graph}

/-- A part of a cell is one of its items or the value of one of its fields. -/
def HasPart (g : Graph) (id part : Nat) : Prop := ∃ cell, g[id]? = some cell ∧ part ∈ cell.parts

/-- The cells are those of plain data: parts may be shared, but nothing is inside itself. -/
structure IsPlain (g : Graph) : Prop where
  cells : ∀ cell ∈ g, cell.isPlain
  acyclic : ∀ id, ¬TransGen g.HasPart id id

theorem lt_of_transGen (hlt : ∀ id part, g.HasPart id part → part < id) {id part : Nat}
    (h : TransGen g.HasPart id part) : part < id := by
  induction h with
  | single h => exact hlt _ _ h
  | tail _ h ih => exact Nat.lt_trans (hlt _ _ h) ih

/-- Nothing is inside itself where cells hold only cells that stand before them. -/
theorem isPlain_of_lt (hcells : ∀ cell ∈ g, cell.isPlain)
    (hlt : ∀ id < g.size, ∀ cell ∈ g[id]?, ∀ part ∈ cell.parts, part < id) : g.IsPlain := by
  have hpart : ∀ id part, g.HasPart id part → part < id := by
    rintro id part ⟨cell, hcell, hpart⟩
    exact hlt id (Array.getElem?_eq_some_iff.mp hcell).1 cell hcell part hpart
  exact ⟨hcells, fun id hcycle => Nat.lt_irrefl id (lt_of_transGen hpart hcycle)⟩

/-- A cell that holds null, or no cell. -/
def isUnset (g : Graph) (id : Nat) : Bool :=
  match g[id]? with
  | some (.leaf v) => v.isNull
  | some _ => false
  | none => true

/-- The value of a cell without parts. -/
def atom? (g : Graph) (id : Nat) : Option Value :=
  match g[id]? with
  | some (.leaf v) => some v
  | _ => none

/-- Cells as raw data. -/
def view (g : Graph) : View Nat where
  field? id name := (g.fields? id).bind fun fields => (fields.filter fun f => !g.isUnset f.2).lookup name
  items? := g.items?
  text? id := (g.atom? id).bind Value.text?

theorem view_field? {id : Nat} {fields : List (String × Nat)} (h : g.fields? id = some fields) (name : String) :
    g.view.field? id name = (fields.filter fun f => !g.isUnset f.2).lookup name := by
  simp [view, h]

/-! ## Unrolled cells -/

theorem IsPlain.cell {id : Nat} {cell : Cell} (hg : g.IsPlain) (h : g[id]? = some cell) : cell.isPlain :=
  hg.cells cell (Array.mem_of_getElem? h)

theorem IsPlain.leaf {id : Nat} {v : Value} (hg : g.IsPlain) (h : g[id]? = some (.leaf v)) :
    v.isPlain ∧ v.items? = none ∧ v.fields? = none := by
  have hcell := hg.cell h
  simpa [Cell.isPlain, and_assoc] using hcell

theorem isPlain_unroll (hg : g.IsPlain) (fuel : Nat) (above : List Nat) (id : Nat) :
    (g.unroll fuel above id).isPlain := by
  induction fuel generalizing above id with
  | zero => rfl
  | succ fuel ih =>
    unfold unroll
    split
    · rfl
    · next v hcell => exact (hg.leaf hcell).1
    · refine Value.isPlain_list.mpr fun v hv => ?_
      split at hv
      · cases hv
      · obtain ⟨id, -, rfl⟩ := List.mem_map.mp hv
        exact ih _ id
    · next hcell => cases hg.cell hcell
    · refine Value.isPlain_record.mpr fun f hf => ?_
      split at hf
      · cases hf
      · obtain ⟨part, -, rfl⟩ := List.mem_map.mp hf
        exact ih _ part.2

section

variable (fuel : Nat) (above : List Nat) (id : Nat)

theorem isNull_unroll : (g.unroll (fuel + 1) above id).isNull = g.isUnset id := by
  unfold unroll isUnset
  cases g[id]? with
  | none => rfl
  | some cell => cases cell <;> rfl

theorem text?_unroll : (g.unroll (fuel + 1) above id).text? = g.view.text? id := by
  change _ = (g.atom? id).bind Value.text?
  unfold unroll atom?
  cases g[id]? with
  | none => rfl
  | some cell => cases cell <;> rfl

end

section

variable {fuel : Nat} {above : List Nat} {id : Nat}

theorem not_deep (hid : id ∉ above) : ¬followLimit ≤ above.count id := by
  rw [List.count_eq_zero.mpr hid]
  decide

/-- A cell that is not inside itself is unrolled with all its items. -/
theorem items?_unroll (hg : g.IsPlain) (hid : id ∉ above) :
    (g.unroll (fuel + 1) above id).items? = (g.items? id).map (List.map (g.unroll fuel (id :: above))) := by
  rw [unroll, items?]
  cases hcell : g[id]? with
  | none => rfl
  | some cell =>
    cases cell with
    | leaf v => exact (hg.leaf hcell).2.1
    | list items => simp [not_deep hid, Value.items?]
    | tuple items => cases hg.cell hcell
    | record fields => rfl

/-- A cell that is not inside itself is unrolled with all its fields. -/
theorem fields?_unroll (hg : g.IsPlain) (hid : id ∉ above) : (g.unroll (fuel + 1) above id).fields? =
    (g.fields? id).map (List.map fun f => (f.1, g.unroll fuel (id :: above) f.2)) := by
  rw [unroll, fields?]
  cases hcell : g[id]? with
  | none => rfl
  | some cell =>
    cases cell with
    | leaf v => exact (hg.leaf hcell).2.2
    | list items => rfl
    | tuple items => cases hg.cell hcell
    | record fields => simp [not_deep hid, Value.fields?]

theorem lookup_map {α β : Type} (f : α → β) (fields : List (String × α)) (name : String) :
    (fields.map fun p => (p.1, f p.2)).lookup name = (fields.lookup name).map f := by
  induction fields with
  | nil => rfl
  | cons p fields ih =>
    rw [List.map_cons, List.lookup_cons, List.lookup_cons, ih]
    split <;> rfl

/-- A field is set in a record exactly if it is in what the record is unrolled to. -/
theorem field?_unroll (hg : g.IsPlain) (hid : id ∉ above) (name : String) :
    Value.view.field? (g.unroll (fuel + 2) above id) name =
      (g.view.field? id name).map (g.unroll (fuel + 1) (id :: above)) := by
  simp only [Value.view, view, fields?_unroll hg hid]
  cases g.fields? id with
  | none => rfl
  | some fields =>
    simp only [Option.map_some, Option.bind_some, dropNulls, List.filter_map, Function.comp_def, isNull_unroll]
    exact lookup_map ..

/-- Nothing is set in what has not been followed. -/
theorem exists_fuel_of_field? (hg : g.IsPlain) (hid : id ∉ above) {name : String} {v : Value}
    (h : Value.view.field? (g.unroll fuel above id) name = some v) : ∃ n, fuel = n + 2 := by
  rcases fuel with _ | _ | n
  · cases h
  · simp only [Value.view, fields?_unroll hg hid] at h
    cases hfields : g.fields? id with
    | none => simp [hfields] at h
    | some fields =>
      have hnone : dropNulls (fields.map fun f => (f.1, Value.null)) = [] :=
        List.filter_eq_nil_iff.mpr (List.forall_mem_map.mpr fun f _ => by simp [Value.isNull])
      simp [hfields, unroll, hnone] at h
  · exact ⟨n, rfl⟩

theorem textOf?_unroll (hg : g.IsPlain) (hid : id ∉ above) (name : String) :
    Value.view.textOf? (g.unroll (fuel + 2) above id) name = g.view.textOf? id name := by
  rw [View.textOf?, View.textOf?, field?_unroll hg hid]
  cases g.view.field? id name with
  | none => rfl
  | some part => exact text?_unroll fuel (id :: above) part

end

theorem hasPart_of_items? {list part : Nat} {items : List Nat} (h : g.items? list = some items) (hmem : part ∈ items) :
    g.HasPart list part := by
  unfold items? at h
  split at h
  · next hcell => exact ⟨_, hcell, Option.some.inj h ▸ hmem⟩
  · next hcell => exact ⟨_, hcell, Option.some.inj h ▸ hmem⟩
  · cases h

theorem hasPart_of_fields? {id part : Nat} {fields : List (String × Nat)} {name : String}
    (h : g.fields? id = some fields) (hmem : (name, part) ∈ fields) : g.HasPart id part := by
  unfold fields? at h
  split at h
  · next hcell =>
    obtain rfl := Option.some.inj h
    exact ⟨_, hcell, List.mem_map_of_mem hmem⟩
  · cases h

/-- A part that a field leads to is inside the record. -/
theorem hasPart_of_field? {id part : Nat} {name : String} (h : g.view.field? id name = some part) :
    g.HasPart id part := by
  obtain ⟨fields, hfields, hlookup⟩ := Option.bind_eq_some_iff.mp h
  obtain ⟨before, after, heq, -⟩ := List.lookup_eq_some_iff.mp hlookup
  have hmem : (name, part) ∈ fields.filter fun f => !g.isUnset f.2 := by simp [heq]
  exact hasPart_of_fields? hfields (List.mem_filter.mp hmem).1

/-- A cell is inside all those above it. -/
def Below (g : Graph) (above : List Nat) (id : Nat) : Prop := ∀ a ∈ above, TransGen g.HasPart a id

namespace Below

variable {above : List Nat} {id : Nat}

theorem notMem (h : g.Below above id) (hg : g.IsPlain) : id ∉ above := fun hid => hg.acyclic id (h id hid)

theorem part {inner : Nat} (h : g.Below above id) (hpart : g.HasPart id inner) : g.Below (id :: above) inner :=
  List.forall_mem_cons.mpr ⟨.single hpart, fun a ha => (h a ha).tail hpart⟩

end Below

/-- What is inside a node is unrolled further down. -/
theorem exists_inside?_of_unroll (hg : g.IsPlain) {fuel : Nat} {above : List Nat} {id : Nat} (h : g.Below above id)
    {kind : String} {items : List Value}
    (hinside : Value.view.inside? (g.unroll (fuel + 2) above id) kind = some items) :
    ∃ above' ids, g.view.inside? id kind = some ids ∧ items = ids.map (g.unroll fuel above') ∧
      ∀ part ∈ ids, g.Below above' part := by
  have hnothing : ∃ above' ids, some [] = some ids ∧ ([] : List Value) = ids.map (g.unroll fuel above') ∧
      ∀ part ∈ ids, g.Below above' part := ⟨[], [], rfl, rfl, List.forall_mem_nil _⟩
  by_cases hkind : kind = Kind.box.name
  · simp only [View.inside?, if_pos hkind, field?_unroll hg (h.notMem hg)] at hinside ⊢
    cases hchildren : g.view.field? id "children" with
    | none =>
      simp only [hchildren, Option.map_none] at hinside
      obtain rfl := Option.some.inj hinside
      exact hnothing
    | some list =>
      have hlist : g.Below (id :: above) list := h.part (hasPart_of_field? hchildren)
      simp only [hchildren, Option.map_some, Value.view_items?, items?_unroll hg (hlist.notMem hg)] at hinside
      obtain ⟨ids, hids, rfl⟩ := Option.map_eq_some_iff.mp hinside
      exact ⟨list :: id :: above, ids, hids, rfl, fun part hpart => hlist.part (hasPart_of_items? hids hpart)⟩
  · rw [View.inside?_of_ne hkind] at hinside ⊢
    obtain rfl := Option.some.inj hinside
    exact hnothing

/-- The outline of what cells are unrolled to is their own outline. -/
theorem outlines_of_unroll (hg : g.IsPlain) {vs : List Value} {os : List Outline} (h : Value.view.Outlines vs os) :
    ∀ {fuel : Nat} {above ids : List Nat}, vs = ids.map (g.unroll fuel above) → (∀ id ∈ ids, g.Below above id) →
      g.view.Outlines ids os := by
  induction h with
  | nil =>
    intro fuel above ids hids _
    rw [List.map_eq_nil_iff.mp hids.symm]
    exact .nil
  | cons htext hkind hinside _ _ ihInner ihRest =>
    intro fuel above ids hids hbelow
    obtain ⟨id, rest, rfl, rfl, hrest⟩ := List.map_eq_cons_iff.mp hids.symm
    obtain ⟨hid, hlater⟩ := List.forall_mem_cons.mp hbelow
    obtain ⟨v, hv, -⟩ := Option.bind_eq_some_iff.mp htext
    obtain ⟨n, rfl⟩ := exists_fuel_of_field? hg (hid.notMem hg) hv
    rw [textOf?_unroll hg (hid.notMem hg)] at htext hkind
    obtain ⟨above', items, hitems, hunrolled, hinner⟩ := exists_inside?_of_unroll hg hid hinside
    exact .cons htext hkind hitems (ihInner hunrolled hinner) (ihRest hrest.symm hlater)

/-! ## Loading -/

/-- What is held as a component or a list of them is a part. -/
theorem Holds.hasPart {id part : Nat} (h : g.Holds id part) : g.HasPart id part := by
  cases h with
  | item hitems hmem _ => exact hasPart_of_items? hitems hmem
  | children hfields hkey _ =>
    obtain ⟨before, after, rfl, -⟩ := List.lookup_eq_some_iff.mp hkey
    exact hasPart_of_fields? hfields (List.mem_append_right before List.mem_cons_self)

/-- No component of plain data is inside itself. -/
theorem IsPlain.cycle?_eq_none (hg : g.IsPlain) {list : Nat} {items : List Nat} (hitems : g.items? list = some items) :
    g.cycle? list = none := by
  rw [← Option.not_isSome_iff_eq_none, cycle?_isSome_iff hitems]
  rintro ⟨id, -, hcycle⟩
  have hle : g.Holds ≤ g.HasPart := fun _ _ h => h.hasPart
  exact hg.acyclic id (TransGen.mono hle id id hcycle)

theorem load_eq_ok_iff {root list : Nat} {items : List Nat} {layout : Layout} (hlist : g.componentList root = .ok list)
    (hitems : g.items? list = some items) : g.load root = .ok layout ↔
      g.cycle? list = none ∧ readComponents 0 (items.map g.valueOf) = .accepted layout := by
  unfold load
  split
  · next v hleaf => exact absurd hleaf (ne_leaf_of_componentList hlist v)
  · rw [mapError_eq_ok_iff, hlist, ← checkComponents_eq_ok_iff]
    dsimp only [bind, Except.bind]
    cases g.cycle? list with
    | some path => simp
    | none => simp [hitems]

end Graph

open DocTemplate.Graph

/-- Loading keeps the tree of a raw layout of plain data: of a value, given as it is or as JSON, or of cells that may
share their parts. -/
theorem loading_keeps_the_tree :
    (∀ source v layout, rawLayout source = .ok v → v.isPlain → loadLayout source = .ok layout →
      ∃ items, rawComponents v = .ok items ∧ KeepsTree Value.view items layout) ∧
    (∀ (g : Graph) root list layout, g.IsPlain → g.componentList root = .ok list → g.load root = .ok layout →
      ∃ items, g.items? list = some items ∧ KeepsTree g.view items layout) := by
  constructor
  · intro source v layout hv hplain hload
    obtain ⟨w, items, hw, hitems, hread⟩ := loadLayout_eq_ok_iff.mp hload
    obtain rfl := Except.ok.inj (hv.symm.trans hw)
    have hplainItems := rawComponents_isPlain hplain hitems
    have houtlines := outlines_of_readComponents hplainItems 0 layout hread
    exact ⟨items, hitems, keepsTree_of_loaded (readComponents_yields hplainItems 0 layout hread) houtlines⟩
  · intro g root list layout hg hlist hload
    obtain ⟨items, hitems⟩ := items?_of_componentList hlist
    obtain ⟨-, hread⟩ := (load_eq_ok_iff hlist hitems).mp hload
    have hplain : ∀ v ∈ items.map g.valueOf, v.isPlain := List.forall_mem_map.mpr fun id _ => isPlain_unroll hg _ [] id
    have houtlines := outlines_of_readComponents hplain 0 layout hread
    have hbelow : ∀ id ∈ items, g.Below [] id := fun _ _ => List.forall_mem_nil _
    exact ⟨items, hitems, keepsTree_of_loaded (readComponents_yields hplain 0 layout hread)
      (outlines_of_unroll hg houtlines rfl hbelow)⟩

/-- Two boxes that share their children with a component of an unknown kind, in a record of components. -/
def sharedNote : Graph := #[
  .leaf (.text "note"),
  .leaf (.text "text"),
  .record [("id", 0), ("type", 1)],
  .list [2],
  .leaf (.text "box"),
  .leaf (.text "signature"),
  .leaf .null,
  .record [("label", 6), ("id", 4), ("type", 4), ("children", 3)],
  .record [("children", 3), ("type", 4), ("id", 5)],
  .record [("id", 5), ("type", 5), ("children", 3)],
  .list [7, 8, 9],
  .record [("components", 10)]]

/-- The same components, each with a note of its own. -/
def unsharedNote : Value :=
  let notes : Value := .list [.record [("id", .text "note"), ("type", .text "text")]]
  .list [.record [("label", .null), ("id", .text "box"), ("type", .text "box"), ("children", notes)],
    .record [("children", notes), ("type", .text "box"), ("id", .text "signature")],
    .record [("id", .text "signature"), ("type", .text "signature"), ("children", notes)]]

/-- The layout of both: the note stands in either box, and the unknown component keeps it as it is. -/
def noteLayout : Layout :=
  [.box { id := "box" } [.text { id := "note" }], .box { id := "signature" } [.text { id := "note" }],
    .unknown { id := "signature" } "signature"
      [("children", .list [.record [("id", .text "note"), ("type", .text "text")]])]]

theorem shared_note_is_kept :
    (rawLayout unsharedNote = .ok unsharedNote ∧ unsharedNote.isPlain ∧ loadLayout unsharedNote = .ok noteLayout ∧
      ∃ items, rawComponents unsharedNote = .ok items ∧ KeepsTree Value.view items noteLayout) ∧
    (sharedNote.IsPlain ∧ sharedNote.componentList 11 = .ok 10 ∧ sharedNote.load 11 = .ok noteLayout ∧
      ∃ items, sharedNote.items? 10 = some items ∧ KeepsTree sharedNote.view items noteLayout) := by
  constructor
  · have hplain : unsharedNote.isPlain := by decide +kernel
    have hload : loadLayout unsharedNote = .ok noteLayout := rfl
    exact ⟨rfl, hplain, hload, loading_keeps_the_tree.1 unsharedNote unsharedNote noteLayout rfl hplain hload⟩
  · have hg : sharedNote.IsPlain := isPlain_of_lt (by decide +kernel) (by decide +kernel)
    have hlist : sharedNote.componentList 11 = .ok 10 := rfl
    have hload : sharedNote.load 11 = .ok noteLayout :=
      (load_eq_ok_iff hlist rfl).mpr ⟨hg.cycle?_eq_none rfl, rfl⟩
    exact ⟨hg, hlist, hload, loading_keeps_the_tree.2 sharedNote 11 10 noteLayout hg hlist hload⟩

end DocTemplate
