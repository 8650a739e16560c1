import DocTemplate.Layout.Graph
import DocTemplate.Layout.Namesake
import DocTemplate.Proofs.Layout.Loaded

/-!
# The sizes of a layout

The sizes that components set are not negative in any layout that is loaded, whatever it is loaded from, but for
those of namesakes, which nothing has checked. Main statement: `Layout.IsLoaded.nonneg`.
-/

namespace DocTemplate

open Checked

/-- The sizes that a style sets. -/
def Style.sizes (s : Style) : List Float :=
  s.fontSize.toList ++ s.padding.toList ++ s.marginBottom.toList ++ (s.border.bind (·.width)).toList

section

variable {s : Style} {x : Float}

theorem fontSize_mem_sizes (h : x ∈ s.fontSize) : x ∈ s.sizes := by
  simp only [Style.sizes, List.mem_append, Option.mem_toList]
  exact .inl (.inl (.inl h))

theorem padding_mem_sizes (h : x ∈ s.padding) : x ∈ s.sizes := by
  simp only [Style.sizes, List.mem_append, Option.mem_toList]
  exact .inl (.inl (.inr h))

theorem marginBottom_mem_sizes (h : x ∈ s.marginBottom) : x ∈ s.sizes := by
  simp only [Style.sizes, List.mem_append, Option.mem_toList]
  exact .inl (.inr h)

end

/-- The size that is read, if it can be. -/
def sizeIn (read : Except Failure (Option Float)) : List Float := (read.toOption.bind id).toList

theorem mem_sizeIn {read : Except Failure (Option Float)} {size? : Option Float} (h : read = .ok size?) {x : Float}
    (hx : x ∈ size?) : x ∈ sizeIn read := by
  rw [h, Option.mem_def.mp hx]
  exact List.mem_singleton_self x

/-- The sizes that a namesake sets in its extra fields: the size of a spacer, the width and height of an
image. -/
def namesakeSizes (extras : Fields) : Kind → List Float
  | .spacer => sizeIn ((Namesake.room extras).map some)
  | .image => sizeIn (Namesake.extent extras "width") ++ sizeIn (Namesake.extent extras "height")
  | _ => []

theorem mem_room {extras : Fields} {x : Float} (h : Namesake.room extras = .ok x) :
    x ∈ namesakeSizes extras .spacer := by
  have hroom : (Namesake.room extras).map some = .ok (some x) := by
    rw [h]
    rfl
  exact mem_sizeIn hroom rfl

/-- The sizes that a component sets and that nothing has checked. -/
def Component.looseSizes : Component → List Float
  | .unknown _ name extras => (Kind.named? name).toList.flatMap (namesakeSizes extras)
  | _ => []

/-- The sizes that a component sets beside those of its style. -/
def Component.ownSizes : Component → List Float
  | .spacer _ size => [size]
  | .image _ _ width height => width.toList ++ height.toList
  | .table _ _ columns _ => columns.flatMap (·.width.toList)
  | c => c.looseSizes

/-- The sizes that a component sets, without those of the components inside it. -/
def Component.sizes (c : Component) : List Float := c.style.sizes ++ c.ownSizes

/-- The sizes that a component sets and that are checked where it is loaded. -/
def Component.checkedSizes (c : Component) : List Float :=
  match c with
  | .unknown .. => c.style.sizes
  | _ => c.sizes

/-- A size of a component is checked where it is loaded, or it is set by a namesake. -/
theorem Component.mem_sizes {c : Component} {x : Float} (h : x ∈ c.sizes) :
    x ∈ c.checkedSizes ∨ x ∈ c.looseSizes := by
  cases c with
  | unknown => exact List.mem_append.mp h
  | _ => exact .inl h

theorem style_sizes_subset (c : Component) : c.style.sizes ⊆ c.sizes := List.subset_append_left ..

theorem ownSizes_subset (c : Component) : c.ownSizes ⊆ c.sizes := List.subset_append_right ..

theorem Component.mem_subtree (c : Component) : c ∈ c.subtree := by
  cases c <;> simp [Component.subtree]

theorem subtree_subset {c : Component} {cs : List Component} (h : c ∈ cs) :
    c.subtree ⊆ Component.subtrees cs := by
  induction h with
  | head cs =>
    rw [Component.subtrees]
    exact List.subset_append_left ..
  | tail b _ ih =>
    rw [Component.subtrees]
    exact fun _ hk => List.mem_append_right _ (ih hk)

theorem exists_of_mem_subtrees {k : Component} {cs : List Component} (h : k ∈ Component.subtrees cs) :
    ∃ c ∈ cs, k ∈ c.subtree := by
  induction cs with
  | nil => exact nomatch h
  | cons c cs ih =>
    rw [Component.subtrees, List.mem_append] at h
    rcases h with h | h
    · exact ⟨c, List.mem_cons_self, h⟩
    · obtain ⟨e, he, hk⟩ := ih h
      exact ⟨e, List.mem_cons_of_mem c he, hk⟩

mutual

theorem subtree_subset_of_mem : ∀ {c k : Component}, k ∈ c.subtree → k.subtree ⊆ c.subtree
  | .box common cs, k, h => by
    rw [Component.subtree, List.mem_cons] at h
    rcases h with rfl | h
    · exact List.Subset.refl _
    · rw [Component.subtree]
      exact fun e he => List.mem_cons_of_mem _ (subtree_subset_subtrees h he)
  | .heading .., k, h | .text .., k, h | .list .., k, h | .chips .., k, h | .divider .., k, h
  | .spacer .., k, h | .image .., k, h | .table .., k, h | .unknown .., k, h => by
    rw [List.mem_singleton.mp h]
    exact List.Subset.refl _

/-- What is inside a component of a tree is in the tree. -/
theorem subtree_subset_subtrees : ∀ {cs : List Component} {k : Component}, k ∈ Component.subtrees cs →
    k.subtree ⊆ Component.subtrees cs
  | [], _, h => nomatch h
  | c :: cs, k, h => by
    rw [Component.subtrees, List.mem_append] at h
    rw [Component.subtrees]
    rcases h with h | h
    · exact fun e he => List.mem_append_left _ (subtree_subset_of_mem h he)
    · exact fun e he => List.mem_append_right _ (subtree_subset_subtrees h he)

end

/-- All sizes that a layout sets. -/
def Layout.sizes (layout : Layout) : List Float := layout.components.flatMap Component.sizes

/-- The sizes that a layout sets and that nothing has checked. -/
def Layout.looseSizes (layout : Layout) : List Float := layout.components.flatMap Component.looseSizes

/-- A layout that has been loaded, from a value or from cells that hold each other. -/
inductive Layout.IsLoaded (layout : Layout) : Prop
  | fromValue (source : Value) (h : loadLayout source = .ok layout)
  | fromCells (g : Graph) (root : Nat) (h : g.load root = .ok layout)

/-- No size of a component is negative that is checked. -/
def Component.SizedAlone (c : Component) : Prop := ∀ x ∈ c.checkedSizes, 0 ≤ x

/-- No size of a component is negative that is checked, and no such size of a component inside it. -/
def Component.Sized (c : Component) : Prop := ∀ k ∈ c.subtree, k.SizedAlone

/-! ## Single components -/

theorem Style.Loaded.nonneg {s : Style} (h : s.Loaded) : ∀ x ∈ s.sizes, 0 ≤ x := by
  intro x hx
  simp only [Style.sizes, List.mem_append, Option.mem_toList] at hx
  rcases hx with ((hx | hx) | hx) | hx
  · exact h.fontSize x hx
  · exact h.padding x hx
  · exact h.marginBottom x hx
  · obtain ⟨b, hb, hwidth⟩ := Option.bind_eq_some_iff.mp hx
    exact h.border b hb x hwidth

theorem Component.sizedAlone {c : Component} (hstyle : ∀ s ∈ c.common.style, s.Loaded)
    (hown : c.kind?.isSome → ∀ x ∈ c.ownSizes, 0 ≤ x) : c.SizedAlone := by
  have hstyled : ∀ x ∈ c.style.sizes, 0 ≤ x := by
    intro x hx
    unfold Component.style at hx
    cases h : c.common.style with
    | none => rw [h] at hx; exact nomatch hx
    | some s => rw [h] at hx; exact (hstyle s h).nonneg x hx
  cases c with
  | unknown => exact hstyled
  | _ => exact List.forall_mem_append.mpr ⟨hstyled, hown rfl⟩

/-- What a component is that has no components inside it. -/
theorem Component.sized_of_leaf {c : Component} (hleaf : c.subtree = [c])
    (hstyle : ∀ s ∈ c.common.style, s.Loaded) (hown : c.kind?.isSome → ∀ x ∈ c.ownSizes, 0 ≤ x) : c.Sized := by
  intro k hk
  rw [hleaf, List.mem_singleton] at hk
  rw [hk]
  exact c.sizedAlone hstyle hown

theorem Component.sized_box {c : Common} {children : List Component} (hstyle : ∀ s ∈ c.style, s.Loaded)
    (hchildren : ∀ k ∈ subtrees children, k.SizedAlone) : (box c children).Sized := by
  intro k hk
  rw [Component.subtree, List.mem_cons] at hk
  rcases hk with rfl | hk
  · exact sizedAlone hstyle fun _ x hx => nomatch hx
  · exact hchildren k hk

theorem readCommon_style_yields (fields : Fields) :
    Yields (readCommon fields) fun c => ∀ s ∈ c.style, s.Loaded := by
  refine .seq (.seq (.seq (.seq (.seq (.map .any ?_) .any) .any) .any)
    (optional_readStyle_yields fields _)) .any
  intro _ _ _ _ _ _ _ _ _ hstyle _ _
  exact hstyle

theorem readKind_sized (fields : Fields) {children : Unit → Checked (List Component)}
    (hchildren : Yields (children ()) fun cs => ∀ k ∈ Component.subtrees cs, k.SizedAlone)
    (kind : Kind) : Yields (readKind fields children kind) Component.Sized := by
  have hcommon := readCommon_style_yields fields
  have hleaf : ∀ {c : Component}, c.subtree = [c] → c.ownSizes = [] →
      (∀ s ∈ c.common.style, s.Loaded) → c.Sized := by
    intro c hsubtree hnone hstyle
    exact c.sized_of_leaf hsubtree hstyle fun _ x hx => nomatch hnone ▸ hx
  cases kind with
  | heading => exact .seq (.map hcommon fun _ hc _ _ => hleaf (by simp [Component.subtree]) rfl hc) .any
  | text => exact .map hcommon fun _ hc => hleaf (by simp [Component.subtree]) rfl hc
  | list => exact .seq (.map hcommon fun _ hc _ _ => hleaf (by simp [Component.subtree]) rfl hc) .any
  | chips => exact .seq (.map hcommon fun _ hc _ _ => hleaf (by simp [Component.subtree]) rfl hc) .any
  | divider => exact .map hcommon fun _ hc => hleaf (by simp [Component.subtree]) rfl hc
  | spacer =>
    refine .seq (.map hcommon fun _ hc size hsize => ?_) (spacerSize_yields fields _)
    refine Component.sized_of_leaf (by simp [Component.subtree]) hc fun _ x hx => ?_
    obtain rfl := List.mem_singleton.mp hx
    exact hsize
  | image =>
    refine .seq (.seq (.seq (.map hcommon ?_) .any) (optional_readSize_yields fields _))
      (optional_readSize_yields fields _)
    intro _ hc _ _ width hwidth height hheight
    refine Component.sized_of_leaf (by simp [Component.subtree]) hc fun _ x hx => ?_
    simp only [Component.ownSizes, List.mem_append, Option.mem_toList] at hx
    rcases hx with hx | hx
    · exact hwidth x hx
    · exact hheight x hx
  | box => exact .seq (.map hcommon fun _ hc _ hcs => Component.sized_box hc hcs) hchildren
  | table =>
    refine .seq (.seq (.seq (.map hcommon ?_) .any) (columns_yields fields _)) .any
    intro _ hc _ _ columns hcolumns _ _
    refine Component.sized_of_leaf (by simp [Component.subtree]) hc fun _ x hx => ?_
    simp only [Component.ownSizes, List.mem_flatMap, Option.mem_toList] at hx
    obtain ⟨k, hk, hwidth⟩ := hx
    exact hcolumns k hk x hwidth

theorem readUnknown_sized (fields : Fields) : Yields (readUnknown fields) Component.Sized := by
  refine .seq (.map (readCommon_style_yields fields) fun _ hc _ _ => ?_) .any
  exact Component.sized_of_leaf (by simp [Component.subtree]) hc nofun

/-! ## Whole layouts -/

mutual

theorem readComponent_sized : ∀ v : Value, Yields (readComponent v) Component.Sized
  | .record fields => by
    rw [readComponent]
    split
    · exact (readKind_sized _ (readChildren_sized fields) _).inside
    · exact (readUnknown_sized _).inside
  | .null | .bool _ | .int _ | .float _ | .decimal _ | .text _ | .bytes _ | .date _ | .moment _
  | .list _ | .tuple _ => Yields.reject.inside

theorem readChildren_sized : ∀ fields : List (String × Value),
    Yields (readChildren fields) fun cs => ∀ k ∈ Component.subtrees cs, k.SizedAlone
  | [] => .accepted fun _ hk => nomatch hk
  | (key, v) :: fields => by
    rw [readChildren]
    split
    · exact (readChildList_sized v).inside
    · exact readChildren_sized fields

theorem readChildList_sized : ∀ v : Value,
    Yields (readChildList v) fun cs => ∀ k ∈ Component.subtrees cs, k.SizedAlone
  | .list items | .tuple items => readComponents_sized items 0
  | .null | .bool _ | .int _ | .float _ | .decimal _ | .text _ | .bytes _ | .date _ | .moment _
  | .record _ => .reject

theorem readComponents_sized : ∀ (vs : List Value) (index : Nat),
    Yields (readComponents index vs) fun cs => ∀ k ∈ Component.subtrees cs, k.SizedAlone
  | [], _ => .accepted fun _ hk => nomatch hk
  | v :: vs, index => by
    refine .seq (.map (readComponent_sized v).inside fun c hc cs hcs => ?_)
      (readComponents_sized vs (index + 1))
    rw [Component.subtrees, List.forall_mem_append]
    exact ⟨hc, hcs⟩

end

/-- What is loaded has been read from a list of values. -/
theorem Layout.IsLoaded.exists_items {layout : Layout} (h : layout.IsLoaded) :
    ∃ items, readComponents 0 items = .accepted layout := by
  have hvalue : ∀ {source : Value}, loadLayout source = .ok layout →
      ∃ items, readComponents 0 items = .accepted layout := by
    intro source h
    obtain ⟨_, items, _, _, hread⟩ := loadLayout_eq_ok_iff.mp h
    exact ⟨items, hread⟩
  cases h with
  | fromValue source h => exact hvalue h
  | fromCells g root h =>
    unfold Graph.load at h
    split at h
    · exact hvalue h
    · obtain ⟨list, _, h⟩ := bind_eq_ok_iff.mp (mapError_eq_ok_iff.mp h)
      split at h
      · cases h
      · exact ⟨_, checkComponents_eq_ok_iff.mp h⟩

theorem Layout.IsLoaded.sizedAlone {layout : Layout} (h : layout.IsLoaded) {k : Component}
    (hk : k ∈ layout.components) : k.SizedAlone := by
  obtain ⟨items, hread⟩ := h.exists_items
  exact readComponents_sized items 0 layout hread k hk

/-- The sizes of a loaded layout are not negative if those are not that nothing has checked. None of them is NaN
then, but they may be infinite. -/
theorem Layout.IsLoaded.nonneg {layout : Layout} (h : layout.IsLoaded) (hloose : ∀ x ∈ layout.looseSizes, 0 ≤ x) :
    ∀ x ∈ layout.sizes, 0 ≤ x := by
  intro x hx
  obtain ⟨k, hk, hxk⟩ := List.mem_flatMap.mp hx
  rcases k.mem_sizes hxk with hx | hx
  · exact h.sizedAlone hk x hx
  · exact hloose x (List.mem_flatMap.mpr ⟨k, hk, hx⟩)

end DocTemplate
