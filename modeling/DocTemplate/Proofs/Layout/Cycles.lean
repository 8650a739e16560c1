import DocTemplate.Layout.Graph
import Mathlib.Logic.Relation

/-!
# Components inside themselves

The search for a cycle in a raw layout finds one exactly if there is one to be reached, whatever parts are
shared, and what it reports is a path that comes back to a cell it has come through. Main statement:
`load_refuses_cycles`.
-/

namespace DocTemplate

open Relation

/-- A step of a path, as it is reported. -/
def PartStep.text : PartStep → String
  | .index i => "[" ++ toString i ++ "]"
  | .key name => "." ++ name

namespace Graph

/-! ## Cells in cells -/

/-- A list holds its records, and a record holds its list of children. -/
inductive Holds (g : Graph) : Nat → Nat → Prop
  | item {list id : Nat} {items : List Nat} (hitems : g.items? list = some items) (hmem : id ∈ items)
    (hrecord : (g.fields? id).isSome) : Holds g list id
  | children {id list : Nat} {fields : List (String × Nat)} (hfields : g.fields? id = some fields)
    (hkey : fields.lookup "children" = some list) (hlist : (g.items? list).isSome) : Holds g id list

/-- From a cell one comes to a cell that is inside itself. -/
def ReachesCycle (g : Graph) (start : Nat) : Prop :=
  ∃ id, ReflTransGen g.Holds start id ∧ TransGen g.Holds id id

variable {g : Graph}

theorem items?_eq_none_of_fields? {id : Nat} {fields : List (String × Nat)}
    (h : g.fields? id = some fields) : g.items? id = none := by
  unfold fields? at h
  unfold items?
  split at h
  · next hcell => rw [hcell]
  · cases h

theorem childList?_eq_some_iff {fields : List (String × Nat)} {list : Nat} {items : List Nat} :
    g.childList? fields = some (list, items) ↔
      fields.lookup "children" = some list ∧ g.items? list = some items := by
  constructor
  · intro h
    obtain ⟨id, hkey, h⟩ := Option.bind_eq_some_iff.mp h
    obtain ⟨found, hitems, h⟩ := Option.bind_eq_some_iff.mp h
    cases h
    exact ⟨hkey, hitems⟩
  · rintro ⟨hkey, hitems⟩
    simp [childList?, hkey, hitems]

theorem holds_of_childList? {id list : Nat} {fields : List (String × Nat)} {items : List Nat}
    (hfields : g.fields? id = some fields) (h : g.childList? fields = some (list, items)) :
    g.Holds id list := by
  obtain ⟨hkey, hitems⟩ := childList?_eq_some_iff.mp h
  exact .children hfields hkey (Option.isSome_of_mem hitems)

/-- A record holds nothing but its list of children. -/
theorem Holds.childList? {id list : Nat} {fields : List (String × Nat)}
    (hfields : g.fields? id = some fields) (h : g.Holds id list) :
    ∃ items, g.childList? fields = some (list, items) := by
  cases h with
  | item hitems _ _ =>
    rw [items?_eq_none_of_fields? hfields] at hitems
    cases hitems
  | children hfields' hkey hlist =>
    obtain ⟨items, hitems⟩ := Option.isSome_iff_exists.mp hlist
    rw [hfields] at hfields'
    cases hfields'
    exact ⟨items, childList?_eq_some_iff.mpr ⟨hkey, hitems⟩⟩

/-- A list holds nothing but records among its items. -/
theorem Holds.mem_items {list id : Nat} {items : List Nat} (hitems : g.items? list = some items)
    (h : g.Holds list id) : id ∈ items ∧ (g.fields? id).isSome := by
  cases h with
  | item hitems' hmem hrecord =>
    rw [hitems] at hitems'
    cases hitems'
    exact ⟨hmem, hrecord⟩
  | children hfields _ _ =>
    rw [items?_eq_none_of_fields? hfields] at hitems
    cases hitems

/-! ## Where nothing is found -/

/-- From a cell one comes neither to one of some cells nor to one that is inside itself. -/
def Clear (g : Graph) (ancestors : List Nat) (start : Nat) : Prop :=
  ∀ id, ReflTransGen g.Holds start id → id ∉ ancestors ∧ ¬TransGen g.Holds id id

/-- A record without a list of children is clear of all cells that it is not one of. -/
theorem clear_of_childList?_eq_none {ancestors : List Nat} {id : Nat} {fields : List (String × Nat)}
    (hfields : g.fields? id = some fields) (hid : id ∉ ancestors) (hnone : g.childList? fields = none) :
    g.Clear ancestors id := by
  have hholds : ∀ list, ¬g.Holds id list := by
    intro list h
    obtain ⟨items, hsome⟩ := h.childList? hfields
    rw [hnone] at hsome
    cases hsome
  intro c hc
  have heq : id = c := by
    rcases ReflTransGen.cases_head hc with heq | ⟨list, hlist, -⟩
    · exact heq
    · exact absurd hlist (hholds list)
  subst heq
  refine ⟨hid, fun hcycle => ?_⟩
  obtain ⟨list, hlist, -⟩ := TransGen.head'_iff.mp hcycle
  exact hholds list hlist

/-- A record is clear if its children are, of the record and of its list of children as well. -/
theorem clear_of_children {ancestors : List Nat} {id list : Nat} {fields : List (String × Nat)}
    {items : List Nat} (hfields : g.fields? id = some fields)
    (hchildren : g.childList? fields = some (list, items)) (hid : id ∉ ancestors)
    (hlist : list ∉ ancestors)
    (hclear : ∀ child ∈ items, (g.fields? child).isSome → g.Clear (list :: id :: ancestors) child) :
    g.Clear ancestors id := by
  have hitems : g.items? list = some items := (childList?_eq_some_iff.mp hchildren).2
  have hbelow : ∀ c, TransGen g.Holds list c →
      c ∉ list :: id :: ancestors ∧ ¬TransGen g.Holds c c := by
    intro c hc
    obtain ⟨child, hchild, hc⟩ := TransGen.head'_iff.mp hc
    obtain ⟨hmem, hrecord⟩ := hchild.mem_items hitems
    exact hclear child hmem hrecord c hc
  have hlistCycle : ¬TransGen g.Holds list list := fun h => (hbelow list h).1 List.mem_cons_self
  have hnext : ∀ next, g.Holds id next → next = list := by
    intro next h
    obtain ⟨_, hsome⟩ := h.childList? hfields
    rw [hchildren] at hsome
    exact (Prod.mk.inj (Option.some.inj hsome)).1.symm
  -- all that is reached is the record, its list, or something below the list
  intro c hc
  rcases ReflTransGen.cases_head hc with rfl | ⟨next, hholds, hc⟩
  · refine ⟨hid, fun hcycle => ?_⟩
    obtain ⟨next, hholds, hback⟩ := TransGen.head'_iff.mp hcycle
    rw [hnext next hholds] at hback
    have hne : list ≠ id := by
      rintro rfl
      rw [items?_eq_none_of_fields? hfields] at hitems
      cases hitems
    rcases reflTransGen_iff_eq_or_transGen.mp hback with heq | hback
    · exact hne heq.symm
    · exact (hbelow id hback).1 (by simp)
  · rw [hnext next hholds] at hc
    rcases reflTransGen_iff_eq_or_transGen.mp hc with rfl | hc
    · exact ⟨hlist, hlistCycle⟩
    · obtain ⟨hnotMem, hcycle⟩ := hbelow c hc
      simp only [List.mem_cons, not_or] at hnotMem
      exact ⟨hnotMem.2.2, hcycle⟩

/-- Where nothing is found, the records searched are clear of the cells that they are in. The search adds
to these on its way down, so that what is reached below a record is known to avoid the record itself. -/
theorem clear_of_cycleBelow?_eq_none {ancestors : List Nat} {path : String} {index : Nat}
    {ids : List Nat} (h : g.cycleBelow? ancestors path index ids = none) :
    ∀ id ∈ ids, (g.fields? id).isSome → g.Clear ancestors id := by
  fun_induction cycleBelow? g ancestors path index ids with
  | case1 => simp
  | case2 ancestors path index id ids hnone ih =>
    intro c hc hrecord
    rcases List.mem_cons.mp hc with rfl | hc
    · simp [hnone] at hrecord
    · exact ih h c hc hrecord
  | case3 => cases h
  | case4 ancestors path index id ids fields hfields hid hnone ih =>
    intro c hc hrecord
    rcases List.mem_cons.mp hc with rfl | hc
    · exact clear_of_childList?_eq_none hfields hid hnone
    · exact ih h c hc hrecord
  | case5 => cases h
  | case6 => cases h
  | case7 ancestors path index id ids fields hfields place hid list items hchildren hlist hnone
      ihChildren ihRest =>
    intro c hc hrecord
    rcases List.mem_cons.mp hc with rfl | hc
    · exact clear_of_children hfields hchildren hid hlist (ihChildren hnone)
    · exact ihRest h c hc hrecord

/-! ## Paths -/

/-- The steps from a list of components down: to the component at an index, and to its children. -/
def downSteps (indexes : List Nat) : List PartStep :=
  indexes.flatMap fun i => [.index i, .key "children"]

/-- A path, as it is reported. -/
def pathText (steps : List PartStep) : String := steps.foldl (fun path s => path ++ s.text) "layout"

/-- A path that is reported leads from a list, by indexes and children in turn, to a cell that the path has
come through before. -/
def ComesBack (g : Graph) (list : Nat) (path : String) : Prop :=
  ∃ indexes last, ∃ rest ∈ [[], [PartStep.key "children"]],
    let steps := downSteps indexes ++ .index last :: rest
    path = pathText steps ∧ ∃ id, g.find? list steps = some id ∧
      ∃ n < steps.length, g.find? list (steps.take n) = some id

theorem downSteps_concat (indexes : List Nat) (i : Nat) :
    downSteps (indexes ++ [i]) = downSteps indexes ++ [.index i, .key "children"] := by
  simp [downSteps]

theorem pathText_concat (steps : List PartStep) (s : PartStep) :
    pathText (steps ++ [s]) = pathText steps ++ s.text := by
  simp [pathText]

theorem find?_concat {root id : Nat} {steps : List PartStep} (h : g.find? root steps = some id)
    (s : PartStep) : g.find? root (steps ++ [s]) = g.part? id s := by
  unfold find? at h ⊢
  rw [List.foldlM_append, h]
  simp

theorem part?_index {list i : Nat} {items : List Nat} (h : g.items? list = some items) :
    g.part? list (.index i) = items[i]? := by
  unfold items? at h
  unfold part?
  split at h
  · next hcell =>
    cases h
    rw [hcell]
  · next hcell =>
    cases h
    rw [hcell]
  · cases h

theorem part?_key {id : Nat} {fields : List (String × Nat)} (h : g.fields? id = some fields)
    (key : String) : g.part? id (.key key) = fields.lookup key := by
  unfold fields? at h
  unfold part?
  split at h
  · next hcell =>
    cases h
    rw [hcell]
  · cases h

/-! ## Where something is found -/

/-- What holds in the search of a list that some indexes lead to: the items from an index on are still to
be searched, and the cells that they are in stand on the way from the root. -/
structure Search (g : Graph) (root : Nat) (indexes : List Nat) (list : Nat) (ancestors : List Nat)
    (path : String) (index : Nat) (ids : List Nat) : Prop where
  path_eq : path = pathText (downSteps indexes)
  found : g.find? root (downSteps indexes) = some list
  items : ∃ items, g.items? list = some items ∧ items.drop index = ids
  passed : ∀ a ∈ ancestors, ∃ n ≤ (downSteps indexes).length,
    g.find? root ((downSteps indexes).take n) = some a
  above : ∀ a ∈ ancestors, ReflTransGen g.Holds a list
  start : root ∈ ancestors

namespace Search

variable {root list index id : Nat} {indexes ancestors ids : List Nat} {path : String}

theorem tail (h : g.Search root indexes list ancestors path index (id :: ids)) :
    g.Search root indexes list ancestors path (index + 1) ids := by
  obtain ⟨items, hitems, hids⟩ := h.items
  have hrest : items.drop (index + 1) = ids := by
    rw [← List.tail_drop, hids, List.tail_cons]
  exact { h with items := ⟨items, hitems, hrest⟩ }

theorem find?_head (h : g.Search root indexes list ancestors path index (id :: ids)) :
    g.find? root (downSteps indexes ++ [.index index]) = some id := by
  obtain ⟨items, hitems, hids⟩ := h.items
  rw [find?_concat h.found, part?_index hitems]
  have hhead := List.head?_drop (l := items) (i := index)
  rw [hids] at hhead
  exact hhead.symm

theorem holds_head (h : g.Search root indexes list ancestors path index (id :: ids))
    {fields : List (String × Nat)} (hfields : g.fields? id = some fields) : g.Holds list id := by
  obtain ⟨items, hitems, hids⟩ := h.items
  have hmem : id ∈ items := List.mem_of_mem_drop (hids ▸ List.mem_cons_self)
  exact .item hitems hmem (Option.isSome_of_mem hfields)

theorem find?_children (h : g.Search root indexes list ancestors path index (id :: ids))
    {fields : List (String × Nat)} (hfields : g.fields? id = some fields) :
    g.find? root (downSteps (indexes ++ [index])) = fields.lookup "children" := by
  have hsteps : downSteps (indexes ++ [index]) =
      (downSteps indexes ++ [.index index]) ++ [.key "children"] := by
    simp [downSteps_concat]
  rw [hsteps, find?_concat h.find?_head, part?_key hfields]

/-- The text of the way to the item that is searched next. -/
theorem pathText_head (h : g.Search root indexes list ancestors path index (id :: ids)) :
    pathText (downSteps indexes ++ [.index index]) = s!"{path}[{index}]" := by
  rw [pathText_concat, ← h.path_eq]
  simp only [PartStep.text, String.append_assoc]
  rfl

/-- A way that goes on from where the search is comes back if it leads to a cell above. -/
theorem comesBack (h : g.Search root indexes list ancestors path index (id :: ids))
    {rest : List PartStep} (hrest : rest ∈ [[], [PartStep.key "children"]]) {c : Nat}
    (hc : c ∈ ancestors) (hfind : g.find? root (downSteps indexes ++ .index index :: rest) = some c) :
    g.ComesBack root (pathText (downSteps indexes ++ .index index :: rest)) := by
  obtain ⟨n, hn, hprefix⟩ := h.passed c hc
  refine ⟨indexes, index, rest, hrest, rfl, c, hfind, n, ?_, ?_⟩
  · simp only [List.length_append, List.length_cons]
    omega
  · rw [List.take_append_of_le_length hn, hprefix]

/-- The search goes down to the children of a record, and both are now above what is searched. -/
theorem down (h : g.Search root indexes list ancestors path index (id :: ids))
    {fields : List (String × Nat)} {children : Nat} {items : List Nat}
    (hfields : g.fields? id = some fields) (hchildren : g.childList? fields = some (children, items)) :
    g.Search root (indexes ++ [index]) children (children :: id :: ancestors)
      (s!"{path}[{index}]" ++ ".children") 0 items := by
  obtain ⟨hkey, hitems⟩ := childList?_eq_some_iff.mp hchildren
  have hdown : g.Holds id children := holds_of_childList? hfields hchildren
  have hfound : g.find? root (downSteps (indexes ++ [index])) = some children := by
    rw [h.find?_children hfields, hkey]
  have hsteps : downSteps (indexes ++ [index]) =
      (downSteps indexes ++ [.index index]) ++ [.key "children"] := by
    simp [downSteps_concat]
  refine ⟨?_, hfound, ⟨items, hitems, rfl⟩, fun a ha => ?_, fun a ha => ?_, by simp [h.start]⟩
  · rw [hsteps, pathText_concat, h.pathText_head]
    rfl
  · rcases List.mem_cons.mp ha with rfl | ha
    · exact ⟨_, Nat.le_refl _, by rw [List.take_length, hfound]⟩
    rcases List.mem_cons.mp ha with rfl | ha
    · refine ⟨(downSteps indexes).length + 1, by simp [hsteps], ?_⟩
      rw [hsteps, List.take_append_of_le_length (by simp), List.take_of_length_le (by simp)]
      exact h.find?_head
    · obtain ⟨n, hn, hprefix⟩ := h.passed a ha
      refine ⟨n, by rw [downSteps_concat, List.length_append]; omega, ?_⟩
      rw [downSteps_concat, List.take_append_of_le_length hn, hprefix]
  · rcases List.mem_cons.mp ha with rfl | ha
    · exact .refl
    rcases List.mem_cons.mp ha with rfl | ha
    · exact .single hdown
    · exact ((h.above a ha).tail (h.holds_head hfields)).tail hdown

end Search

/-- What is found is inside itself, and the path reported comes back to it. -/
theorem cycle_of_cycleBelow?_eq_some {root : Nat} {ancestors : List Nat} {path : String} {index : Nat}
    {ids : List Nat} {found : String} (h : g.cycleBelow? ancestors path index ids = some found) :
    ∀ {indexes : List Nat} {list : Nat}, g.Search root indexes list ancestors path index ids →
      g.ReachesCycle root ∧ g.ComesBack root found := by
  fun_induction cycleBelow? g ancestors path index ids with
  | case1 => cases h
  | case2 ancestors path index id ids hnone ih => exact fun hs => ih h hs.tail
  | case3 ancestors path index id ids fields hfields place hid =>
    intro indexes list hs
    have hcycle : TransGen g.Holds list list := .head' (hs.holds_head hfields) (hs.above id hid)
    refine ⟨⟨list, hs.above root hs.start, hcycle⟩, ?_⟩
    have hback : g.ComesBack root (pathText (downSteps indexes ++ .index index :: [])) :=
      hs.comesBack (by simp) hid hs.find?_head
    rw [hs.pathText_head] at hback
    exact Option.some.inj h ▸ hback
  | case4 ancestors path index id ids fields hfields hid hnone ih => exact fun hs => ih h hs.tail
  | case5 ancestors path index id ids fields hfields place hid children items hchildren hmem =>
    intro indexes list hs
    have hup : ReflTransGen g.Holds id list :=
      (hs.above children hmem).head (holds_of_childList? hfields hchildren)
    have hcycle : TransGen g.Holds list list := .head' (hs.holds_head hfields) hup
    refine ⟨⟨list, hs.above root hs.start, hcycle⟩, ?_⟩
    have hdown := hs.down hfields hchildren
    have hfind := hdown.found
    have hpath := hdown.path_eq
    rw [downSteps_concat] at hfind hpath
    have hback : g.ComesBack root
        (pathText (downSteps indexes ++ .index index :: [.key "children"])) :=
      hs.comesBack (by simp) hmem hfind
    rw [← hpath] at hback
    exact Option.some.inj h ▸ hback
  | case6 ancestors path index id ids fields hfields place hid children items hchildren hmem found' hfound ih =>
    intro indexes list hs
    exact ih (hfound.trans h) (hs.down hfields hchildren)
  | case7 ancestors path index id ids fields hfields place hid children items hchildren hmem hnone
      _ ihRest => exact fun hs => ihRest h hs.tail

/-! ## Raw layouts -/

theorem search_of_items? {list : Nat} {items : List Nat} (hitems : g.items? list = some items) :
    g.Search list [] list [list] "layout" 0 items where
  path_eq := rfl
  found := rfl
  items := ⟨items, hitems, rfl⟩
  passed := by
    intro a ha
    rw [List.mem_singleton.mp ha]
    exact ⟨0, Nat.le_refl _, rfl⟩
  above := by
    intro a ha
    rw [List.mem_singleton.mp ha]
  start := List.mem_singleton_self list

theorem comesBack_of_cycle?_eq_some {list : Nat} {path : String} (h : g.cycle? list = some path) :
    g.ReachesCycle list ∧ g.ComesBack list path := by
  unfold cycle? at h
  cases hitems : g.items? list with
  | none => simp [hitems, cycleBelow?] at h
  | some items =>
    rw [hitems, Option.getD_some] at h
    exact cycle_of_cycleBelow?_eq_some h (search_of_items? hitems)

/-- The search finds a cycle exactly if one can be reached. -/
theorem cycle?_isSome_iff {list : Nat} {items : List Nat} (hitems : g.items? list = some items) :
    (g.cycle? list).isSome ↔ g.ReachesCycle list := by
  constructor
  · intro h
    obtain ⟨path, hpath⟩ := Option.isSome_iff_exists.mp h
    exact (comesBack_of_cycle?_eq_some hpath).1
  · rintro ⟨id, hid, hcycle⟩
    cases hnone : g.cycle? list with
    | some path => rfl
    | none =>
      unfold cycle? at hnone
      rw [hitems, Option.getD_some] at hnone
      have hclear := clear_of_cycleBelow?_eq_none hnone
      -- the cycle goes through the list itself or lies below one of its records
      have hbelow : ∀ c, TransGen g.Holds list c → c ≠ list ∧ ¬TransGen g.Holds c c := by
        intro c hc
        obtain ⟨child, hchild, hc⟩ := TransGen.head'_iff.mp hc
        obtain ⟨hmem, hrecord⟩ := hchild.mem_items hitems
        simpa using hclear child hmem hrecord c hc
      rcases reflTransGen_iff_eq_or_transGen.mp hid with rfl | hid
      · exact absurd rfl (hbelow id hcycle).1
      · exact absurd hcycle (hbelow id hid).2

theorem items?_of_componentList {root list : Nat} (h : g.componentList root = .ok list) :
    ∃ items, g.items? list = some items := by
  have hlist : ∀ id, (if (g.items? id).isSome then Except.ok id else .error Refusal.notAList) = .ok list →
      ∃ items, g.items? list = some items := by
    intro id hid
    split at hid
    · next hsome =>
      cases hid
      exact Option.isSome_iff_exists.mp hsome
    · cases hid
  unfold componentList at h
  split at h
  · exact hlist root h
  · split at h
    · cases h
    · next id _ => exact hlist id h

theorem ne_leaf_of_componentList {root list : Nat} (h : g.componentList root = .ok list) (v : Value) :
    g[root]? ≠ some (.leaf v) := by
  intro hleaf
  have hfields : g.fields? root = none := by simp [fields?, hleaf]
  have hitems : g.items? root = none := by simp [items?, hleaf]
  simp [componentList, hfields, hitems] at h

/-- Beside cycles, components are refused for their problems alone. -/
theorem load_eq_cyclic_iff {root list : Nat} (hlist : g.componentList root = .ok list) {path : String} :
    g.load root = .error (.refused (.cyclic path)) ↔ g.cycle? list = some path := by
  unfold load
  split
  · next v hleaf => exact absurd hleaf (ne_leaf_of_componentList hlist v)
  · rw [hlist]
    dsimp only [bind, Except.bind]
    cases g.cycle? list with
    | some found =>
      constructor
      · intro h
        cases h
        rfl
      · intro h
        cases h
        rfl
    | none =>
      unfold checkComponents
      generalize readComponents 0 _ = read
      constructor
      · intro h
        cases read <;> cases h
      · intro h
        cases h

/-- A raw layout is refused for a cycle exactly if one can be reached from its list of components, by
lists, their records and the children of these; what shares parts is not refused. The path that is
reported leads from the list to a cell that is among those it has come through. -/
theorem load_refuses_cycles {root list : Nat} (hlist : g.componentList root = .ok list) :
    ((∃ path, g.load root = .error (.refused (.cyclic path))) ↔ g.ReachesCycle list) ∧
      ∀ path, g.load root = .error (.refused (.cyclic path)) → g.ComesBack list path := by
  obtain ⟨items, hitems⟩ := items?_of_componentList hlist
  constructor
  · rw [← cycle?_isSome_iff hitems, Option.isSome_iff_exists]
    exact exists_congr fun path => load_eq_cyclic_iff hlist
  · intro path hpath
    exact (comesBack_of_cycle?_eq_some ((load_eq_cyclic_iff hlist).mp hpath)).2

/-- Two boxes in a record of components that share their children, among which is the first box. -/
def sharedChildren : Graph := #[
  .leaf (.text "box"),
  .record [("id", 0), ("type", 0), ("children", 3)],
  .record [("type", 0), ("id", 0), ("children", 3)],
  .tuple [1],
  .list [2, 1],
  .record [("components", 4)]]

theorem sharedChildren_refused : sharedChildren.componentList 5 = .ok 4 ∧
    ∃ path, sharedChildren.load 5 = .error (.refused (.cyclic path)) ∧
      sharedChildren.ComesBack 4 path := by
  have hlist : sharedChildren.componentList 5 = .ok 4 := rfl
  obtain ⟨hiff, hback⟩ := load_refuses_cycles hlist
  have hbox : sharedChildren.Holds 4 1 := .item rfl (List.mem_of_elem_eq_true rfl) rfl
  have hdown : sharedChildren.Holds 1 3 := .children rfl rfl rfl
  have hup : sharedChildren.Holds 3 1 := .item rfl (List.mem_of_elem_eq_true rfl) rfl
  obtain ⟨path, hpath⟩ := hiff.mpr ⟨1, .single hbox, .tail (.single hdown) hup⟩
  exact ⟨hlist, path, hpath, hback path hpath⟩

end Graph

end DocTemplate
