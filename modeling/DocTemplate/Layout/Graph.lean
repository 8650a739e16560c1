import DocTemplate.Layout.Load

/-!
# Raw layouts that share parts

A raw layout may hold one list or record in several places, and even inside itself. As a graph its
lists and records are cells with an identity. A component that is inside itself is refused; a part
that is shared without a cycle is read once for each place where it stands.
-/

namespace DocTemplate

/-- A piece of data whose parts are other cells. -/
inductive Cell where
  | leaf (v : Value)
  | list (items : List Nat)
  | tuple (items : List Nat)
  | record (fields : List (String × Nat))

/-- Cells, each known by its place. -/
abbrev Graph := Array Cell

inductive PartStep where
  | key (name : String)
  | index (i : Nat)

namespace Graph

/-! ## Building -/

mutual

/-- The graph with a value added, and the place of its cell. -/
def add (g : Graph) : Value → Graph × Nat
  | .list items => let (g, ids) := addItems g items; (g.push (.list ids), g.size)
  | .tuple items => let (g, ids) := addItems g items; (g.push (.tuple ids), g.size)
  | .record fields => let (g, ids) := addFields g fields; (g.push (.record ids), g.size)
  | v => (g.push (.leaf v), g.size)

/-- The graph with items added, and the places of their cells. -/
def addItems (g : Graph) : List Value → Graph × List Nat
  | [] => (g, [])
  | v :: vs =>
    let (g, id) := add g v
    let (g, ids) := addItems g vs
    (g, id :: ids)

/-- The graph with fields added, and the places of their cells. -/
def addFields (g : Graph) : List (String × Value) → Graph × List (String × Nat)
  | [] => (g, [])
  | (key, v) :: fields =>
    let (g, id) := add g v
    let (g, ids) := addFields g fields
    (g, (key, id) :: ids)

end

def part? (g : Graph) (id : Nat) (s : PartStep) : Option Nat :=
  match g[id]?, s with
  | some (.list items), .index i => items[i]?
  | some (.tuple items), .index i => items[i]?
  | some (.record fields), .key name => fields.lookup name
  | _, _ => none

/-- The cell that a path leads to. -/
def find? (g : Graph) (root : Nat) (path : List PartStep) : Option Nat := path.foldlM g.part? root

def setField (fields : List (String × Nat)) (name : String) (id : Nat) : List (String × Nat) :=
  if fields.any (·.1 == name) then fields.map fun f => if f.1 == name then (name, id) else f
  else fields ++ [(name, id)]

/-- The graph in which a part of a list or record is the very cell given. -/
def setPart? (g : Graph) (holder : Nat) (s : PartStep) (id : Nat) : Option Graph :=
  match g[holder]?, s with
  | some (.list items), .index i =>
    if i < items.length then some (g.setIfInBounds holder (.list (items.set i id))) else none
  | some (.record fields), .key name =>
    some (g.setIfInBounds holder (.record (setField fields name id)))
  | _, _ => none

/-- The graph in which the part at the end of one path is the very cell that another path leads to. -/
def link? (g : Graph) (root : Nat) (slot target : List PartStep) : Option Graph := do
  let holder ← g.find? root slot.dropLast
  let last ← slot.getLast?
  let id ← g.find? root target
  g.setPart? holder last id

/-! ## Cycles -/

def items? (g : Graph) (id : Nat) : Option (List Nat) :=
  match g[id]? with
  | some (.list items) => some items
  | some (.tuple items) => some items
  | _ => none

/-- The fields of a record cell. -/
def fields? (g : Graph) (id : Nat) : Option (List (String × Nat)) :=
  match g[id]? with
  | some (.record fields) => some fields
  | _ => none

/-- The list of children of a record, and its items. -/
def childList? (g : Graph) (fields : List (String × Nat)) : Option (Nat × List Nat) := do
  let id ← fields.lookup "children"
  let items ← g.items? id
  some (id, items)

/-- How many cells are not among some. -/
def countOutside (g : Graph) (cells : List Nat) : Nat :=
  (List.range g.size).countP fun id => !cells.contains id

theorem lt_size_of_fields? {g : Graph} {id : Nat} {fields : List (String × Nat)}
    (h : g.fields? id = some fields) : id < g.size := by
  unfold fields? at h
  split at h
  · rename_i heq
    exact (Array.getElem?_eq_some_iff.mp heq).1
  · cases h

theorem countOutside_le (g : Graph) (id : Nat) (cells : List Nat) :
    g.countOutside (id :: cells) ≤ g.countOutside cells := by
  apply List.countP_mono_left
  intro x _ hx
  simp_all

theorem countOutside_lt {g : Graph} {id : Nat} {cells : List Nat} (hid : id < g.size)
    (h : id ∉ cells) : g.countOutside (id :: cells) < g.countOutside cells := by
  have hmem : id ∈ List.range g.size := List.mem_range.mpr hid
  obtain ⟨before, after, hsplit⟩ := List.append_of_mem hmem
  have hle (xs : List Nat) : xs.countP (fun x => !(id :: cells).contains x)
      ≤ xs.countP fun x => !cells.contains x :=
    List.countP_mono_left fun x _ hx => by simp_all
  have hb := hle before
  have ha := hle after
  simp only [countOutside, hsplit, List.countP_append, List.countP_cons]
  simp [h] at *
  omega

/-- Where, among cells and below them, a record or a list of children is inside itself, given the
cells that these ones are in. -/
def cycleBelow? (g : Graph) (ancestors : List Nat) (path : String) (index : Nat) :
    List Nat → Option String
  | [] => none
  | id :: ids =>
    match h : g.fields? id with
    | none => cycleBelow? g ancestors path (index + 1) ids
    | some fields =>
      let place := s!"{path}[{index}]"
      if _hid : id ∈ ancestors then some place
      else match g.childList? fields with
        | none => cycleBelow? g ancestors path (index + 1) ids
        | some (listId, items) =>
          if listId ∈ ancestors then some (place ++ ".children")
          else
            match cycleBelow? g (listId :: id :: ancestors) (place ++ ".children") 0 items with
            | some found => some found
            | none => cycleBelow? g ancestors path (index + 1) ids
termination_by ids => (g.countOutside ancestors, ids.length)
decreasing_by
  · exact Prod.Lex.right _ (by simp)
  · exact Prod.Lex.right _ (by simp)
  · exact Prod.Lex.left _ _ (Nat.lt_of_le_of_lt (countOutside_le g listId (id :: ancestors))
      (countOutside_lt (lt_size_of_fields? h) (by assumption)))
  · exact Prod.Lex.right _ (by simp)

/-- Where a list of components is inside itself. -/
def cycle? (g : Graph) (list : Nat) : Option String :=
  g.cycleBelow? [list] "layout" 0 ((g.items? list).getD [])

/-! ## Reading -/

/-- How often a cell is followed on one way down. A style holds a border and a condition a value, so
that no part of a component is read more deeply than this. -/
def followLimit : Nat := 4

/-- The value of a cell; what is inside itself is followed to the limit. -/
def unroll (g : Graph) : (fuel : Nat) → (above : List Nat) → (id : Nat) → Value
  | 0, _, _ => .null
  | fuel + 1, above, id =>
    let follow := g.unroll fuel (id :: above)
    let deep := followLimit ≤ above.count id
    match g[id]? with
    | none => .null
    | some (.leaf v) => v
    | some (.list items) => .list (if deep then [] else items.map follow)
    | some (.tuple items) => .tuple (if deep then [] else items.map follow)
    | some (.record fields) => .record (if deep then [] else fields.map fun f => (f.1, follow f.2))

def valueOf (g : Graph) (id : Nat) : Value := g.unroll (followLimit * g.size + 1) [] id

/-- The cell that holds the components of a raw layout. -/
def componentList (g : Graph) (root : Nat) : Except Refusal Nat :=
  let list? (id : Nat) : Except Refusal Nat :=
    if (g.items? id).isSome then .ok id else .error .notAList
  match g.fields? root with
  | none => list? root
  | some fields =>
    match fields.lookup "components" with
    | none => .error .noComponents
    | some id => list? id

/-- The layout that a raw layout writes, unless a component is inside itself. -/
def load (g : Graph) (root : Nat) : Except LoadFailure Layout :=
  match g[root]? with
  | some (.leaf v) => loadLayout v
  | _ => Except.mapError .refused do
    let list ← g.componentList root
    match g.cycle? list with
    | some path => .error (.cyclic path)
    | none => checkComponents (((g.items? list).getD []).map g.valueOf)

end Graph

end DocTemplate
