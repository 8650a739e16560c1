import DocTemplate.Html.Body
import DocTemplate.Proofs.Action

/-!
# Elements without containment

Rendering in which the failure of a component is the failure of the whole. Where it has elements, nothing
has gone wrong, and they are the elements of the layout.
-/

namespace DocTemplate.Html

/-- The elements of a component, given those of its children, or what goes wrong. -/
def shownOrFail (context : Value) (children : Except Failure (List Node)) (c : Component) :
    Except Failure (List Node) :=
  if c.shownKind?.isNone then .ok []
  else do
    if ← c.isVisible context then
      let children ← children
      shownNodes context children c
    else .ok []

mutual

/-- The elements of a component, or what goes wrong in it or in what it holds. -/
def nodesOrFail (context : Value) : Component → Except Failure (List Node)
  | .box common children => shownOrFail context (nodesOfAllOrFail context children) (.box common children)
  | c => shownOrFail context (.ok []) c

/-- The elements of components, or the first failure among them. -/
def nodesOfAllOrFail (context : Value) : List Component → Except Failure (List Node)
  | [] => .ok []
  | c :: cs => do
    let ms ← nodesOrFail context c
    let ns ← nodesOfAllOrFail context cs
    .ok (ms ++ ns)

end

/-- The elements of a layout, or the first failure in it. -/
def bodyOrFail (layout : Layout) (context : Value) : Except Failure (List Node) :=
  nodesOfAllOrFail context layout

/-- What has been rendered: nothing, or a visible component of a known kind. -/
theorem shownOrFail_cases {context : Value} {children : Except Failure (List Node)} {c : Component}
    {ns : List Node} (h : shownOrFail context children c = .ok ns) :
    (c.shownKind?.isNone ∧ ns = []) ∨
      (¬c.shownKind?.isNone ∧ c.isVisible context = .ok false ∧ ns = []) ∨
      (¬c.shownKind?.isNone ∧ c.isVisible context = .ok true ∧
        ∃ inside, children = .ok inside ∧ shownNodes context inside c = .ok ns) := by
  rw [shownOrFail] at h
  split at h
  · next hkind => exact .inl ⟨hkind, (Except.ok.inj h).symm⟩
  · next hkind =>
    obtain ⟨visible, hvisible, h⟩ := bind_eq_ok_iff.mp h
    cases visible with
    | false => exact .inr (.inl ⟨hkind, hvisible, (Except.ok.inj h).symm⟩)
    | true =>
      obtain ⟨inside, hinside, h⟩ := bind_eq_ok_iff.mp h
      exact .inr (.inr ⟨hkind, hvisible, inside, hinside, h⟩)

theorem contained_of_shownOrFail {context : Value} {children : Except Failure (List Node)}
    {inside : List Node} (hinside : ∀ ms, children = .ok ms → ms = inside) {c : Component}
    {ns : List Node} (h : shownOrFail context children c = .ok ns) :
    contained context inside c = ns := by
  rcases shownOrFail_cases h with ⟨hkind, rfl⟩ | ⟨-, hvisible, rfl⟩ | ⟨-, hvisible, ms, hms, h⟩
  · exact contained_of_shownKind?_none (Option.isNone_iff_eq_none.mp hkind)
  · rw [contained, hvisible]
  · obtain rfl := hinside ms hms
    rw [contained, hvisible]
    simp [h, Except.toOption]

mutual

theorem nodes_of_nodesOrFail {context : Value} : ∀ {c : Component} {ns : List Node},
    nodesOrFail context c = .ok ns → nodes context c = ns
  | .box _ _, _, h =>
    contained_of_shownOrFail (fun _ hms => (nodesOfAll_of_nodesOfAllOrFail hms).symm) h
  | .heading .., _, h | .text .., _, h | .list .., _, h | .chips .., _, h | .divider .., _, h
  | .spacer .., _, h | .image .., _, h | .table .., _, h | .unknown .., _, h =>
    contained_of_shownOrFail (fun _ hms => (Except.ok.inj hms).symm) h

theorem nodesOfAll_of_nodesOfAllOrFail {context : Value} : ∀ {cs : List Component} {ns : List Node},
    nodesOfAllOrFail context cs = .ok ns → nodesOfAll context cs = ns
  | [], _, h => Except.ok.inj h
  | c :: cs, ns, h => by
    obtain ⟨ms, hms, h⟩ := bind_eq_ok_iff.mp h
    obtain ⟨ns', hns, h⟩ := bind_eq_ok_iff.mp h
    rw [nodesOfAll, nodes_of_nodesOrFail hms, nodesOfAll_of_nodesOfAllOrFail hns]
    exact Except.ok.inj h

end

/-- Where nothing fails, containment changes nothing. -/
theorem body_of_bodyOrFail {layout : Layout} {context : Value} {ns : List Node}
    (h : bodyOrFail layout context = .ok ns) : body layout context = ns :=
  nodesOfAll_of_nodesOfAllOrFail h

end DocTemplate.Html
