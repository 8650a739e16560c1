import DocTemplate.Proofs.Html.Strict
import DocTemplate.Proofs.Page.Failing

/-!
# Containment

What goes wrong in a component stays in it. A document is always written, and it is the document of the layout
in which everything that fails has been exchanged for components of unknown kinds; in that layout nothing
fails any more. Main statement: `failures_are_contained`.
-/

namespace DocTemplate.Html

/-- The elements of a component, or what goes wrong in its visibility test or in its own rendering. What goes
wrong in the components inside it is theirs. -/
def attempt (context : Value) (c : Component) : Except Failure (List Node) :=
  shownOrFail context (.ok (nodesOfAll context c.children)) c

/-- Whether something goes wrong in a component itself. -/
def fails (context : Value) (c : Component) : Bool := (attempt context c).toOption.isNone

mutual

/-- A component with stand-ins for what fails, be it the component itself or, at any depth, a component
inside it. -/
def exchange (context : Value) (standIn : Component → Component) : Component → Component
  | .box common children =>
    if fails context (.box common children) then standIn (.box common children)
    else .box common (exchangeAll context standIn children)
  | c => if fails context c then standIn c else c

/-- Components with stand-ins for all that fails among them and inside them. -/
def exchangeAll (context : Value) (standIn : Component → Component) : List Component → List Component
  | [] => []
  | c :: cs => exchange context standIn c :: exchangeAll context standIn cs

end

mutual

/-- Rendering as an action that may fail, in which each component catches what goes wrong in it. -/
def guarded (context : Value) : Component → Except Failure (List Node)
  | .box common children =>
    tryCatch (shownOrFail context (guardedAll context children) (.box common children)) fun _ => .ok []
  | c => tryCatch (shownOrFail context (.ok []) c) fun _ => .ok []

def guardedAll (context : Value) : List Component → Except Failure (List Node)
  | [] => .ok []
  | c :: cs => do
    let ms ← guarded context c
    let ns ← guardedAll context cs
    .ok (ms ++ ns)

end

/-- A document, written after its components have been rendered. Nothing is caught outside of them. -/
def guardedDocument (layout : Layout) (context : Value) (title : Option String) : Except Failure String := do
  let ns ← guardedAll context layout
  .ok (String.ofList (opening title ++ printNodes ns ++ closing))

variable {context : Value}

/-! ## One component -/

/-- A component has the elements of its rendering, and none where that fails. -/
theorem contained_eq (inside : List Node) (c : Component) :
    contained context inside c = (shownOrFail context (.ok inside) c).toOption.getD [] := by
  by_cases hkind : c.shownKind?.isNone
  · rw [contained_of_shownKind?_none (Option.isNone_iff_eq_none.mp hkind), shownOrFail, if_pos hkind]
    rfl
  · rw [contained, shownOrFail, if_neg hkind]
    cases hvisible : c.isVisible context with
    | error e => rfl
    | ok visible =>
      cases visible with
      | false => rfl
      | true => rfl

theorem nodes_eq_contained (c : Component) :
    nodes context c = contained context (nodesOfAll context c.children) c := by
  cases c with
  | box common children => rw [nodes, Component.children]
  | _ =>
    rw [nodes]
    · rfl
    · simp

theorem nodes_eq_attempt (c : Component) : nodes context c = (attempt context c).toOption.getD [] := by
  rw [nodes_eq_contained, contained_eq, attempt]

theorem nodes_of_fails {c : Component} (h : fails context c) : nodes context c = [] := by
  rw [nodes_eq_attempt, Option.isNone_iff_eq_none.mp h, Option.getD_none]

theorem attempt_of_not_fails {c : Component} (h : ¬fails context c) :
    attempt context c = .ok (nodes context c) := by
  rw [nodes_eq_attempt]
  cases hattempt : attempt context c with
  | ok ns => rfl
  | error e =>
    refine absurd ?_ h
    rw [fails, hattempt]
    rfl

/-- Whoever catches what goes wrong in a component goes on without its elements. -/
theorem tryCatch_eq (x : Except Failure (List Node)) :
    tryCatch x (fun _ => .ok []) = .ok (x.toOption.getD []) := by
  cases x <;> rfl

/-! ## Boxes -/

/-- The rendering of a box depends on its children by their elements alone. -/
theorem attempt_box_congr (common : Common) {children children' : List Component}
    (h : nodesOfAll context children = nodesOfAll context children') :
    attempt context (.box common children) = attempt context (.box common children') := by
  rw [attempt, attempt, Component.children, Component.children, h]
  rfl

/-- A box itself fails where its visibility test does, whatever it holds. -/
theorem attempt_box_eq_error_iff (common : Common) (children : List Component) (e : Failure) :
    attempt context (.box common children) = .error e ↔
      (Component.box common children).isVisible context = .error e := by
  have hkind : (Component.box common children).shownKind? = some .box := Component.shownKind?_of_kind? rfl
  rw [attempt, shownOrFail, if_neg (by simp [hkind])]
  cases (Component.box common children).isVisible context with
  | error e' =>
    change Except.error e' = .error e ↔ _
    rw [Except.error.injEq, Except.error.injEq]
  | ok visible =>
    cases visible with
    | false => constructor <;> intro h <;> cases h
    | true => constructor <;> intro h <;> cases h

theorem nodesOfAll_append (before after : List Component) :
    nodesOfAll context (before ++ after) = nodesOfAll context before ++ nodesOfAll context after := by
  induction before with
  | nil => rfl
  | cons c before ih => rw [List.cons_append, nodesOfAll, nodesOfAll, ih, List.append_assoc]

/-- Among others, a component that fails is missing and nothing else is. -/
theorem nodesOfAll_of_fails {c : Component} (h : fails context c) (before after : List Component) :
    nodesOfAll context (before ++ c :: after) = nodesOfAll context (before ++ after) := by
  rw [nodesOfAll_append, nodesOfAll_append, nodesOfAll, nodes_of_fails h, List.nil_append]

/-! ## Layouts -/

mutual

/-- Catching in each component leaves nothing to be caught outside. -/
theorem guarded_eq : ∀ c : Component, guarded context c = .ok (nodes context c)
  | .box common children => by
    rw [guarded, guardedAll_eq children, tryCatch_eq, nodes_eq_attempt]
    rfl
  | .heading .. | .text .. | .list .. | .chips .. | .divider .. | .spacer .. | .image .. | .table ..
  | .unknown .. => by
    rw [nodes_eq_attempt, guarded, tryCatch_eq]
    · rfl
    · simp

theorem guardedAll_eq : ∀ cs : List Component, guardedAll context cs = .ok (nodesOfAll context cs)
  | [] => rfl
  | c :: cs => by
    rw [guardedAll, guarded_eq c, guardedAll_eq cs]
    rfl

end

theorem nodesOrFail_of_shownKind?_none {c : Component} (h : c.shownKind? = none) :
    nodesOrFail context c = .ok [] := by
  cases c with
  | unknown => exact if_pos (Option.isNone_iff_eq_none.mpr h)
  | _ => cases Component.kind?_of_shownKind?_none h

section

variable {standIn : Component → Component}

theorem nodesOrFail_standIn (hstandIn : ∀ c, Kind.named? (standIn c).kindName = none) {c : Component}
    (h : fails context c) :
    nodesOrFail context (standIn c) = .ok (nodes context c) := by
  rw [nodesOrFail_of_shownKind?_none (hstandIn c), nodes_of_fails h]

mutual

/-- With stand-ins for what fails, rendering goes through without any containment, and the elements are the
same. -/
theorem nodesOrFail_exchange (hstandIn : ∀ c, Kind.named? (standIn c).kindName = none) : ∀ c : Component,
    nodesOrFail context (exchange context standIn c) = .ok (nodes context c)
  | .box common children => by
    rw [exchange]
    split
    · next h => exact nodesOrFail_standIn hstandIn h
    · next h =>
      rw [nodesOrFail, nodesOfAllOrFail_exchangeAll hstandIn children, ← attempt_of_not_fails h]
      rfl
  | .heading .. | .text .. | .list .. | .chips .. | .divider .. | .spacer .. | .image .. | .table ..
  | .unknown .. => by
    rw [exchange]
    · split
      · next h => exact nodesOrFail_standIn hstandIn h
      · next h =>
        rw [nodesOrFail, ← attempt_of_not_fails h]
        · rfl
        · simp
    · simp

theorem nodesOfAllOrFail_exchangeAll (hstandIn : ∀ c, Kind.named? (standIn c).kindName = none) :
    ∀ cs : List Component,
      nodesOfAllOrFail context (exchangeAll context standIn cs) = .ok (nodesOfAll context cs)
  | [] => rfl
  | c :: cs => by
    rw [exchangeAll, nodesOfAllOrFail, nodesOrFail_exchange hstandIn c,
      nodesOfAllOrFail_exchangeAll hstandIn cs]
    rfl

end

/-- A document is written whatever goes wrong in its components. It is the document of the layout in which
components of unknown kinds stand in for all that fails, and that layout is rendered without a failure. A box
itself fails only by its visibility test; a component that fails inside it is missing there, and neither the
box nor what stands beside the component is rendered in another way. -/
theorem failures_are_contained (hstandIn : ∀ c, Kind.named? (standIn c).kindName = none) (layout : Layout)
    (context : Value) (title : Option String) :
    guardedDocument layout context title = .ok (document layout context title) ∧
      document (exchangeAll context standIn layout) context title = document layout context title ∧
      bodyOrFail (exchangeAll context standIn layout) context = .ok (body layout context) ∧
      (∀ (common : Common) (children : List Component) (e : Failure),
        attempt context (.box common children) = .error e ↔
          (Component.box common children).isVisible context = .error e) ∧
      ∀ (common : Common) (c : Component) (before after : List Component), fails context c →
        attempt context (.box common (before ++ c :: after)) =
            attempt context (.box common (before ++ after)) ∧
          nodesOfAll context (before ++ c :: after) =
            nodesOfAll context before ++ nodesOfAll context after := by
  have hbody : bodyOrFail (exchangeAll context standIn layout) context = .ok (body layout context) :=
    nodesOfAllOrFail_exchangeAll hstandIn layout
  refine ⟨?_, ?_, hbody, attempt_box_eq_error_iff, fun common c before after hc => ⟨?_, ?_⟩⟩
  · rw [guardedDocument, guardedAll_eq]
    rfl
  · rw [document, body_of_bodyOrFail hbody, document]
  · exact attempt_box_congr common (nodesOfAll_of_fails hc before after)
  · rw [nodesOfAll_of_fails hc, nodesOfAll_append]

end

open Page

/-- A place for a signature, which is no known kind of component. -/
def signature (c : Component) : Component := .unknown c.common "signature" []

/-- A box with a list and a rule, and an image below it. -/
def datedLayout (list image : Component) : Layout :=
  [.box { id := "box" } [list, .divider { id := "rule" }], image]

/-- Neither the list nor the image can be rendered; with signatures for both the document is the same. -/
theorem datedLayout_failures_are_contained :
    (∀ c, Kind.named? (signature c).kindName = none) ∧
      exchangeAll lateContext signature (datedLayout lateList lateImage) =
        datedLayout (signature lateList) (signature lateImage) ∧
      document (datedLayout (signature lateList) (signature lateImage)) lateContext none =
        document (datedLayout lateList lateImage) lateContext none := by
  have hsignature : ∀ c, Kind.named? (signature c).kindName = none := fun _ => rfl
  have hexchange : exchangeAll lateContext signature (datedLayout lateList lateImage) =
      datedLayout (signature lateList) (signature lateImage) := rfl
  have hcontained := failures_are_contained hsignature (datedLayout lateList lateImage) lateContext none
  rw [hexchange] at hcontained
  exact ⟨hsignature, hexchange, hcontained.2.1⟩

end DocTemplate.Html
