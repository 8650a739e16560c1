import DocTemplate.Page.Document
import DocTemplate.Proofs.Action

/-!
# Pages without containment

Drawing in which the failure of a component is the failure of the whole. Where it comes to an end, nothing
has gone wrong, and the document is the one that is drawn otherwise.
-/

namespace DocTemplate.Page.Setup

variable {α : Type} [Length α] (d : Setup α)

/-- A component is drawn, given what is drawn for its children, with the margin below it. -/
def shownOrFail (children : Draw α Unit) (c : Component) : Draw α Unit :=
  if c.shownKind?.isNone then pure ()
  else do
    if ← c.isVisible d.context then
      d.drawKind children c
      modify (leaveMargin c.style)

mutual

/-- A component and what it holds are drawn; a failure in any of them is the end. -/
def drawOrFail : Component → Draw α Unit
  | .box common children => d.shownOrFail (drawAllOrFail children) (.box common children)
  | c => d.shownOrFail (pure ()) c

/-- Components are drawn, one below the other; the first failure is the end. -/
def drawAllOrFail : List Component → Draw α Unit
  | [] => pure ()
  | c :: cs => do
    drawOrFail c
    drawAllOrFail cs

end

/-- The document that shows a layout, or the first failure in it. -/
def documentOrFail (layout : Layout) : Except Failure (Drawn α) :=
  match (d.opening >>= fun _ => d.drawAllOrFail layout).run.run (blank d.geometry) with
  | (.error f, _) => .error f
  | (.ok (), s) => .ok ⟨s.page, s.log.push (.call .showPage)⟩

/-- What has been drawn: nothing, or a visible component of a known kind. -/
theorem shownOrFail_cases {children : Draw α Unit} {c : Component} {s t : Sheet α}
    (h : (d.shownOrFail children c).run.run s = (.ok (), t)) :
    (c.shownKind?.isNone ∧ t = s) ∨
      (¬c.shownKind?.isNone ∧ c.isVisible d.context = .ok false ∧ t = s) ∨
      (¬c.shownKind?.isNone ∧ c.isVisible d.context = .ok true ∧
        ∃ u, (d.drawKind children c).run.run s = (.ok (), u) ∧ t = leaveMargin c.style u) := by
  rw [shownOrFail] at h
  split at h
  · next hkind => exact .inl ⟨hkind, (Prod.mk.inj h).2.symm⟩
  · next hkind =>
    obtain ⟨visible, u, hlift, h⟩ := run_bind_ok h
    rw [run_liftM] at hlift
    obtain ⟨hvisible, rfl⟩ := Prod.mk.inj hlift
    cases visible with
    | false => exact .inr (.inl ⟨hkind, hvisible, (Prod.mk.inj h).2.symm⟩)
    | true =>
      obtain ⟨_, u, hdraw, h⟩ := run_bind_ok h
      exact .inr (.inr ⟨hkind, hvisible, u, hdraw, (Prod.mk.inj h).2.symm⟩)

/-! ## The two ways to draw -/

theorem carries_drawBox {style : Style} {inside inside' : Draw α Unit} (h : Carries inside inside') :
    Carries (d.drawBox style inside) (d.drawBox style inside') := by
  have hdraw : ∀ (pad : Draw α α) (f : α → α → Sheet α → Draw α Unit),
      Carries
        (pad >>= fun pad => d.size .boxInset >>= fun inset => get >>= fun start =>
          moveDown pad >>= fun _ => inside >>= fun _ => f pad inset start)
        (pad >>= fun pad => d.size .boxInset >>= fun inset => get >>= fun start =>
          moveDown pad >>= fun _ => inside' >>= fun _ => f pad inset start) := fun pad f =>
    .bind (.refl _) fun _ => .bind (.refl _) fun _ => .bind (.refl _) fun _ => .bind (.refl _) fun _ =>
      .bind h fun _ => .refl _
  unfold drawBox
  cases style.padding with
  | none => exact hdraw _ _
  | some x => exact hdraw _ _

theorem carries_drawKind {children children' : Draw α Unit} (h : Carries children children')
    (c : Component) : Carries (d.drawKind children c) (d.drawKind children' c) := by
  cases c with
  | box common children => exact d.carries_drawBox h
  | _ => exact .refl _

theorem place_of_shownOrFail {children children' : Draw α Unit} (hchildren : Carries children children')
    {c : Component} {s t : Sheet α} (h : (d.shownOrFail children c).run.run s = (.ok (), t)) :
    d.place children' c s = t := by
  rcases d.shownOrFail_cases h with ⟨hkind, rfl⟩ | ⟨hkind, hvisible, rfl⟩ | ⟨hkind, hvisible, u, hdraw, rfl⟩
  · rw [place, if_pos hkind]
  · rw [place, if_neg hkind, hvisible]
  · rw [place, if_neg hkind, hvisible]
    simp only [after, d.carries_drawKind hchildren c s () u hdraw]

mutual

theorem placeComponent_of_drawOrFail : ∀ {c : Component} {s t : Sheet α},
    (d.drawOrFail c).run.run s = (.ok (), t) → d.placeComponent s c = t
  | .box common children, s, t, h => by
    have hchildren : Carries (d.drawAllOrFail children) (modify fun s => d.placeAll s children) := by
      intro s _ t h
      rw [← placeAll_of_drawAllOrFail h]
      rfl
    exact d.place_of_shownOrFail hchildren h
  | .heading .., _, _, h | .text .., _, _, h | .list .., _, _, h | .chips .., _, _, h
  | .divider .., _, _, h | .spacer .., _, _, h | .image .., _, _, h | .table .., _, _, h
  | .unknown .., _, _, h => d.place_of_shownOrFail (.refl _) h

theorem placeAll_of_drawAllOrFail : ∀ {cs : List Component} {s t : Sheet α},
    (d.drawAllOrFail cs).run.run s = (.ok (), t) → d.placeAll s cs = t
  | [], _, _, h => (Prod.mk.inj h).2
  | c :: cs, s, t, h => by
    obtain ⟨_, u, hc, hcs⟩ := run_bind_ok h
    rw [placeAll, placeComponent_of_drawOrFail hc]
    exact placeAll_of_drawAllOrFail hcs

end

/-- Where nothing fails, containment changes nothing. -/
theorem document_of_documentOrFail {layout : Layout} {drawn : Drawn α}
    (h : d.documentOrFail layout = .ok drawn) : d.document layout = .ok drawn := by
  rw [documentOrFail, run_bind] at h
  rw [document]
  generalize d.opening.run.run (blank d.geometry) = r at h
  obtain ⟨_ | _, s⟩ := r
  · cases h
  · dsimp only at h ⊢
    split at h
    · cases h
    · next t hdraw =>
      rw [d.placeAll_of_drawAllOrFail hdraw]
      exact h

end DocTemplate.Page.Setup
