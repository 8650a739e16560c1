import DocTemplate.Proofs.Page.Bands
import DocTemplate.Proofs.Page.Boxes

/-!
# The flow of pages

Components that are drawn from a later spot end at a later spot: what they do to the cursor `Flows`.
Main statement: `flows_placeAll`.
-/

namespace DocTemplate.Page

open DocTemplate.Number (isFinite)

/-- What is done to a sheet does not take the cursor back, nor above the top of a page, and keeps the order of
spots. -/
structure Flows (top : Float) (F : Sheet Float → Sheet Float) : Prop where
  within : ∀ s, s.y ≤ top → (F s).y ≤ top
  later : ∀ s, s.y ≤ top → s.spot ≤ (F s).spot
  mono : ∀ s t, s.y ≤ top → t.y ≤ top → s.spot ≤ t.spot → (F s).spot ≤ (F t).spot

namespace Flows

variable {top : Float} {F G : Sheet Float → Sheet Float}

theorem id : Flows top fun s => s where
  within _ hs := hs
  later _ hs := Spot.le_self (Number.left_of_le hs)
  mono _ _ _ _ hle := hle

theorem comp (hG : Flows top G) (hF : Flows top F) : Flows top fun s => G (F s) where
  within s hs := hG.within _ (hF.within s hs)
  later s hs := Spot.le_trans (hF.later s hs) (hG.later _ (hF.within s hs))
  mono s t hs ht hle := hG.mono _ _ (hF.within s hs) (hF.within t ht) (hF.mono s t hs ht hle)

theorem congr (hF : Flows top F) (h : ∀ s, (G s).spot = (F s).spot) : Flows top G where
  within s hs := by
    have hy : (G s).y = (F s).y := congrArg Spot.y (h s)
    rw [hy]
    exact hF.within s hs
  later s hs := by
    rw [h]
    exact hF.later s hs
  mono s t hs ht hle := by
    rw [h, h]
    exact hF.mono s t hs ht hle

theorem lower {h : Float} (hh : IsExtent h) : Flows top fun s => { s with y := s.y - h } := by
  have hlower (y : Float) (hy : y ≤ top) : y - h ≤ y :=
    Number.sub_le_self (Number.left_of_le hy) hh.nonneg (.inr hh.finite)
  constructor
  · intro s hs
    exact Number.double_le_trans (hlower s.y hs) hs
  · intro s hs
    exact .inr ⟨rfl, hlower s.y hs⟩
  · intro s t _ _ hle
    exact hle.imp_right fun ⟨hpage, hy⟩ => ⟨hpage, Number.sub_le_sub_of_isFinite hy hh.finite⟩

theorem of_descends {d : Setup Float} {wall : Prop} {m : Draw Float Unit}
    (htop : d.geometry.top ≤ d.geometry.top) (hm : Descends d wall m) : Flows d.geometry.top (after m) := by
  obtain ⟨δ, hδ, hrun⟩ := hm
  have hspot (s : Sheet Float) : (after m s).spot = (d.descend δ s.spot).2 := congrArg Prod.snd (hrun s)
  refine ⟨fun s hs => ?_, fun s hs => ?_, fun s t hs ht hle => ?_⟩
  · have hy : (after m s).y = (d.descend δ s.spot).2.y := congrArg Spot.y (hspot s)
    rw [hy]
    exact (le_descend htop hδ (c := s.spot) hs).1
  · rw [hspot]
    exact (le_descend htop hδ (c := s.spot) hs).2
  · rw [hspot, hspot]
    exact descend_mono htop hδ (c := s.spot) hs ht hle

end Flows

section

variable {α β : Type} {x : Except Failure β} {f : β → Draw α Unit}

theorem after_read_ok {b : β} (hx : x = .ok b) : after (liftM x >>= f) = after (f b) := by
  rw [hx]
  rfl

theorem after_read_error {e : Failure} (hx : x = .error e) (s : Sheet α) : after (liftM x >>= f) s = s := by
  rw [hx]
  rfl

end

section

variable {α : Type}

theorem outcome_modify (F : Sheet α → Sheet α) (s : Sheet α) : outcome (modify F) s = (true, (F s).spot) := rfl

theorem outcome_liftM (x : Except Failure Unit) (s : Sheet α) : outcome (liftM x) s = (x.toBool, s.spot) := by
  cases x <;> rfl

theorem spot_drawBorder [Length α] (d : Setup α) (style : Style) (inset : α) (start e : Spot α) (s : Sheet α) :
    (after (d.drawBorder style inset start e) s).spot = s.spot := by
  have hborder : Checks (d.drawBorder style inset start e) _ :=
    (checks_call _).bind ((checks_call _).bind ((checks_call _).bind (checks_record _ _ _ _ _ _)))
  exact congrArg Prod.snd (hborder s)

/-- What is in a box is drawn between two paddings; where it fails, nothing comes after it. The border does not move the
cursor. -/
theorem spot_drawFramed [Length α] (d : Setup α) (style : Style) (pad inset : α) (m : Draw α Unit) (s : Sheet α) :
    (after (d.drawFramed style pad inset m) s).spot =
      if (outcome m (s.lower pad)).1 then (outcome m (s.lower pad)).2.lower pad else (outcome m (s.lower pad)).2 := by
  change (outcome (m >>= fun _ => moveDown pad >>= fun _ => get >>= fun last =>
    d.drawBorder style inset s.spot last.spot) (s.lower pad)).2 = _
  rw [outcome_bind, ← spot_after m]
  split
  · generalize after m (s.lower pad) = t
    exact spot_drawBorder d style inset s.spot (t.lower pad).spot (t.lower pad)
  · rfl

end

/-- The margin below a component flows. -/
theorem flows_leaveMargin {top : Float} {style : Style} (hstyle : ∀ x ∈ style.sizes, IsExtent x) :
    Flows top (leaveMargin style) := by
  unfold leaveMargin
  split
  · next x hx => exact .lower (hstyle x (marginBottom_mem_sizes (mem_of_nonzero? hx)))
  · exact .id

section

variable {d : Setup Float} (hpreset : d.preset.SizesIn IsExtent)

include hpreset

/-- A box leaves the cursor where it is, or draws what is in it between two paddings. -/
theorem spot_drawBox {style : Style} (hstyle : ∀ x ∈ style.sizes, IsExtent x) :
    (∀ m s, (after (d.drawBox style m) s).spot = s.spot) ∨
      ∃ x, IsExtent x ∧ ∀ m s, (after (d.drawBox style m) s).spot =
        if (outcome m (s.lower x)).1 then (outcome m (s.lower x)).2.lower x else (outcome m (s.lower x)).2 := by
  cases hpad : d.preset.padding style with
  | error e => exact .inl fun m s => by rw [drawBox_eq, after_read_error hpad]
  | ok x =>
    cases hinset : d.preset.size .boxInset with
    | error e =>
      exact .inl fun m s => by rw [drawBox_eq, after_read_ok hpad, size_bind, after_read_error hinset]
    | ok inset =>
      refine .inr ⟨x, hpreset.padding hstyle hpad, fun m s => ?_⟩
      rw [drawBox_eq, after_read_ok hpad, size_bind, after_read_ok hinset]
      exact spot_drawFramed d style (Length.ofFloat x) (Length.ofFloat inset) m s

/-- A box flows if what is in it does. -/
theorem flows_drawBox {style : Style} (hstyle : ∀ x ∈ style.sizes, IsExtent x)
    {F : Sheet Float → Sheet Float} (hF : Flows d.geometry.top F) :
    Flows d.geometry.top (after (d.drawBox style (modify F))) := by
  rcases spot_drawBox hpreset hstyle with hspot | ⟨x, hx, hspot⟩
  · exact Flows.id.congr (hspot (modify F))
  · have hinside := hspot (modify F)
    simp only [outcome_modify, if_true] at hinside
    exact ((Flows.lower hx).comp (hF.comp (.lower hx))).congr hinside

/-- A box flows in which there is nothing but something to be read. -/
theorem flows_emptyBox {style : Style} (hstyle : ∀ x ∈ style.sizes, IsExtent x) (x : Except Failure Unit) :
    Flows d.geometry.top (after (d.drawBox style (liftM x))) := by
  rcases spot_drawBox hpreset hstyle with hspot | ⟨pad, hpad, hspot⟩
  · exact Flows.id.congr (hspot (liftM x))
  · have hinside := hspot (liftM x)
    simp only [outcome_liftM] at hinside
    cases x with
    | error f => exact (Flows.lower hpad).congr hinside
    | ok b => exact ((Flows.lower hpad).comp (.lower hpad)).congr hinside

omit hpreset in
/-- A component flows if what it draws does. -/
theorem flows_place {children : Draw Float Unit} {c : Component} (hc : ∀ x ∈ c.sizes, IsExtent x)
    (hdraw : Flows d.geometry.top (after (d.drawKind children c))) :
    Flows d.geometry.top (d.place children c) := by
  have hmargin : Flows d.geometry.top (leaveMargin c.style) :=
    flows_leaveMargin fun x hx => hc x (style_sizes_subset c hx)
  unfold Setup.place
  split
  · exact .id
  · split
    · exact .id
    · exact hmargin.comp hdraw
    · exact hmargin

end

section

variable {d : Setup Float}

theorem flows_leaf (hcontent : 0.0 ≤ d.geometry.contentHeight) (hpreset : d.preset.SizesIn IsExtent)
    {c : Component} (hbox : ∀ common children, c ≠ .box common children) (hc : ∀ x ∈ c.sizes, IsExtent x) :
    Flows d.geometry.top (d.place (pure ()) c) := by
  refine flows_place hc ?_
  by_cases hframed : c.shownKind? = some .box
  · obtain ⟨inside, hdraw⟩ := drawKind_emptyBox (d := d) (pure ()) hbox hframed
    rw [hdraw]
    exact flows_emptyBox hpreset (fun x hx => hc x (style_sizes_subset c hx)) _
  · obtain ⟨wall, hdraw⟩ := descends_drawKind (top_le_top hcontent) hcontent hpreset hframed hc
    exact .of_descends (top_le_top hcontent) hdraw

mutual

theorem flows_placeComponent (hcontent : 0.0 ≤ d.geometry.contentHeight)
    (hpreset : d.preset.SizesIn IsExtent) : ∀ c : Component,
      (∀ k ∈ c.subtree, ∀ x ∈ k.sizes, IsExtent x) → Flows d.geometry.top fun s => d.placeComponent s c
  | .box common children, hc => by
    rw [Component.subtree] at hc
    have hchildren := flows_placeAll hcontent hpreset children fun k hk => hc k (List.mem_cons_of_mem _ hk)
    have hbox := hc _ List.mem_cons_self
    exact flows_place hbox (flows_drawBox hpreset (fun x hx => hbox x (style_sizes_subset _ hx)) hchildren)
  | .heading .., hc | .text .., hc | .list .., hc | .chips .., hc | .divider .., hc
  | .spacer .., hc | .image .., hc | .table .., hc | .unknown .., hc =>
    flows_leaf hcontent hpreset (fun _ _ => nofun) (hc _ (by simp [Component.subtree]))

/-- Components, failing ones included, flow. -/
theorem flows_placeAll (hcontent : 0.0 ≤ d.geometry.contentHeight)
    (hpreset : d.preset.SizesIn IsExtent) : ∀ cs : List Component,
      (∀ k ∈ Component.subtrees cs, ∀ x ∈ k.sizes, IsExtent x) → Flows d.geometry.top fun s => d.placeAll s cs
  | [], _ => .id
  | c :: cs, hcs => by
    rw [Component.subtrees] at hcs
    have hc := flows_placeComponent hcontent hpreset c fun k hk => hcs k (List.mem_append_left _ hk)
    exact (flows_placeAll hcontent hpreset cs fun k hk => hcs k (List.mem_append_right _ hk)).comp hc

end

end

end DocTemplate.Page
