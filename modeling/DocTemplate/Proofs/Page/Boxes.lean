import DocTemplate.Proofs.Page.Strips

/-!
# Boxes and what is in them

A box goes down by its padding, before and after what is in it, and records its border at the end. Where components
are drawn without a failure, what was drawn is told by a derivation over boxes in boxes. Main statement:
`draws_of_drawAllOrFail`.
-/

namespace DocTemplate.Page

variable {α : Type} [Length α] {d : Setup α} {Q : Float → Prop} {s t u : Sheet α} {k : Component}

/-- The padding that a style sets, or else the one of a preset. -/
def Preset.padding (p : Preset) (style : Style) : Except Failure Float :=
  match style.padding with
  | some x => .ok x
  | none => p.size .boxPadding

theorem Preset.SizesIn.padding {p : Preset} (hpreset : p.SizesIn Q) {style : Style} (hstyle : ∀ x ∈ style.sizes, Q x)
    {x : Float} (h : p.padding style = .ok x) : Q x := by
  unfold Preset.padding at h
  split at h
  · next y hy =>
    cases h
    exact hstyle x (padding_mem_sizes hy)
  · exact hpreset.size .boxPadding x h

/-- The border of a box that begins at one spot and ends at another. -/
def Setup.border (d : Setup α) (inset : α) (start c : Spot α) : Op α :=
  ⟨.rect, c.page, d.geometry.left - inset, c.y, d.geometry.contentWidth + 2.0 * inset,
    (if c.page ≠ start.page then d.geometry.top else start.y) - c.y, .boxBorder⟩

/-- The sheet with the cursor a height below. -/
def Sheet.lower (s : Sheet α) (height : α) : Sheet α := { s with y := s.y - height }

def Setup.drawBorder (d : Setup α) (style : Style) (inset : α) (start c : Spot α) : Draw α Unit :=
  drawFrame (d.geometry.left - inset) c.y (d.geometry.contentWidth + 2.0 * inset)
    ((if c.page ≠ start.page then d.geometry.top else start.y) - c.y) (d.borderOf style).2 (d.borderOf style).1
    .boxBorder

/-- What is in a box is drawn between its paddings, and then its border. -/
def Setup.drawFramed (d : Setup α) (style : Style) (pad inset : α) (inside : Draw α Unit) : Draw α Unit := do
  let start ← get
  moveDown pad
  inside
  moveDown pad
  let s ← get
  d.drawBorder style inset start.spot s.spot

theorem drawBox_eq (style : Style) (inside : Draw α Unit) :
    d.drawBox style inside = liftM (d.preset.padding style) >>= fun pad => d.size .boxInset >>= fun inset =>
      d.drawFramed style (Length.ofFloat pad) inset inside := by
  unfold Setup.drawBox Preset.padding
  cases style.padding with
  | none =>
    change d.size .boxPadding >>= _ = _
    rw [Setup.size, bind_assoc]
    rfl
  | some x => rfl

theorem run_drawFramed {style : Style} {pad inset : α} {inside : Draw α Unit}
    (h : inside.run.run (s.lower pad) = (.ok (), u)) : (d.drawFramed style pad inset inside).run.run s =
      (d.drawBorder style inset s.spot (u.lower pad).spot).run.run (u.lower pad) := by
  have hdown : (d.drawFramed style pad inset inside).run.run s = (inside >>= fun _ => moveDown pad >>= fun _ => get >>=
    fun e => d.drawBorder style inset s.spot e.spot).run.run (s.lower pad) := rfl
  rw [hdown, run_bind, h]
  rfl

theorem run_drawFramed_ok {style : Style} {pad inset : α} {inside : Draw α Unit} {b : Unit}
    (h : (d.drawFramed style pad inset inside).run.run s = (.ok b, t)) :
    ∃ u, inside.run.run (s.lower pad) = (.ok (), u) ∧
      Stays (u.lower pad) [d.border inset s.spot (u.lower pad).spot] t := by
  obtain ⟨_, _, hget, hrest⟩ := run_bind_ok h
  cases hget
  obtain ⟨_, _, hdown, hrest⟩ := run_bind_ok hrest
  cases hdown
  obtain ⟨_, u, hinside, -⟩ := run_bind_ok hrest
  rw [run_drawFramed hinside] at h
  exact ⟨u, hinside, run_drawFrame_ok h⟩

/-- A box that is drawn has a padding and an inset, and so has what is in it. -/
theorem run_drawBox_ok {style : Style} {inside : Draw α Unit} {b : Unit}
    (h : (d.drawBox style inside).run.run s = (.ok b, t)) :
    ∃ pad inset u, d.preset.padding style = .ok pad ∧
      inside.run.run (s.lower (Length.ofFloat pad)) = (.ok (), u) ∧
      Stays (u.lower (Length.ofFloat pad)) [d.border inset s.spot (u.lower (Length.ofFloat pad)).spot] t := by
  rw [drawBox_eq] at h
  obtain ⟨pad, _, hread, h⟩ := run_bind_ok h
  obtain ⟨hpad, rfl⟩ := run_liftM_ok hread
  obtain ⟨inset, _, hread, h⟩ := run_bind_ok h
  obtain ⟨-, -, -, rfl⟩ := Setup.run_size_ok hread
  obtain ⟨u, hinside, hborder⟩ := run_drawFramed_ok h
  exact ⟨pad, inset, u, hpad, hinside, hborder⟩

/-- A component that is shown is drawn, with its margin below. -/
theorem run_shownOrFail {children : Draw α Unit} (hkind : ¬k.shownKind?.isNone)
    (hvisible : k.isVisible d.context = .ok true) (h : (d.drawKind children k).run.run s = (.ok (), t)) :
    (d.shownOrFail children k).run.run s = (.ok (), leaveMargin k.style t) := by
  rw [Setup.shownOrFail, if_neg hkind, run_bind, run_liftM, hvisible]
  change (d.drawKind children k >>= fun _ => modify (leaveMargin k.style)).run.run s = _
  rw [run_bind, h]
  rfl

/-- What is shown as a box and is none is a namesake, in which there is nothing but something to be read. -/
theorem drawKind_emptyBox (children : Draw α Unit) (hbox : ∀ common cs, k ≠ .box common cs)
    (hkind : k.shownKind? = some .box) :
    ∃ inside : Except Failure Unit, d.drawKind children k = d.drawBox k.style (liftM inside) := by
  cases k with
  | box common cs => exact absurd rfl (hbox common cs)
  | unknown common name extras =>
    have hnamed : Kind.named? name = some .box := hkind
    exact ⟨Namesake.insides extras, by rw [Setup.drawKind, hnamed]; rfl⟩
  | _ => cases (Component.shownKind?_of_kind? rfl).symm.trans hkind

/-- A namesake of a box goes down by its padding twice, and records its border. -/
theorem run_emptyBox_ok {children : Draw α Unit} (hbox : ∀ common cs, k ≠ .box common cs)
    (hkind : k.shownKind? = some .box) (h : (d.drawKind children k).run.run s = (.ok (), t)) :
    ∃ (pad : Float) (inset : α) (u : Sheet α), d.preset.padding k.style = .ok pad ∧
      u = (s.lower (Length.ofFloat pad)).lower (Length.ofFloat pad) ∧
      Stays u [d.border inset s.spot u.spot] t := by
  obtain ⟨inside, hdraw⟩ := drawKind_emptyBox (d := d) children hbox hkind
  rw [hdraw] at h
  obtain ⟨pad, inset, u, hpad, hinside, hborder⟩ := run_drawBox_ok h
  obtain ⟨-, rfl⟩ := run_liftM_ok hinside
  exact ⟨pad, inset, _, hpad, rfl, hborder⟩

/-! ## Whole trees -/

variable (d) in
/-- Components are drawn without a failure, one below the other. A box that is shown tells what is in it; any other
component stands for itself. -/
inductive Draws : Sheet α → List Component → Sheet α → Prop
  | nil (s : Sheet α) : Draws s [] s
  | single {s t u : Sheet α} {k : Component} {ks : List Component}
      (hplain : ∀ common cs, k = .box common cs → k.isVisible d.context = .ok false)
      (hk : (d.drawOrFail k).run.run s = (.ok (), t)) (h : Draws t ks u) : Draws s (k :: ks) u
  | box {s t u v : Sheet α} {common : Common} {cs ks : List Component} {pad : Float} {inset : α}
      (hvisible : (Component.box common cs).isVisible d.context = .ok true)
      (hpad : d.preset.padding (Component.box common cs).style = .ok pad)
      (hinside : Draws (s.lower (Length.ofFloat pad)) cs t)
      (hborder : Stays (t.lower (Length.ofFloat pad)) [d.border inset s.spot (t.lower (Length.ofFloat pad)).spot] u)
      (h : Draws (leaveMargin (Component.box common cs).style u) ks v) : Draws s (.box common cs :: ks) v

/-- What stands for itself is hidden, or drawn with its margin below. -/
theorem run_single_ok (hplain : ∀ common cs, k = .box common cs → k.isVisible d.context = .ok false)
    (hk : (d.drawOrFail k).run.run s = (.ok (), t)) :
    t = s ∨ ((∀ common cs, k ≠ .box common cs) ∧
      ∃ u, (d.drawKind (pure ()) k).run.run s = (.ok (), u) ∧ t = leaveMargin k.style u) := by
  have hleaf (hbox : ∀ common cs, k ≠ .box common cs)
      (h : (d.shownOrFail (pure ()) k).run.run s = (.ok (), t)) : t = s ∨ ((∀ common cs, k ≠ .box common cs) ∧
        ∃ u, (d.drawKind (pure ()) k).run.run s = (.ok (), u) ∧ t = leaveMargin k.style u) := by
    rcases d.shownOrFail_cases h with ⟨-, hsame⟩ | ⟨-, -, hsame⟩ | ⟨-, -, hdrawn⟩
    · exact .inl hsame
    · exact .inl hsame
    · exact .inr ⟨hbox, hdrawn⟩
  cases k with
  | box common cs =>
    have hhidden := hplain common cs rfl
    rcases d.shownOrFail_cases hk with ⟨-, hsame⟩ | ⟨-, -, hsame⟩ | ⟨-, hvisible, -⟩
    · exact .inl hsame
    · exact .inl hsame
    · cases hhidden.symm.trans hvisible
  | _ => exact hleaf (fun _ _ h => by cases h) hk

mutual

theorem draws_of_drawOrFail : ∀ {k : Component} {ks : List Component} {s t u : Sheet α},
    (d.drawOrFail k).run.run s = (.ok (), t) → Draws d t ks u → Draws d s (k :: ks) u
  | .box common cs, ks, s, t, u, hk, h => by
    have hshown := hk
    rw [Setup.drawOrFail] at hshown
    rcases d.shownOrFail_cases hshown with ⟨hkind, -⟩ | ⟨-, hhidden, -⟩ | ⟨-, hvisible, v, hdraw, rfl⟩
    · rw [Component.shownKind?_of_kind? rfl] at hkind
      cases hkind
    · exact .single (fun _ _ _ => hhidden) hk h
    · obtain ⟨pad, inset, w, hpad, hinside, hborder⟩ := run_drawBox_ok hdraw
      exact .box hvisible hpad (draws_of_drawAllOrFail hinside) hborder h
  | .heading .., _, _, _, _, hk, h | .text .., _, _, _, _, hk, h | .list .., _, _, _, _, hk, h
  | .chips .., _, _, _, _, hk, h | .divider .., _, _, _, _, hk, h | .spacer .., _, _, _, _, hk, h
  | .image .., _, _, _, _, hk, h | .table .., _, _, _, _, hk, h | .unknown .., _, _, _, _, hk, h =>
    .single (fun _ _ => nofun) hk h

theorem draws_of_drawAllOrFail : ∀ {ks : List Component} {s t : Sheet α},
    (d.drawAllOrFail ks).run.run s = (.ok (), t) → Draws d s ks t
  | [], s, _, h => by
    cases h
    exact .nil s
  | k :: ks, s, t, h => by
    obtain ⟨_, u, hk, hks⟩ := run_bind_ok h
    exact draws_of_drawOrFail hk (draws_of_drawAllOrFail hks)

end

end DocTemplate.Page
