import DocTemplate.Proofs.Page.Descent
import DocTemplate.Proofs.Page.Log

/-!
# What drawing adds

What an action that answers has added to the record, and where it has left the cursor: calls and drawn parts leave it
where it is, and room is made for a height without adding anything.
-/

namespace DocTemplate.Page

variable {α β : Type} {s t u : Sheet α} {new more : List (Op α)}

/-- Parts are recorded at a cursor that stays where it is. -/
structure Stays (s : Sheet α) (new : List (Op α)) (t : Sheet α) : Prop where
  spot : t.spot = s.spot
  ops : opsOf t.log = opsOf s.log ++ new

namespace Stays

theorem refl (s : Sheet α) : Stays s [] s := ⟨rfl, (List.append_nil _).symm⟩

theorem trans (h : Stays s new t) (h' : Stays t more u) : Stays s (new ++ more) u :=
  ⟨h'.spot.trans h.spot, by rw [h'.ops, h.ops, List.append_assoc]⟩

theorem page (h : Stays s new t) : t.page = s.page := congrArg Spot.page h.spot

theorem y (h : Stays s new t) : t.y = s.y := congrArg Spot.y h.spot

end Stays

/-- To a sheet something is added that takes its cursor from one spot to another in some way. -/
def Adds (R : Spot α → List (Op α) → Spot α → Prop) (s t : Sheet α) : Prop :=
  ∃ new, opsOf t.log = opsOf s.log ++ new ∧ R s.spot new t.spot

namespace Adds

variable {R : Spot α → List (Op α) → Spot α → Prop}

theorem of_nothing (hops : opsOf t.log = opsOf s.log) (h : R s.spot [] t.spot) : Adds R s t :=
  ⟨[], by rw [hops, List.append_nil], h⟩

theorem trans (hR : ∀ {c e f : Spot α} {new more : List (Op α)}, R c new e → R e more f → R c (new ++ more) f)
    (h : Adds R s t) (h' : Adds R t u) : Adds R s u := by
  obtain ⟨new, hnew, hst⟩ := h
  obtain ⟨more, hmore, htu⟩ := h'
  exact ⟨new ++ more, by rw [hmore, hnew, List.append_assoc], hR hst htu⟩

end Adds

/-- A reading leaves the state as it is. -/
theorem run_liftM_ok {x : Except Failure β} {b : β} (h : (liftM x : Draw α β).run.run s = (.ok b, t)) :
    x = .ok b ∧ s = t := by
  rw [run_liftM] at h
  obtain ⟨hb, rfl⟩ := Prod.mk.inj h
  exact ⟨hb, rfl⟩

theorem run_record_ok {shape : Shape α} {x y width height : α} {role : Role} {b : Unit}
    (h : (record shape x y width height role).run.run s = (.ok b, t)) :
    Stays s [⟨shape, s.page, x, y, width, height, role⟩] t := by
  obtain ⟨-, rfl⟩ := Prod.mk.inj h
  exact ⟨rfl, opsOf_push_op s.log _⟩

/-- A size that is given, or else one of a preset. -/
def Preset.givenFor (p : Preset) (x? : Option Float) (setting : SizeSetting) : Except Failure Float :=
  match x? with
  | some x => .ok x
  | none => p.size setting

/-- The size that a style sets, or else one of a preset. -/
def Preset.sizeFor (p : Preset) (x? : Option Float) (setting : SizeSetting) : Except Failure Float :=
  p.givenFor (nonzero? x?) setting

variable [Length α]

theorem run_call_ok {c : Call α} {b : Unit} (h : (call c).run.run s = (.ok b, t)) : Stays s [] t := by
  rw [run_call] at h
  obtain ⟨-, rfl⟩ := Prod.mk.inj h
  exact ⟨rfl, by rw [opsOf_push_call, List.append_nil]⟩

theorem run_drawText_ok {align : Align} {x y : α} {content font : String} {size : α} {color : Color} {role : Role}
    {b : Unit} (h : (drawText align x y content font size color role).run.run s = (.ok b, t)) :
    Stays s [⟨.text content font size, s.page, x, y,
      ((Face.named? font).getD .regular).width size content.toList, size, role⟩] t := by
  obtain ⟨_, s₁, hcolor, h⟩ := run_bind_ok h
  obtain ⟨_, s₂, hfont, h⟩ := run_bind_ok h
  obtain ⟨_, s₃, htext, h⟩ := run_bind_ok h
  have hcalls := ((run_call_ok hcolor).trans (run_call_ok hfont)).trans (run_call_ok htext)
  have hall := hcalls.trans (run_record_ok h)
  rw [hcalls.page] at hall
  exact hall

theorem run_drawLine_ok {x1 y x2 : α} {color : Color} {role : Role} {b : Unit}
    (h : (drawLine x1 y x2 color role).run.run s = (.ok b, t)) :
    Stays s [⟨.line, s.page, x1, y, x2 - x1, 0.0, role⟩] t := by
  obtain ⟨_, s₁, hcolor, h⟩ := run_bind_ok h
  obtain ⟨_, s₂, hwidth, h⟩ := run_bind_ok h
  obtain ⟨_, s₃, hline, h⟩ := run_bind_ok h
  have hcalls := ((run_call_ok hcolor).trans (run_call_ok hwidth)).trans (run_call_ok hline)
  have hall := hcalls.trans (run_record_ok h)
  rw [hcalls.page] at hall
  exact hall

theorem run_drawFrame_ok {x y width height : α} {color : Color} {lineWidth : α} {role : Role} {b : Unit}
    (h : (drawFrame x y width height color lineWidth role).run.run s = (.ok b, t)) :
    Stays s [⟨.rect, s.page, x, y, width, height, role⟩] t := by
  obtain ⟨_, s₁, hcolor, h⟩ := run_bind_ok h
  obtain ⟨_, s₂, hwidth, h⟩ := run_bind_ok h
  obtain ⟨_, s₃, hrect, h⟩ := run_bind_ok h
  have hcalls := ((run_call_ok hcolor).trans (run_call_ok hwidth)).trans (run_call_ok hrect)
  have hall := hcalls.trans (run_record_ok h)
  rw [hcalls.page] at hall
  exact hall

theorem run_drawPlate_ok {x y width height radius : α} {color : Color} {role : Role} {b : Unit}
    (h : (drawPlate x y width height radius color role).run.run s = (.ok b, t)) :
    Stays s [⟨.rect, s.page, x, y, width, height, role⟩] t := by
  obtain ⟨_, s₁, hcolor, h⟩ := run_bind_ok h
  have hcalls : ∃ s₂, Stays s [] s₂ ∧ (record .rect x y width height role).run.run s₂ = (.ok b, t) := by
    split at h
    all_goals
      obtain ⟨_, s₂, hplate, h⟩ := run_bind_ok h
      exact ⟨s₂, (run_call_ok hcolor).trans (run_call_ok hplate), h⟩
  obtain ⟨s₂, hcalls, h⟩ := hcalls
  have hall := hcalls.trans (run_record_ok h)
  rw [hcalls.page] at hall
  exact hall

namespace Setup

variable {d : Setup α}

theorem run_size_ok {setting : SizeSetting} {x : α} (h : (d.size setting).run.run s = (.ok x, t)) :
    ∃ size, d.preset.size setting = .ok size ∧ x = Length.ofFloat size ∧ s = t := by
  obtain ⟨size, s₁, hread, hpure⟩ := run_bind_ok h
  obtain ⟨hsize, rfl⟩ := run_liftM_ok hread
  obtain ⟨hx, rfl⟩ := Prod.mk.inj hpure
  exact ⟨size, hsize, (Except.ok.inj hx).symm, rfl⟩

/-- A size that is given, or else one of the preset. -/
theorem run_givenOr_ok {x? : Option Float} {setting : SizeSetting} {x : α}
    (h : (d.givenOr x? setting).run.run s = (.ok x, t)) :
    ∃ size, d.preset.givenFor x? setting = .ok size ∧ x = Length.ofFloat size ∧ s = t := by
  cases x? with
  | some size =>
    obtain ⟨hx, rfl⟩ := Prod.mk.inj h
    exact ⟨size, rfl, (Except.ok.inj hx).symm, rfl⟩
  | none => exact run_size_ok h

/-- A size that a style sets, or else one of the preset. -/
theorem run_sizeOr_ok {x? : Option Float} {setting : SizeSetting} {x : α}
    (h : (d.sizeOr x? setting).run.run s = (.ok x, t)) :
    ∃ size, d.preset.sizeFor x? setting = .ok size ∧ x = Length.ofFloat size ∧ s = t := run_givenOr_ok h

theorem run_newPage_ok {b : Unit} (h : d.newPage.run.run s = (.ok b, t)) :
    t.spot = ⟨s.page + 1, d.geometry.top⟩ ∧ opsOf t.log = opsOf s.log := by
  obtain ⟨made, -, hafter⟩ := d.after_newPage s
  have ht : after d.newPage s = t := congrArg Prod.snd h
  rw [← ht, hafter]
  exact ⟨rfl, by rw [pageLog, opsOf_withCalls, opsOf_push_pageStart, opsOf_push_call]⟩

/-- Where room was made for a height, the cursor has stayed or is at the top of the next page. -/
theorem run_ensureSpace_ok {height : α} {b : Unit} (h : (d.ensureSpace height).run.run s = (.ok b, t)) :
    t.spot = (d.enter height s.spot).2 ∧ opsOf t.log = opsOf s.log := by
  obtain ⟨_, _, hget, h⟩ := run_bind_ok h
  cases hget
  split at h
  · next hnone =>
    have hspot : (d.enter height s.spot).2 = ⟨s.page + 1, d.geometry.top⟩ := congrArg Prod.snd (if_pos hnone)
    rw [hspot]
    exact run_newPage_ok h
  · next hroom =>
    have hspot : (d.enter height s.spot).2 = s.spot := congrArg Prod.snd (if_neg hroom)
    cases h
    exact ⟨hspot.symm, rfl⟩

end Setup

end DocTemplate.Page
