import DocTemplate.Proofs.Page.Added

/-!
# Rows of chips

Chips are drawn side by side in rows: a chip goes on in the row of the one before it if it fits there, and begins the
next row if it does not. Nothing but chips is drawn, and none is lost. Main statement: `chips_are_drawn_in_rows`.
-/

namespace DocTemplate.Page

/-- A chip on a page: the spot of the cursor when its row was drawn, its place in the row, its width and its label. -/
structure Pill (α : Type) where
  row : Spot α
  x : α
  width : α
  text : String

namespace Pill

variable {α : Type} [Length α] (m : ChipMeasures α) (p : Pill α)

/-- The ground of a chip, which hangs from the top of its row. -/
def plate : Op α := ⟨.rect, p.row.page, p.x, p.row.y - m.height, p.width, m.height, .chip⟩

/-- The label of a chip, on its ground. -/
def label : Op α :=
  ⟨.text p.text m.font m.size, p.row.page, p.x + m.padX, p.row.y - m.height + m.padY + m.size * 0.2,
    ((Face.named? m.font).getD .regular).width m.size p.text.toList, m.size, .chipLabel⟩

/-- What is recorded of a chip. -/
def ops : List (Op α) := [p.plate m, p.label m]

/-- Where the next chip of the row is drawn. -/
def next : α := p.x + (p.width + m.gap)

/-- A chip shows a label, and is as wide as the label asks for. -/
def Shows (text : String) : Prop := p.text = text ∧ chipWidth m text = .ok p.width

end Pill

namespace Setup

variable {α : Type} [Length α] (d : Setup α)

/-- The measures that chips of a style have. -/
def chipMeasures (style : Style) : Except Failure (ChipMeasures α) := do
  let size ← d.preset.sizeFor style.fontSize .chipSize
  let padX ← d.preset.size .chipPadX
  let padY ← d.preset.size .chipPadY
  let gap ← d.preset.size .chipGap
  let font ← d.preset.font style.bold style.italic
  .ok ⟨font, Length.ofFloat size, Length.ofFloat padX, Length.ofFloat padY, Length.ofFloat gap⟩

variable (m : ChipMeasures α)

/-- A chip begins a row at the left edge, where room is made for the row below a spot. -/
def BeginsRow (c : Spot α) (p : Pill α) : Prop :=
  p.x = d.geometry.left ∧ p.row = (d.enter m.rowHeight c).2

/-- A chip goes on in the row of another one, behind it and within the right edge. -/
def GoesOn (p q : Pill α) : Prop :=
  q.x = p.next m ∧ q.row = p.row ∧ ¬d.geometry.right < q.x + q.width

/-- A chip comes after another one: in its row, or in the next one if it does not fit behind it. -/
def ComesAfter (p q : Pill α) : Prop :=
  d.GoesOn m p q ∨
    d.geometry.right < p.next m + q.width ∧ d.BeginsRow m (p.row.lower m.rowHeight) q

/-- A chip begins a row where none is open, and comes after the last chip of an open row. -/
def Continues (c : Spot α) (open? : Option (Pill α)) (q : Pill α) : Prop :=
  open?.elim (d.BeginsRow m c q) fun p => d.ComesAfter m p q

/-- Chips that show items: one for each item that has a label, in their order. -/
def ShowsChips (chips : List Chip) (pills : List (Pill α)) : Prop :=
  ∃ labels, chips.mapM (fun c => interpolate c.label d.context) = .ok labels ∧
    List.Forall₂ (fun text p => p.Shows m text) (labels.filter (· ≠ "")) pills

/-- Chips in rows, from one spot to another. If a row is open already, it is known by its last chip. -/
structure InRows (c : Spot α) (open? : Option (Pill α)) (pills : List (Pill α)) (e : Spot α) : Prop where
  begins : open? = none → ∀ p ∈ pills.head?, d.BeginsRow m c p
  chain : (open?.toList ++ pills).IsChain (d.ComesAfter m)
  ends : e = (open?.toList ++ pills).getLast?.elim c fun p => p.row.lower m.rowHeight

end Setup

variable {α : Type} [Length α] {d : Setup α} {m : ChipMeasures α} {s t : Sheet α} {c e : Spot α}
  {p q : Pill α} {pills : List (Pill α)}

/-! ## Chains of chips -/

theorem Setup.InRows.cons {open? : Option (Pill α)} (hq : d.Continues m c open? q)
    (h : d.InRows m q.row (some q) pills e) : d.InRows m c open? (q :: pills) e where
  begins hnone p hp := by
    subst hnone
    cases hp
    exact hq
  chain := by
    cases open? with
    | none => exact h.chain
    | some p => exact List.isChain_cons_cons.mpr ⟨hq, h.chain⟩
  ends := by
    rw [h.ends]
    cases open? <;> simp [List.getLast?_cons]

/-- Where no row is open, the first chip begins one. -/
theorem Setup.InRows.of_begin (h : d.InRows m c none (p :: pills) e) :
    d.BeginsRow m c p ∧ d.InRows m p.row (some p) pills e := by
  refine ⟨h.begins rfl p rfl, nofun, h.chain, ?_⟩
  rw [h.ends]
  simp [List.getLast?_cons]

/-- In an open row, the next chip comes after the last one. -/
theorem Setup.InRows.of_add (h : d.InRows m c (some p) (q :: pills) e) :
    d.ComesAfter m p q ∧ d.InRows m q.row (some q) pills e := by
  have hchain : (p :: q :: pills).IsChain (d.ComesAfter m) := h.chain
  obtain ⟨hq, hpills⟩ := List.isChain_cons_cons.mp hchain
  refine ⟨hq, nofun, hpills, ?_⟩
  rw [h.ends]
  simp [List.getLast?_cons]

theorem map_text_of_shows {texts : List String} (h : List.Forall₂ (fun text p => p.Shows m text) texts pills) :
    pills.map Pill.text = texts := by
  induction h with
  | nil => rfl
  | cons hp _ ih => rw [List.map_cons, hp.1, ih]

namespace Setup.ShowsChips

variable {chip : Chip} {chips : List Chip}

theorem nil : d.ShowsChips m [] [] := ⟨[], rfl, .nil⟩

theorem skip (hlabel : interpolate chip.label d.context = .ok "") (h : d.ShowsChips m chips pills) :
    d.ShowsChips m (chip :: chips) pills := by
  obtain ⟨labels, hlabels, hshown⟩ := h
  refine ⟨"" :: labels, mapM_cons_eq_ok_iff.mpr ⟨"", labels, hlabel, hlabels, rfl⟩, ?_⟩
  rwa [List.filter_cons_of_neg (by simp)]

theorem cons {text : String} (hlabel : interpolate chip.label d.context = .ok text) (hne : text ≠ "")
    (hp : p.Shows m text) (h : d.ShowsChips m chips pills) : d.ShowsChips m (chip :: chips) (p :: pills) := by
  obtain ⟨labels, hlabels, hshown⟩ := h
  refine ⟨text :: labels, mapM_cons_eq_ok_iff.mpr ⟨text, labels, hlabel, hlabels, rfl⟩, ?_⟩
  rw [List.filter_cons_of_pos (by simpa using hne)]
  exact .cons hp hshown

end Setup.ShowsChips

/-! ## Drawing chips -/

theorem run_drawChip_ok {style : Style} {c : Chip} {text : String} {x width : α} {b : Unit}
    (h : (d.drawChip m style c text x width).run.run s = (.ok b, t)) :
    Stays s (Pill.ops m ⟨s.spot, x, width, text⟩) t := by
  obtain ⟨_, _, hget, h⟩ := run_bind_ok h
  cases hget
  obtain ⟨_, s₁, hplate, h⟩ := run_bind_ok h
  have hplate := run_drawPlate_ok hplate
  have hlabel := run_drawText_ok h
  rw [hplate.page] at hlabel
  exact hplate.trans hlabel

/-- A chip that begins a row is drawn where room was made for the row. -/
theorem run_firstChip_ok {style : Style} {c : Chip} {text : String} {width : α} {rest : Draw α Unit} {b : Unit}
    (h : (d.ensureSpace m.rowHeight >>= fun _ => d.drawChip m style c text d.geometry.left width >>= fun _ =>
      rest).run.run s = (.ok b, t)) :
    ∃ s₁ : Sheet α, s₁.spot = (d.enter m.rowHeight s.spot).2 ∧
      opsOf s₁.log = opsOf s.log ++ Pill.ops m ⟨s₁.spot, d.geometry.left, width, text⟩ ∧
      rest.run.run s₁ = (.ok b, t) := by
  obtain ⟨_, s₀, hroom, h⟩ := run_bind_ok h
  obtain ⟨hspot, hsame⟩ := Setup.run_ensureSpace_ok hroom
  obtain ⟨_, s₁, hchip, h⟩ := run_bind_ok h
  have hstays := run_drawChip_ok hchip
  refine ⟨s₁, hstays.spot.trans hspot, ?_, h⟩
  rw [hstays.ops, hstays.spot, hsame]

/-- A chip with a label is drawn in the open row or as the first one of the next row, and the others after it. -/
theorem run_drawChips_cons_ok (open? : Option (Pill α)) {style : Style} {c : Chip} {chips : List Chip} {text : String}
    (hopen : ∀ p ∈ open?, p.row = s.spot) (htext : interpolate c.label d.context = .ok text) (hne : text ≠ "")
    {b : Unit} (h : (d.drawChips m style (open?.map (Pill.next m)) (c :: chips)).run.run s = (.ok b, t)) :
    ∃ (q : Pill α) (s₁ : Sheet α), q.Shows m text ∧ d.Continues m s.spot open? q ∧ q.row = s₁.spot ∧
      opsOf s₁.log = opsOf s.log ++ q.ops m ∧
      (d.drawChips m style (some (q.next m)) chips).run.run s₁ = (.ok b, t) := by
  obtain ⟨_, _, hread, h⟩ := run_bind_ok h
  obtain ⟨hlabel, rfl⟩ := run_liftM_ok hread
  cases htext.symm.trans hlabel
  rw [if_neg hne] at h
  obtain ⟨width, _, hread, h⟩ := run_bind_ok h
  obtain ⟨hwidth, rfl⟩ := run_liftM_ok hread
  dsimp only at h
  split at h
  · next x hplace =>
    obtain ⟨hx, hfits⟩ := Option.filter_eq_some_iff.mp hplace
    obtain ⟨p, rfl, rfl⟩ := Option.map_eq_some_iff.mp hx
    obtain ⟨_, s₁, hchip, h⟩ := run_bind_ok h
    have hstays := run_drawChip_ok hchip
    exact ⟨⟨s.spot, p.next m, width, text⟩, s₁, ⟨rfl, hwidth⟩,
      .inl ⟨rfl, (hopen p rfl).symm, by simpa using hfits⟩, hstays.spot.symm, hstays.ops, h⟩
  · next hplace =>
    cases open? with
    | none =>
      obtain ⟨s₁, hspot, hops, h⟩ := run_firstChip_ok h
      exact ⟨_, s₁, ⟨rfl, hwidth⟩, ⟨rfl, hspot⟩, rfl, hops, h⟩
    | some p =>
      have hwide : d.geometry.right < p.next m + width := by simpa using hplace
      obtain ⟨_, s₀, hdown, h⟩ := run_bind_ok h
      cases hdown
      obtain ⟨s₁, hspot, hops, h⟩ := run_firstChip_ok h
      have hrow : Sheet.spot { s with y := s.y - m.rowHeight } = p.row.lower m.rowHeight := by
        rw [hopen p rfl]
        rfl
      rw [hrow] at hspot
      exact ⟨_, s₁, ⟨rfl, hwidth⟩, .inr ⟨hwide, rfl, hspot⟩, rfl, hops, h⟩

/-- Chips are drawn one after the other, where a row is open or none is. -/
theorem run_drawChips_ok (open? : Option (Pill α)) {style : Style} {chips : List Chip} {b : Unit}
    (hopen : ∀ p ∈ open?, p.row = s.spot)
    (h : (d.drawChips m style (open?.map (Pill.next m)) chips).run.run s = (.ok b, t)) :
    ∃ pills, d.ShowsChips m chips pills ∧ opsOf t.log = opsOf s.log ++ pills.flatMap (Pill.ops m) ∧
      d.InRows m s.spot open? pills t.spot := by
  induction chips generalizing s open? with
  | nil =>
    refine ⟨[], .nil, ?_⟩
    cases open? with
    | none =>
      cases h
      exact ⟨by simp, by simp, by simp, by simp⟩
    | some p =>
      cases h
      refine ⟨by simp, by simp, by simp, ?_⟩
      simp [hopen p rfl, Sheet.spot, Spot.lower]
  | cons c chips ih =>
    obtain ⟨text, htext⟩ : ∃ text, interpolate c.label d.context = .ok text := by
      obtain ⟨text, _, hread, -⟩ := run_bind_ok h
      exact ⟨text, (run_liftM_ok hread).1⟩
    by_cases hempty : text = ""
    · subst hempty
      obtain ⟨_, _, hread, h⟩ := run_bind_ok h
      obtain ⟨hlabel, rfl⟩ := run_liftM_ok hread
      cases htext.symm.trans hlabel
      obtain ⟨pills, hshown, hrows⟩ := ih open? hopen h
      exact ⟨pills, .skip htext hshown, hrows⟩
    · obtain ⟨q, s₁, hq, hcontinues, hrow, hops, h⟩ := run_drawChips_cons_ok open? hopen htext hempty h
      obtain ⟨pills, hshown, hmore, hrows⟩ := ih (some q) (by simpa using hrow) h
      refine ⟨q :: pills, .cons htext hempty hq hshown, ?_, .cons hcontinues ?_⟩
      · rw [hmore, hops, List.flatMap_cons, List.append_assoc]
      · rwa [hrow]

/-! ## Components of chips -/

theorem run_drawChipRows_ok {style : Style} {chips : List Chip} {b : Unit}
    (h : (d.drawChipRows style chips).run.run s = (.ok b, t)) :
    ∃ m, d.chipMeasures style = .ok m ∧ (d.drawChips m style none chips).run.run s = (.ok b, t) := by
  obtain ⟨_, _, hread, h⟩ := run_bind_ok h
  obtain ⟨size, hsize, rfl, rfl⟩ := Setup.run_sizeOr_ok hread
  obtain ⟨_, _, hread, h⟩ := run_bind_ok h
  obtain ⟨padX, hpadX, rfl, rfl⟩ := Setup.run_size_ok hread
  obtain ⟨_, _, hread, h⟩ := run_bind_ok h
  obtain ⟨padY, hpadY, rfl, rfl⟩ := Setup.run_size_ok hread
  obtain ⟨_, _, hread, h⟩ := run_bind_ok h
  obtain ⟨gap, hgap, rfl, rfl⟩ := Setup.run_size_ok hread
  obtain ⟨font, _, hread, h⟩ := run_bind_ok h
  obtain ⟨hfont, rfl⟩ := run_liftM_ok hread
  refine ⟨_, ?_, h⟩
  simp [Setup.chipMeasures, hsize, hpadX, hpadY, hgap, hfont, bind, Except.bind]

/-- Chips that are drawn are one ground and one label for each item that has a label, in their order, and nothing
else. The first one begins a row below the cursor, each other one goes on in the row of the one before it or, if it does
not fit there, begins the next one, and the cursor ends a row below the last row. Without chips it stays. -/
theorem chips_are_drawn_in_rows (children : Draw α Unit) (common : Common) (chips : List Chip)
    (h : (d.drawKind children (.chips common chips)).run.run s = (.ok (), t)) :
    ∃ m labels pills, d.chipMeasures (Component.chips common chips).style = .ok m ∧
      chips.mapM (fun c => interpolate c.label d.context) = .ok labels ∧
      List.Forall₂ (fun text p => p.Shows m text) (labels.filter (· ≠ "")) pills ∧
      opsOf t.log = opsOf s.log ++ pills.flatMap (Pill.ops m) ∧
      (∀ p ∈ pills.head?, d.BeginsRow m s.spot p) ∧ pills.IsChain (d.ComesAfter m) ∧
      t.spot = pills.getLast?.elim s.spot fun p => p.row.lower m.rowHeight := by
  obtain ⟨m, hm, h⟩ := run_drawChipRows_ok h
  obtain ⟨pills, ⟨labels, hlabels, hshown⟩, hops, hrows⟩ := run_drawChips_ok none (by simp) h
  exact ⟨m, labels, pills, hm, hlabels, hshown, hops, hrows.begins rfl, hrows.chain, hrows.ends⟩

/-- Two labels with a blank one between them, and one that does not fit behind them. -/
def seasonChips : List Chip :=
  [{ label := "Spring" }, { label := "{{ none }}" }, { label := "{{ season }}" }, { label := "Autumn" }]

/-- Large chips. -/
def seasonCommon : Common := { id := "seasons", style := some { fontSize := some 60.0 } }

/-- What the chips are drawn with, at the bottom of a page with room for one row of them. -/
def seasonsSetup : Setup Float :=
  ⟨.standard, .standard, .record [("season", .text "Summer")], "Seasons", .idle, pngPictures⟩

theorem seasons_are_drawn_in_rows :
    ∃ t, (seasonsSetup.drawKind (pure ()) (.chips seasonCommon seasonChips)).run.run ⟨120.0, 1, #[]⟩ =
        (.ok (), t) ∧
      (opsOf t.log).map (fun o => (o.page, o.role)) = [(1, .chip), (1, .chipLabel), (1, .chip), (1, .chipLabel),
        (2, .chip), (2, .chipLabel)] ∧
      ∃ (m : ChipMeasures Float) (pills : List (Pill Float)), opsOf t.log = pills.flatMap (Pill.ops m) ∧
        pills.map Pill.text = ["Spring", "Summer", "Autumn"] ∧
        (∀ p ∈ pills.head?, seasonsSetup.BeginsRow m ⟨1, 120.0⟩ p) ∧ pills.IsChain (seasonsSetup.ComesAfter m) := by
  obtain ⟨r, hr⟩ : ∃ r, (seasonsSetup.drawKind (pure ()) (.chips seasonCommon seasonChips)).run.run
    ⟨120.0, 1, #[]⟩ = r := ⟨_, rfl⟩
  have hanswers : r.1 = .ok () := by
    rw [← hr]
    decide +kernel
  have hroles : (opsOf r.2.log).map (fun o => (o.page, o.role)) = [(1, .chip), (1, .chipLabel), (1, .chip),
      (1, .chipLabel), (2, .chip), (2, .chipLabel)] := by
    rw [← hr]
    decide +kernel
  obtain ⟨_, t⟩ := r
  cases hanswers
  obtain ⟨m, labels, pills, -, hlabels, hshown, hops, hfirst, hchain, -⟩ :=
    chips_are_drawn_in_rows (pure ()) seasonCommon seasonChips hr
  have htexts : seasonChips.mapM (fun c => interpolate c.label seasonsSetup.context) =
      .ok ["Spring", "", "Summer", "Autumn"] := by decide +kernel
  cases hlabels.symm.trans htexts
  exact ⟨t, hr, hroles, m, pills, hops, map_text_of_shows hshown, hfirst, hchain⟩

end DocTemplate.Page
