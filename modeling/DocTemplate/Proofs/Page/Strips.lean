import DocTemplate.Proofs.Page.Chips
import DocTemplate.Proofs.Page.Performing
import DocTemplate.Proofs.Page.Strict
import DocTemplate.Proofs.Page.Table

/-!
# Strips

What is drawn without a failure comes in strips, one below the other: room is made for a height, something is recorded
that hangs from the cursor within that height, and the cursor goes down by it. Main statement: `lays_drawKind`.
-/

namespace DocTemplate.Page

/-- Whether what has a part in the document can reach beyond the strip that it is drawn in: the labels of chips and the
cells of tables are placed by their baseline. -/
def Role.overhangs : Role → Bool
  | .chipLabel | .tableHeader | .tableCell => true
  | _ => false

variable {α : Type} [Length α]

section

variable (d : Setup α) (Q : Float → Prop)

/-- What hangs from a spot in a strip of a height stands on the page of the spot. Unless it overhangs, its bottom is a
part of the height below the spot, and it is as high as that part or flat. -/
structure Hangs (height : α) (c : Spot α) (o : Op α) : Prop where
  page : o.page = c.page
  part : o.role.overhangs = false → ∃ k, Part d Q k height ∧ o.y = c.y - k ∧ (o.height = k ∨ o.height = 0.0)

/-- Strips from one spot down to another, with what is recorded in them. In each of them there is something that does
not overhang. -/
inductive Strips : Spot α → List (Op α) → Spot α → Prop
  | nil (c : Spot α) : Strips c [] c
  | cons {c e : Spot α} {ops more : List (Op α)} (height : α)
      (hsome : ∃ o ∈ ops, o.role.overhangs = false)
      (hhangs : ∀ o ∈ ops, Hangs d Q height (d.enter height c).2 o)
      (h : Strips ((d.enter height c).2.lower height) more e) : Strips c (ops ++ more) e

/-- A sheet is drawn on in strips. -/
abbrev Lays : Sheet α → Sheet α → Prop := Adds (Strips d Q)

end

variable {d : Setup α} {Q : Float → Prop} {height : α} {s t u : Sheet α} {c e f : Spot α} {new more : List (Op α)}

theorem Strips.append (h : Strips d Q c new e) (h' : Strips d Q e more f) : Strips d Q c (new ++ more) f := by
  induction h with
  | nil c => exact h'
  | cons height hsome hhangs _ ih =>
    rw [List.append_assoc]
    exact .cons height hsome hhangs (ih h')

namespace Lays

theorem refl (s : Sheet α) : Lays d Q s s := .of_nothing rfl (.nil s.spot)

theorem trans (h : Lays d Q s t) (h' : Lays d Q t u) : Lays d Q s u := Adds.trans Strips.append h h'

/-- Room is made, something is recorded that hangs from the cursor, and the cursor goes down. -/
theorem strip {s₀ s₁ : Sheet α} {b : Unit} {o : Op α} {ops : List (Op α)}
    (hroom : s₀.spot = (d.enter height s.spot).2 ∧ opsOf s₀.log = opsOf s.log) (hstays : Stays s₀ (ops ++ [o]) s₁)
    (hops : ∀ o ∈ ops, Hangs d Q height s₀.spot o) (ho : Hangs d Q height s₀.spot o) (hrole : o.role.overhangs = false)
    (hdown : (moveDown height).run.run s₁ = (.ok b, t)) : Lays d Q s t := by
  cases hdown
  have hspot : Sheet.spot { s₁ with y := s₁.y - height } = (d.enter height s.spot).2.lower height := by
    rw [← hroom.1, ← hstays.spot]
    rfl
  refine ⟨ops ++ [o] ++ [], ?_, .cons height ⟨o, by simp, hrole⟩ ?_ ?_⟩
  · rw [List.append_nil, ← hroom.2]
    exact hstays.ops
  · rw [← hroom.1]
    exact List.forall_mem_append.mpr ⟨hops, List.forall_mem_singleton.mpr ho⟩
  · rw [hspot]
    exact .nil _

/-- One thing is recorded in a strip. -/
theorem single {s₀ s₁ : Sheet α} {b : Unit} {o : Op α}
    (hroom : s₀.spot = (d.enter height s.spot).2 ∧ opsOf s₀.log = opsOf s.log) (hstays : Stays s₀ [o] s₁)
    (ho : Hangs d Q height s₀.spot o) (hrole : o.role.overhangs = false)
    (hdown : (moveDown height).run.run s₁ = (.ok b, t)) : Lays d Q s t := by
  rw [← List.nil_append [o]] at hstays
  exact .strip hroom hstays (List.forall_mem_nil _) ho hrole hdown

end Lays

/-! ## Lines of text -/

theorem lays_drawEach {align : Align} {font : String} {size lineHeight : α} {color : Color} {role : Role}
    {lines : List (List Char)} (hrole : role.overhangs = false) (hpart : Part d Q size lineHeight) {b : Unit}
    (h : (d.drawEach align font size lineHeight color role lines).run.run s = (.ok b, t)) : Lays d Q s t := by
  induction lines generalizing s with
  | nil =>
    cases h
    exact .refl t
  | cons line lines ih =>
    obtain ⟨_, s₀, hroom, h⟩ := run_bind_ok h
    obtain ⟨_, _, hget, h⟩ := run_bind_ok h
    cases hget
    obtain ⟨_, s₁, htext, h⟩ := run_bind_ok h
    obtain ⟨_, s₂, hdown, h⟩ := run_bind_ok h
    have hline : Lays d Q s s₂ := by
      refine .single (Setup.run_ensureSpace_ok hroom) (run_drawText_ok htext) ?_ hrole hdown
      exact ⟨rfl, fun _ => ⟨size, hpart, rfl, .inl rfl⟩⟩
    exact hline.trans (ih h)

theorem lays_drawLines (hpreset : d.preset.SizesIn Q) {content : String} {x : Float} (hx : Q x) {bold italic : Bool}
    {style : Style} {role : Role} (hrole : role.overhangs = false) {b : Unit}
    (h : (d.drawLines content (Length.ofFloat x) bold italic style role).run.run s = (.ok b, t)) : Lays d Q s t := by
  obtain ⟨font, _, hfont, h⟩ := run_bind_ok h
  obtain ⟨-, rfl⟩ := run_liftM_ok hfont
  obtain ⟨gap, _, hgap, h⟩ := run_bind_ok h
  obtain ⟨gap, hsize, rfl, rfl⟩ := Setup.run_size_ok hgap
  obtain ⟨lines, _, hlines, h⟩ := run_bind_ok h
  obtain ⟨-, rfl⟩ := run_liftM_ok hlines
  exact lays_drawEach hrole (.line x gap hx (hpreset.size .lineGap gap hsize)) h

theorem Preset.SizesIn.givenFor {p : Preset} (hpreset : p.SizesIn Q) {x? : Option Float} (hx? : ∀ x ∈ x?, Q x)
    {setting : SizeSetting} {x : Float} (h : p.givenFor x? setting = .ok x) : Q x := by
  cases x? with
  | some y =>
    cases h
    exact hx? x rfl
  | none => exact hpreset.size setting x h

/-- The sizes of a style and of a preset have a property. -/
theorem Preset.SizesIn.sizeFor {p : Preset} (hpreset : p.SizesIn Q) {x? : Option Float} (hx? : ∀ x ∈ x?, Q x)
    {setting : SizeSetting} {x : Float} (h : p.sizeFor x? setting = .ok x) : Q x :=
  hpreset.givenFor (fun y hy => hx? y (mem_of_nonzero? hy)) h

section

variable (hpreset : d.preset.SizesIn Q) {style : Style} (hstyle : ∀ x ∈ style.sizes, Q x) {b : Unit}

include hpreset hstyle

theorem lays_drawHeading {common : Common} {level : String}
    (h : (d.drawHeading common style level).run.run s = (.ok b, t)) : Lays d Q s t := by
  have hlines {x : Float} (hx : Q x) {s : Sheet α} (h : ((liftM (interpolate common.text d.context) : Draw α String) >>=
      fun content => d.drawLines content (Length.ofFloat x) true style.italic style .heading).run.run s = (.ok b, t)) :
      Lays d Q s t := by
    obtain ⟨content, _, hcontent, h⟩ := run_bind_ok h
    obtain ⟨-, rfl⟩ := run_liftM_ok hcontent
    exact lays_drawLines hpreset hx rfl h
  unfold Setup.drawHeading at h
  split at h
  · next x hx =>
    rw [pure_bind] at h
    exact hlines (hstyle x (fontSize_mem_sizes (mem_of_nonzero? hx))) h
  · obtain ⟨x, _, hread, h⟩ := run_bind_ok h
    obtain ⟨hsize, rfl⟩ := run_liftM_ok hread
    exact hlines (hpreset.heading _ x hsize) h

theorem lays_drawParagraph {common : Common} (h : (d.drawParagraph common style).run.run s = (.ok b, t)) :
    Lays d Q s t := by
  obtain ⟨size, _, hsize, h⟩ := run_bind_ok h
  obtain ⟨x, hx, rfl, rfl⟩ := Setup.run_sizeOr_ok hsize
  obtain ⟨content, _, hcontent, h⟩ := run_bind_ok h
  obtain ⟨-, rfl⟩ := run_liftM_ok hcontent
  exact lays_drawLines hpreset (hpreset.sizeFor (fun x hx => hstyle x (fontSize_mem_sizes hx)) hx) rfl h

omit hstyle in
theorem lays_drawItems {x : Float} (hx : Q x) {bullet : String} {items : List ListItem}
    (h : (d.drawItems style (Length.ofFloat x) bullet items).run.run s = (.ok b, t)) : Lays d Q s t := by
  induction items generalizing s with
  | nil =>
    cases h
    exact .refl t
  | cons item items ih =>
    obtain ⟨content, _, hcontent, h⟩ := run_bind_ok h
    obtain ⟨-, rfl⟩ := run_liftM_ok hcontent
    dsimp only at h
    split at h
    · obtain ⟨_, s₁, hitem, h⟩ := run_bind_ok h
      exact (lays_drawLines hpreset hx rfl hitem).trans (ih h)
    · exact ih h

theorem lays_drawList {items : List ListItem} (h : (d.drawList style items).run.run s = (.ok b, t)) :
    Lays d Q s t := by
  obtain ⟨size, _, hsize, h⟩ := run_bind_ok h
  obtain ⟨x, hx, rfl, rfl⟩ := Setup.run_sizeOr_ok hsize
  obtain ⟨bullet, _, hbullet, h⟩ := run_bind_ok h
  obtain ⟨-, rfl⟩ := run_liftM_ok hbullet
  exact lays_drawItems hpreset (hpreset.sizeFor (fun x hx => hstyle x (fontSize_mem_sizes hx)) hx) h

end

/-! ## Rows of chips -/

section

variable {m : ChipMeasures α} {p : Pill α} {pills : List (Pill α)}

theorem Pill.hangs (hpart : Part d Q m.height m.rowHeight) (p : Pill α) :
    ∀ o ∈ p.ops m, Hangs d Q m.rowHeight p.row o := by
  intro o ho
  rcases List.mem_pair.mp ho with rfl | rfl
  · exact ⟨rfl, fun _ => ⟨m.height, hpart, rfl, .inl rfl⟩⟩
  · exact ⟨rfl, fun h => by cases h⟩

theorem part_chipMeasures (hpreset : d.preset.SizesIn Q) {style : Style} (hstyle : ∀ x ∈ style.sizes, Q x)
    (h : d.chipMeasures style = .ok m) : Part d Q m.height m.rowHeight := by
  obtain ⟨size, hsize, h⟩ := bind_eq_ok_iff.mp h
  obtain ⟨padX, -, h⟩ := bind_eq_ok_iff.mp h
  obtain ⟨padY, hpadY, h⟩ := bind_eq_ok_iff.mp h
  obtain ⟨gap, hgap, h⟩ := bind_eq_ok_iff.mp h
  obtain ⟨font, -, h⟩ := bind_eq_ok_iff.mp h
  cases h
  exact .chip size padY gap (hpreset.sizeFor (fun x hx => hstyle x (fontSize_mem_sizes hx)) hsize)
    (hpreset.size .chipPadY padY hpadY) (hpreset.size .chipGap gap hgap)

/-- Behind a chip there are the others of its row, and then the rows below. -/
theorem Setup.InRows.strips (hpart : Part d Q m.height m.rowHeight) (h : d.InRows m c (some p) pills e) :
    ∃ row below, pills.flatMap (Pill.ops m) = row ++ below ∧ (∀ o ∈ row, Hangs d Q m.rowHeight p.row o) ∧
      Strips d Q (p.row.lower m.rowHeight) below e := by
  induction pills generalizing c p with
  | nil =>
    refine ⟨[], [], rfl, List.forall_mem_nil _, ?_⟩
    rw [h.ends]
    exact .nil _
  | cons q pills ih =>
    obtain ⟨hq, hrest⟩ := h.of_add
    obtain ⟨row, below, hops, hrow, hbelow⟩ := ih hrest
    have hall : ∀ o ∈ q.ops m ++ row, Hangs d Q m.rowHeight q.row o :=
      List.forall_mem_append.mpr ⟨q.hangs hpart, hrow⟩
    rw [List.flatMap_cons, hops, ← List.append_assoc]
    rcases hq with ⟨-, hspot, -⟩ | ⟨-, -, hspot⟩
    · rw [hspot] at hall hbelow
      exact ⟨_, below, rfl, hall, hbelow⟩
    · rw [hspot] at hall hbelow
      exact ⟨[], _, rfl, List.forall_mem_nil _, .cons m.rowHeight ⟨_, List.mem_cons_self, rfl⟩ hall hbelow⟩

theorem lays_drawChipRows (hpreset : d.preset.SizesIn Q) {style : Style} (hstyle : ∀ x ∈ style.sizes, Q x)
    {chips : List Chip} {b : Unit} (h : (d.drawChipRows style chips).run.run s = (.ok b, t)) : Lays d Q s t := by
  obtain ⟨m, hm, h⟩ := run_drawChipRows_ok h
  obtain ⟨pills, -, hops, hrows⟩ := run_drawChips_ok none (by simp) h
  have hpart := part_chipMeasures hpreset hstyle hm
  refine ⟨_, hops, ?_⟩
  cases pills with
  | nil =>
    rw [hrows.ends]
    exact .nil _
  | cons p pills =>
    obtain ⟨⟨-, hspot⟩, hrest⟩ := hrows.of_begin
    obtain ⟨row, below, hpills, hrow, hbelow⟩ := hrest.strips hpart
    have hall : ∀ o ∈ p.ops m ++ row, Hangs d Q m.rowHeight p.row o :=
      List.forall_mem_append.mpr ⟨p.hangs hpart, hrow⟩
    rw [hspot] at hall hbelow
    rw [List.flatMap_cons, hpills, ← List.append_assoc]
    exact .cons m.rowHeight ⟨_, List.mem_cons_self, rfl⟩ hall hbelow

end

/-! ## Dividers, spaces and images -/

section

variable (hpreset : d.preset.SizesIn Q) {b : Unit}

include hpreset

theorem lays_drawDivider (h : d.drawDivider.run.run s = (.ok b, t)) : Lays d Q s t := by
  obtain ⟨_, _, hread, h⟩ := run_bind_ok h
  obtain ⟨x, hx, rfl, rfl⟩ := Setup.run_size_ok hread
  obtain ⟨_, s₀, hroom, h⟩ := run_bind_ok h
  obtain ⟨_, _, hget, h⟩ := run_bind_ok h
  cases hget
  obtain ⟨_, s₁, hline, hdown⟩ := run_bind_ok h
  refine .single (Setup.run_ensureSpace_ok hroom) (run_drawLine_ok hline) ?_ rfl hdown
  exact ⟨rfl, fun _ => ⟨_, .half x (hpreset.size .dividerHeight x hx), rfl, .inr rfl⟩⟩

theorem lays_drawPicture {address : Except Failure String} {width height : Option Float}
    (hheight : ∀ x ∈ height, Q x) (h : (d.drawPicture address width height).run.run s = (.ok b, t)) :
    Lays d Q s t := by
  obtain ⟨_, _, hread, h⟩ := run_bind_ok h
  obtain ⟨-, -, -, rfl⟩ := Setup.run_givenOr_ok hread
  obtain ⟨_, _, hread, h⟩ := run_bind_ok h
  obtain ⟨x, hx, rfl, rfl⟩ := Setup.run_givenOr_ok hread
  have hpart := Part.image (d := d) x (hpreset.givenFor hheight hx)
  obtain ⟨_, s₀, hroom, h⟩ := run_bind_ok h
  obtain ⟨_, _, hget, h⟩ := run_bind_ok h
  cases hget
  obtain ⟨source, _, hread, h⟩ := run_bind_ok h
  obtain ⟨-, rfl⟩ := run_liftM_ok hread
  have hroom := Setup.run_ensureSpace_ok hroom
  dsimp only at h
  split at h
  · obtain ⟨_, s₁, hcall, h⟩ := run_bind_ok h
    obtain ⟨_, s₂, hrecord, hdown⟩ := run_bind_ok h
    have hcall := run_call_ok hcall
    have hrecord := run_record_ok hrecord
    rw [hcall.page] at hrecord
    exact .single hroom (hcall.trans hrecord) ⟨rfl, fun _ => ⟨_, hpart, rfl, .inl rfl⟩⟩ rfl hdown
  · obtain ⟨_, s₁, hframe, hdown⟩ := run_bind_ok h
    exact .single hroom (run_drawFrame_ok hframe) ⟨rfl, fun _ => ⟨_, hpart, rfl, .inl rfl⟩⟩ rfl hdown
  · rw [throw_bind] at h
    cases h

theorem lays_drawImage {common : Common} {url : Option String} {width height : Option Float}
    (hheight : ∀ x ∈ height, Q x) (h : (d.drawImage common url width height).run.run s = (.ok b, t)) :
    Lays d Q s t := by
  obtain ⟨source, _, hread, h⟩ := run_bind_ok h
  obtain ⟨-, rfl⟩ := run_liftM_ok hread
  split at h
  · exact lays_drawPicture hpreset (fun x hx => hheight x (mem_of_nonzero? hx)) h
  · cases h
    exact .refl s

end

/-! ## Tables -/

/-- The cells of a line overhang it. -/
theorem hangs_cells {role : Role} (hrole : role.overhangs = true) {shown : Column → Except Failure String}
    {columns : List Column} {cells : List (Op α)} (hstays : Stays s cells t) (hpages : ∀ o ∈ cells, o.page = t.page)
    (h : List.Forall₂ (IsCell role shown) columns cells) : ∀ o ∈ cells, Hangs d Q height s.spot o := by
  intro o ho
  refine ⟨(hpages o ho).trans hstays.page, fun hnone => ?_⟩
  rw [role_of_isCell h o ho, hrole] at hnone
  cases hnone

section

variable {x : Float} (hx : Q x) {slot : α} {columns : List Column} {b : Unit}

include hx

theorem lays_drawHead (h : (d.drawHead slot (Length.ofFloat x) columns).run.run s = (.ok b, t)) : Lays d Q s t := by
  obtain ⟨_, s₀, hroom, h⟩ := run_bind_ok h
  obtain ⟨font, _, hfont, h⟩ := run_bind_ok h
  obtain ⟨-, rfl⟩ := run_liftM_ok hfont
  obtain ⟨size, _, hsize, h⟩ := run_bind_ok h
  obtain ⟨-, -, -, rfl⟩ := Setup.run_size_ok hsize
  obtain ⟨_, s₁, hcells, h⟩ := run_bind_ok h
  obtain ⟨cells, hstays, hpages, hshown⟩ := run_drawCells_ok hcells
  obtain ⟨_, _, hget, h⟩ := run_bind_ok h
  cases hget
  obtain ⟨_, s₂, hrule, hdown⟩ := run_bind_ok h
  have hrule := run_drawLine_ok hrule
  rw [hstays.y, hstays.page] at hrule
  exact .strip (Setup.run_ensureSpace_ok hroom) (hstays.trans hrule)
    (hangs_cells rfl hstays hpages hshown) ⟨rfl, fun _ => ⟨_, .whole x hx, rfl, .inr rfl⟩⟩ rfl hdown

theorem lays_drawRows {font : String} {size : α} {rows : List Value}
    (h : (d.drawRows slot (Length.ofFloat x) font size columns rows).run.run s = (.ok b, t)) : Lays d Q s t := by
  induction rows generalizing s with
  | nil =>
    cases h
    exact .refl t
  | cons row rows ih =>
    obtain ⟨_, s₀, hroom, h⟩ := run_bind_ok h
    obtain ⟨_, s₁, hcells, h⟩ := run_bind_ok h
    obtain ⟨cells, hstays, hpages, hshown⟩ := run_drawCells_ok hcells
    obtain ⟨_, _, hget, h⟩ := run_bind_ok h
    cases hget
    obtain ⟨_, s₂, hband, h⟩ := run_bind_ok h
    obtain ⟨_, s₃, hdown, h⟩ := run_bind_ok h
    have hband := run_record_ok hband
    rw [hstays.y, hstays.page] at hband
    have hrow : Lays d Q s s₃ := .strip (Setup.run_ensureSpace_ok hroom) (hstays.trans hband)
      (hangs_cells rfl hstays hpages hshown) ⟨rfl, fun _ => ⟨_, .whole x hx, rfl, .inl rfl⟩⟩ rfl hdown
    exact hrow.trans (ih h)

end

theorem lays_drawTable (hpreset : d.preset.SizesIn Q) {path : Option String} {columns : List Column}
    {showHeader : Bool} {b : Unit} (h : (d.drawTable path columns showHeader).run.run s = (.ok b, t)) :
    Lays d Q s t := by
  obtain ⟨rows, _, hread, h⟩ := run_bind_ok h
  obtain ⟨-, rfl⟩ := run_liftM_ok hread
  obtain ⟨_, _, hread, h⟩ := run_bind_ok h
  obtain ⟨x, hsize, rfl, rfl⟩ := Setup.run_size_ok hread
  have hx := hpreset.size .tableRowHeight x hsize
  have hbody {slot : α} {s : Sheet α} (h : (liftM (d.preset.font false false) >>= fun font =>
      d.size .tableCellSize >>= fun size =>
        d.drawRows slot (Length.ofFloat x) font size columns rows).run.run s = (.ok b, t)) : Lays d Q s t := by
    obtain ⟨font, _, hread, h⟩ := run_bind_ok h
    obtain ⟨-, rfl⟩ := run_liftM_ok hread
    obtain ⟨_, _, hread, h⟩ := run_bind_ok h
    obtain ⟨-, -, -, rfl⟩ := Setup.run_size_ok hread
    exact lays_drawRows hx h
  dsimp only at h
  split at h
  · obtain ⟨_, s₁, hhead, h⟩ := run_bind_ok h
    exact (lays_drawHead hx hhead).trans (hbody h)
  · exact hbody h

/-! ## Namesakes -/

section

variable (hpreset : d.preset.SizesIn Q) {extras : Fields}

include hpreset

theorem lays_drawNamesakeImage {common : Common} (hsizes : ∀ x ∈ namesakeSizes extras .image, Q x)
    (h : (d.drawNamesakeImage common extras).run.run s = (.ok (), t)) : Lays d Q s t := by
  obtain ⟨source, _, hread, h⟩ := run_bind_ok h
  obtain ⟨-, rfl⟩ := run_liftM_ok hread
  split at h
  · obtain ⟨width, _, hread, h⟩ := run_bind_ok h
    obtain ⟨-, rfl⟩ := run_liftM_ok hread
    obtain ⟨height, _, hread, h⟩ := run_bind_ok h
    obtain ⟨hheight, rfl⟩ := run_liftM_ok hread
    exact lays_drawPicture hpreset
      (fun x hx => hsizes x (List.mem_append_right _ (mem_sizeIn hheight hx))) h
  · cases h
    exact .refl s

theorem lays_drawNamesakeTable (h : (d.drawNamesakeTable extras).run.run s = (.ok (), t)) : Lays d Q s t := by
  obtain ⟨columns, _, hread, h⟩ := run_bind_ok h
  obtain ⟨-, rfl⟩ := run_liftM_ok hread
  obtain ⟨path, _, hread, h⟩ := run_bind_ok h
  obtain ⟨-, rfl⟩ := run_liftM_ok hread
  obtain ⟨showHeader, _, hread, h⟩ := run_bind_ok h
  obtain ⟨-, rfl⟩ := run_liftM_ok hread
  split at h
  · cases h
  · exact lays_drawTable hpreset h
  · obtain ⟨rows, _, hread, h⟩ := run_bind_ok h
    obtain ⟨-, rfl⟩ := run_liftM_ok hread
    obtain ⟨_, _, hread, h⟩ := run_bind_ok h
    obtain ⟨-, -, -, rfl⟩ := Setup.run_size_ok hread
    split at h
    · obtain ⟨_, _, -, hfail⟩ := run_bind_ok h
      cases hfail
    · cases h
      exact .refl s

theorem lays_drawNamesake {common : Common} {style : Style} {kind : Kind} (hstyle : ∀ x ∈ style.sizes, Q x)
    (hsizes : ∀ x ∈ namesakeSizes extras kind, Q x) (hbox : kind ≠ .box) (hspacer : kind ≠ .spacer)
    (h : (d.drawNamesake common style extras kind).run.run s = (.ok (), t)) : Lays d Q s t := by
  cases kind with
  | heading =>
    obtain ⟨level, _, hread, h⟩ := run_bind_ok h
    obtain ⟨-, rfl⟩ := run_liftM_ok hread
    exact lays_drawHeading hpreset hstyle h
  | text => exact lays_drawParagraph hpreset hstyle h
  | list =>
    obtain ⟨_, _, hread, h⟩ := run_bind_ok h
    obtain ⟨-, rfl⟩ := run_liftM_ok hread
    exact lays_drawList hpreset hstyle h
  | chips =>
    obtain ⟨_, _, hread, h⟩ := run_bind_ok h
    obtain ⟨-, rfl⟩ := run_liftM_ok hread
    exact lays_drawChipRows hpreset hstyle h
  | divider => exact lays_drawDivider hpreset h
  | spacer => exact absurd rfl hspacer
  | image => exact lays_drawNamesakeImage hpreset hsizes h
  | box => exact absurd rfl hbox
  | table => exact lays_drawNamesakeTable hpreset h

end

/-! ## Components -/

/-- Each component is drawn in strips, but for boxes and spacers. -/
theorem lays_drawKind (hpreset : d.preset.SizesIn Q) {children : Draw α Unit} {k : Component}
    (hk : ∀ x ∈ k.sizes, Q x) (hbox : k.shownKind? ≠ some .box) (hspacer : k.shownKind? ≠ some .spacer)
    (h : (d.drawKind children k).run.run s = (.ok (), t)) : Lays d Q s t := by
  have hstyle : ∀ x ∈ k.style.sizes, Q x := fun x hx => hk x (style_sizes_subset k hx)
  cases k with
  | heading common level => exact lays_drawHeading hpreset hstyle h
  | text common => exact lays_drawParagraph hpreset hstyle h
  | list common items => exact lays_drawList hpreset hstyle h
  | chips common chips => exact lays_drawChipRows hpreset hstyle h
  | divider common => exact lays_drawDivider hpreset h
  | spacer common size => exact absurd (Component.shownKind?_of_kind? rfl) hspacer
  | image common url width height =>
    refine lays_drawImage hpreset (fun x hx => hk x (ownSizes_subset _ ?_)) h
    simp [Component.ownSizes, Option.mem_def.mp hx]
  | box common children => exact absurd (Component.shownKind?_of_kind? rfl) hbox
  | table common path columns showHeader => exact lays_drawTable hpreset h
  | unknown common name extras =>
    rw [Setup.drawKind] at h
    split at h
    · next kind hkind =>
      have hne {other : Kind} (hother : (Component.unknown common name extras).shownKind? ≠ some other) :
          kind ≠ other := fun heq => hother (hkind.trans (congrArg some heq))
      refine lays_drawNamesake hpreset hstyle (fun x hx => hk x (ownSizes_subset _ ?_)) (hne hbox) (hne hspacer) h
      simpa [Component.ownSizes, Component.looseSizes, hkind] using hx
    · cases h
      exact .refl _

end DocTemplate.Page
