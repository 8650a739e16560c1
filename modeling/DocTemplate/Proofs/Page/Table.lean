import DocTemplate.Proofs.Page.Added
import DocTemplate.Proofs.Page.Recording

/-!
# Lines of a table

A table is drawn in lines: its head, if it has one, and each of its rows. A line is cells side by side with a mark at
their bottom, the rule below the head or the band of a row, and is not divided between pages. Main statement:
`table_is_drawn_in_lines`.
-/

namespace DocTemplate.Page

variable {α : Type}

def Op.spot (o : Op α) : Spot α := ⟨o.page, o.y⟩

/-- What a column shows, as text in some part of the document. -/
def IsCell (role : Role) (shown : Column → Except Failure String) (c : Column) (o : Op α) : Prop :=
  ∃ text, shown c = .ok text ∧ o.mention = ⟨role, some text⟩

theorem role_of_isCell {role : Role} {shown : Column → Except Failure String} {columns : List Column}
    {cells : List (Op α)} (h : List.Forall₂ (IsCell role shown) columns cells) : ∀ o ∈ cells, o.role = role := by
  induction h with
  | nil => exact List.forall_mem_nil _
  | cons hcell _ ih =>
    obtain ⟨text, -, hmention⟩ := hcell
    exact List.forall_mem_cons.mpr ⟨congrArg Mention.role hmention, ih⟩

/-- Cells side by side, and what marks the bottom of them. -/
structure Line (α : Type) where
  cells : List (Op α)
  bottom : Op α

namespace Line

/-- What is recorded of a line. -/
def ops (l : Line α) : List (Op α) := l.cells ++ [l.bottom]

/-- A line has a cell for each column, in their order and on the page of its bottom. -/
structure Holds (cell mark : Role) (shape : Shape α) (columns : List Column)
    (shown : Column → Except Failure String) (l : Line α) : Prop where
  cells : List.Forall₂ (IsCell cell shown) columns l.cells
  page : ∀ o ∈ l.cells, o.page = l.bottom.page
  mark : l.bottom.role = mark
  shape : l.bottom.shape = shape

/-- The head of a table: the heads of its columns above a rule. -/
def IsHead (columns : List Column) : Line α → Prop :=
  Holds .tableHeader .tableRule .line columns fun c => .ok (headText c)

/-- A row of a table: what its columns show of a value, in a band. -/
def IsRow (columns : List Column) (row : Value) : Line α → Prop :=
  Holds .tableCell .tableRow .row columns fun c => c.shown row

end Line

variable [Length α] {d : Setup α} {height : α} {s t u : Sheet α} {l : Line α} {ls : List (Line α)}

/-- One height below a spot, on its page or as the first of the next page. -/
def Setup.Below (d : Setup α) (height : α) (upper lower : Spot α) : Prop :=
  lower = upper.lower height ∨ lower = Spot.lower ⟨upper.page + 1, d.geometry.top⟩ height

theorem below_enter (c : Spot α) : d.Below height c ((d.enter height c).2.lower height) := by
  unfold Setup.enter
  split
  · exact .inr rfl
  · exact .inl rfl

/-! ## Lines -/

/-- A line is drawn below the cursor, which ends at its bottom. -/
structure DrawsLine (d : Setup α) (height : α) (s : Sheet α) (l : Line α) (t : Sheet α) : Prop where
  ops : opsOf t.log = opsOf s.log ++ l.ops
  below : d.Below height s.spot l.bottom.spot
  spot : t.spot = l.bottom.spot

/-- Lines are drawn one after the other. -/
inductive DrawsLines (d : Setup α) (height : α) : Sheet α → List (Line α) → Sheet α → Prop
  | nil (s : Sheet α) : DrawsLines d height s [] s
  | cons {s t u : Sheet α} {l : Line α} {ls : List (Line α)} (hl : DrawsLine d height s l t)
      (hls : DrawsLines d height t ls u) : DrawsLines d height s (l :: ls) u

theorem DrawsLines.ops_eq (h : DrawsLines d height s ls t) : opsOf t.log = opsOf s.log ++ ls.flatMap Line.ops := by
  induction h with
  | nil s => rw [List.flatMap_nil, List.append_nil]
  | cons hl _ ih => rw [ih, hl.ops, List.flatMap_cons, List.append_assoc]

theorem DrawsLines.isChain (h : DrawsLines d height s ls t) :
    (s.spot :: ls.map (·.bottom.spot)).IsChain (d.Below height) := by
  induction h with
  | nil s => exact List.isChain_singleton _
  | cons hl _ ih =>
    rw [hl.spot] at ih
    exact List.isChain_cons_cons.mpr ⟨hl.below, ih⟩

/-- Room is made, cells and a mark are recorded, and the cursor goes down. -/
theorem drawsLine {s₀ s₁ s₂ : Sheet α} {b : Unit} {cells : List (Op α)} {bottom : Op α}
    (hroom : s₀.spot = (d.enter height s.spot).2 ∧ opsOf s₀.log = opsOf s.log) (hcells : Stays s₀ cells s₁)
    (hmark : Stays s₁ [bottom] s₂) (hbottom : bottom.spot = s₁.spot.lower height)
    (hdown : (moveDown height).run.run s₂ = (.ok b, t)) : DrawsLine d height s ⟨cells, bottom⟩ t := by
  cases hdown
  have hall := hcells.trans hmark
  refine ⟨?_, ?_, ?_⟩
  · change opsOf s₂.log = _
    rw [hall.ops, hroom.2, Line.ops]
  · rw [hbottom, hcells.spot, hroom.1]
    exact below_enter s.spot
  · change s₂.spot.lower height = _
    rw [hmark.spot, hbottom]

/-! ## Cells -/

theorem run_drawCells_ok {slot rowHeight : α} {font : String} {base : α} {role : Role} {index : Nat}
    {columns : List Column} {shown : Column → Except Failure String} {b : Unit}
    (h : (d.drawCells slot rowHeight font base role index (columns.map fun c => (c, shown c))).run.run s =
      (.ok b, t)) :
    ∃ cells, Stays s cells t ∧ (∀ o ∈ cells, o.page = t.page) ∧
      List.Forall₂ (IsCell role shown) columns cells := by
  induction columns generalizing s index with
  | nil =>
    cases h
    exact ⟨[], .refl t, List.forall_mem_nil _, .nil⟩
  | cons c columns ih =>
    obtain ⟨text, _, hread, h⟩ := run_bind_ok h
    obtain ⟨htext, rfl⟩ := run_liftM_ok hread
    obtain ⟨pad, _, hpad, h⟩ := run_bind_ok h
    obtain ⟨-, -, -, rfl⟩ := Setup.run_size_ok hpad
    obtain ⟨size, _, hsize, h⟩ := run_bind_ok h
    obtain ⟨-, rfl⟩ := run_liftM_ok hsize
    obtain ⟨_, _, hget, h⟩ := run_bind_ok h
    cases hget
    obtain ⟨_, s₁, hcell, h⟩ := run_bind_ok h
    have hdrawn := run_drawText_ok hcell
    obtain ⟨cells, hstays, hpages, hcells⟩ := ih h
    have hall := hdrawn.trans hstays
    exact ⟨_, hall, List.forall_mem_cons.mpr ⟨hall.page.symm, hpages⟩, .cons ⟨text, htext, rfl⟩ hcells⟩

/-! ## Head and rows -/

theorem run_drawHead_ok {slot : α} {columns : List Column} {b : Unit}
    (h : (d.drawHead slot height columns).run.run s = (.ok b, t)) :
    ∃ l, DrawsLine d height s l t ∧ l.IsHead columns := by
  obtain ⟨_, s₀, hroom, h⟩ := run_bind_ok h
  obtain ⟨font, _, hfont, h⟩ := run_bind_ok h
  obtain ⟨-, rfl⟩ := run_liftM_ok hfont
  obtain ⟨size, _, hsize, h⟩ := run_bind_ok h
  obtain ⟨-, -, -, rfl⟩ := Setup.run_size_ok hsize
  obtain ⟨_, s₁, hcells, h⟩ := run_bind_ok h
  obtain ⟨cells, hstays, hpages, hshown⟩ := run_drawCells_ok hcells
  obtain ⟨_, _, hget, h⟩ := run_bind_ok h
  cases hget
  obtain ⟨_, s₂, hrule, hdown⟩ := run_bind_ok h
  have hmark := run_drawLine_ok hrule
  exact ⟨_, drawsLine (Setup.run_ensureSpace_ok hroom) hstays hmark rfl hdown, hshown, hpages, rfl, rfl⟩

theorem run_drawRows_ok {slot : α} {font : String} {size : α} {columns : List Column} {rows : List Value}
    {b : Unit} (h : (d.drawRows slot height font size columns rows).run.run s = (.ok b, t)) :
    ∃ ls, DrawsLines d height s ls t ∧ List.Forall₂ (Line.IsRow columns) rows ls := by
  induction rows generalizing s with
  | nil =>
    cases h
    exact ⟨[], .nil t, .nil⟩
  | cons row rows ih =>
    obtain ⟨_, s₀, hroom, h⟩ := run_bind_ok h
    obtain ⟨_, s₁, hcells, h⟩ := run_bind_ok h
    obtain ⟨cells, hstays, hpages, hshown⟩ := run_drawCells_ok hcells
    obtain ⟨_, _, hget, h⟩ := run_bind_ok h
    cases hget
    obtain ⟨_, s₂, hband, h⟩ := run_bind_ok h
    have hmark := run_record_ok hband
    obtain ⟨_, s₃, hdown, h⟩ := run_bind_ok h
    obtain ⟨ls, hls, hrows⟩ := ih h
    exact ⟨_, .cons (drawsLine (Setup.run_ensureSpace_ok hroom) hstays hmark rfl hdown) hls,
      .cons ⟨hshown, hpages, rfl, rfl⟩ hrows⟩

/-- The rows are drawn once the font and the size of their cells are read. -/
theorem run_drawBody_ok {slot : α} {columns : List Column} {rows : List Value} {b : Unit}
    (h : (liftM (d.preset.font false false) >>= fun font => d.size .tableCellSize >>= fun size =>
      d.drawRows slot height font size columns rows).run.run s = (.ok b, t)) :
    ∃ ls, DrawsLines d height s ls t ∧ List.Forall₂ (Line.IsRow columns) rows ls := by
  obtain ⟨font, _, hfont, h⟩ := run_bind_ok h
  obtain ⟨-, rfl⟩ := run_liftM_ok hfont
  obtain ⟨size, _, hsize, h⟩ := run_bind_ok h
  obtain ⟨-, -, -, rfl⟩ := Setup.run_size_ok hsize
  exact run_drawRows_ok h

theorem tableRows_eq_ok {context : Value} {path : Option String} {values : List Value}
    (h : tableRows context path = .ok values) :
    ∃ array, resolve context path = .ok array ∧ array.items?.getD [] = values := by
  unfold tableRows at h
  cases harray : resolve context path with
  | error e =>
    rw [harray] at h
    cases h
  | ok array =>
    rw [harray] at h
    exact ⟨array, rfl, Except.ok.inj h⟩

/-- A table that is drawn is its head, if it is shown, and a line for each item of its array, in their order, and
nothing else. Each line is all on one page, a height below the line before it or at the top of the next page. -/
theorem table_is_drawn_in_lines (children : Draw α Unit) (common : Common) (path : Option String)
    (columns : List Column) (showHeader : Bool)
    (h : (d.drawKind children (.table common path columns showHeader)).run.run s = (.ok (), t)) :
    ∃ array x, resolve d.context path = .ok array ∧ d.preset.size .tableRowHeight = .ok x ∧
      ∃ (head? : Option (Line α)) (rows : List (Line α)), head?.isSome = showHeader ∧
        (∀ l ∈ head?, l.IsHead columns) ∧ List.Forall₂ (Line.IsRow columns) (array.items?.getD []) rows ∧
        opsOf t.log = opsOf s.log ++ (head?.toList ++ rows).flatMap Line.ops ∧
        (s.spot :: (head?.toList ++ rows).map (·.bottom.spot)).IsChain (d.Below (Length.ofFloat x)) := by
  obtain ⟨values, _, hread, h⟩ := run_bind_ok h
  obtain ⟨hvalues, rfl⟩ := run_liftM_ok hread
  obtain ⟨height, _, hheight, h⟩ := run_bind_ok h
  obtain ⟨x, hx, rfl, rfl⟩ := Setup.run_size_ok hheight
  obtain ⟨array, harray, rfl⟩ := tableRows_eq_ok hvalues
  refine ⟨array, x, harray, hx, ?_⟩
  dsimp only at h
  split at h
  · next hshow =>
    obtain ⟨_, s₁, hhead, h⟩ := run_bind_ok h
    obtain ⟨l, hl, hcolumns⟩ := run_drawHead_ok hhead
    obtain ⟨ls, hls, hvalues⟩ := run_drawBody_ok h
    have hall := DrawsLines.cons hl hls
    refine ⟨some l, ls, hshow.symm, ?_, hvalues, hall.ops_eq, hall.isChain⟩
    rintro _ ⟨⟩
    exact hcolumns
  · next hshow =>
    obtain ⟨ls, hls, hvalues⟩ := run_drawBody_ok h
    refine ⟨none, ls, (Bool.eq_false_iff.mpr hshow).symm, ?_, hvalues, hls.ops_eq, hls.isChain⟩
    rintro _ ⟨⟩

def termColumns : List Column := [{ key := "name", label := "Term" }]

/-- What two terms are drawn with, at the bottom of a page with room for one of them below the head. -/
def termsSetup : Setup Float :=
  ⟨.standard, .standard, .record [("terms", .list [.record [("name", .text "Spring")],
    .record [("name", .text "Autumn")]])], "Terms", .idle, pngPictures⟩

theorem terms_are_drawn_in_lines :
    ∃ t, (termsSetup.drawKind (pure ()) (.table { id := "terms" } (some "terms") termColumns true)).run.run
        ⟨80.0, 1, #[]⟩ = (.ok (), t) ∧
      (opsOf t.log).map (fun o => (o.page, o.role)) = [(1, .tableHeader), (1, .tableRule), (1, .tableCell),
        (1, .tableRow), (2, .tableCell), (2, .tableRow)] ∧
      ∃ head rows, opsOf t.log = (head :: rows).flatMap Line.ops ∧ head.IsHead termColumns ∧
        List.Forall₂ (Line.IsRow termColumns)
          [.record [("name", .text "Spring")], .record [("name", .text "Autumn")]] rows := by
  obtain ⟨r, hr⟩ : ∃ r, (termsSetup.drawKind (pure ()) (.table { id := "terms" } (some "terms") termColumns
    true)).run.run ⟨80.0, 1, #[]⟩ = r := ⟨_, rfl⟩
  have hanswers : r.1 = .ok () := by
    rw [← hr]
    decide +kernel
  have hroles : (opsOf r.2.log).map (fun o => (o.page, o.role)) = [(1, .tableHeader), (1, .tableRule),
      (1, .tableCell), (1, .tableRow), (2, .tableCell), (2, .tableRow)] := by
    rw [← hr]
    decide +kernel
  obtain ⟨_, t⟩ := r
  cases hanswers
  obtain ⟨array, x, harray, -, head?, rows, hhead, hcolumns, hrows, hops, -⟩ :=
    table_is_drawn_in_lines (pure ()) { id := "terms" } (some "terms") termColumns true hr
  obtain ⟨head, rfl⟩ := Option.isSome_iff_exists.mp hhead
  have hlist : resolve termsSetup.context (some "terms") = .ok (.list [.record [("name", .text "Spring")],
    .record [("name", .text "Autumn")]]) := by rfl
  cases harray.symm.trans hlist
  exact ⟨t, hr, hroles, head, rows, hops, hcolumns head rfl, hrows⟩

end DocTemplate.Page
