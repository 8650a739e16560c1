import DocTemplate.Proofs.Layout.Sizes
import DocTemplate.Proofs.Page.Act

/-!
# Components are drawn by acts

Every drawing action is a sequence of acts, wherever it fails. The sizes that occur are those of the preset
and of the layout. Main statement: `acts_of_document`.
-/

namespace DocTemplate.Page

open DocTemplate.Text

variable {α β γ : Type} [Length α] {d : Setup α} {Q : Float → Prop}

/-- The sizes that a preset has a number for have a property. -/
structure Preset.SizesIn (p : Preset) (Q : Float → Prop) : Prop where
  size : ∀ s x, p.size s = .ok x → Q x
  heading : ∀ level x, p.headingSize level = .ok x → Q x

/-! ## Texts and lines -/

theorem fontOf_push_setFont {log : Array (Event α)} {font : String} {size : α}
    (h : (Call.setFont font size).refusal? = none) :
    fontOf (carriedOut (log.push (.call (.setFont font size)))) = some (font, size) := by
  simp [carriedOut, fontOf, h, fontAfter]

section

variable {P : Sheet α → Prop} {R : α → Prop}

/-- What keeps to the cursor is as good after a call. -/
theorem performs_setting {c : Call α} (hpage : c.endsPage = false) (hquiet : c.draws = false) :
    Performs d Q (fun s => R s.y) (call c) fun _ s => R s.y :=
  performs_call hpage hquiet fun _ hs _ => hs

theorem performs_drawText {align : Align} {x y : α} {content font : String} {size : α} {color : Color}
    {role : Role} (hplaced : ∀ y', R y' → Placed d Q y' role y size) :
    Performs d Q (fun s => R s.y) (drawText align x y content font size color role)
      fun _ s => R s.y ∧ Length.refusal? y = none := by
  have hfont : Performs d Q (fun s => R s.y) (call (.setFont font size)) fun _ s =>
      R s.y ∧ fontOf (carriedOut s.log) = some (font, size) :=
    performs_call rfl rfl fun s hs h => ⟨hs, fontOf_push_setFont h⟩
  refine (performs_setting rfl rfl).bind fun _ => hfont.bind fun _ => ?_
  refine performs_stroke rfl (by simp [Call.lengths]) ?_ ?_ ?_
  · intro s hs
    rw [hs.2]
    exact .text ..
  · exact fun s hs => hplaced s.y hs.1
  · exact fun s hs => hs.1

theorem performs_drawLine {x1 y x2 : α} {color : Color} {role : Role}
    (hplaced : ∀ y', R y' → Placed d Q y' role y 0.0) :
    Performs d Q (fun s => R s.y) (drawLine x1 y x2 color role)
      fun _ s => R s.y ∧ Length.refusal? y = none :=
  (performs_setting rfl rfl).bind fun _ => (performs_setting rfl rfl).bind fun _ =>
    performs_stroke rfl (by simp [Call.lengths]) (fun _ _ => .line ..) (fun s hs => hplaced s.y hs)
      fun _ hs => hs

theorem performs_drawFrame {x y width height : α} {color : Color} {lineWidth : α} {role : Role}
    (hplaced : ∀ y', R y' → Placed d Q y' role y height) :
    Performs d Q (fun s => R s.y) (drawFrame x y width height color lineWidth role)
      fun _ s => R s.y ∧ Length.refusal? y = none :=
  (performs_setting rfl rfl).bind fun _ => (performs_setting rfl rfl).bind fun _ =>
    performs_stroke rfl (by simp [Call.lengths]) (fun _ _ => .rect ..) (fun s hs => hplaced s.y hs)
      fun _ hs => hs

theorem performs_drawPlate {x y width height radius : α} {color : Color} {role : Role}
    (hplaced : ∀ y', R y' → Placed d Q y' role y height) :
    Performs d Q (fun s => R s.y) (drawPlate x y width height radius color role)
      fun _ s => R s.y ∧ Length.refusal? y = none := by
  refine (performs_setting rfl rfl).bind fun _ => ?_
  split
  · exact performs_stroke rfl (by simp [Call.lengths]) (fun _ _ => .rect ..)
      (fun s hs => hplaced s.y hs) fun _ hs => hs
  · exact performs_stroke rfl (by simp [Call.lengths]) (fun _ _ => .roundRect ..)
      (fun s hs => hplaced s.y hs) fun _ hs => hs

end

/-! ## Sizes -/

section

variable {P : Sheet α → Prop} {S : β → Sheet α → Prop} {f : α → Draw α β}

theorem performs_size (hpreset : d.preset.SizesIn Q) (s : SizeSetting)
    (h : ∀ x, d.preset.size s = .ok x → Q x → Performs d Q P (f (Length.ofFloat x)) S) :
    Performs d Q P (d.size s >>= f) S := by
  have hbind : (d.size s >>= f) = liftM (d.preset.size s) >>= fun x => f (Length.ofFloat x) := by
    rw [Setup.size, bind_assoc]
    rfl
  rw [hbind]
  exact Performs.read fun x hx => h x hx (hpreset.size s x hx)

theorem mem_of_nonzero? {x? : Option Float} {x : Float} (h : nonzero? x? = some x) : x ∈ x? :=
  (Option.filter_eq_some_iff.mp h).1

theorem performs_givenOr (hpreset : d.preset.SizesIn Q) {x? : Option Float} (hx? : ∀ x ∈ x?, Q x)
    (s : SizeSetting) (h : ∀ x, Q x → Performs d Q P (f (Length.ofFloat x)) S) :
    Performs d Q P (d.givenOr x? s >>= f) S := by
  cases x? with
  | some x => exact h x (hx? x rfl)
  | none => exact performs_size hpreset s fun x _ hx => h x hx

theorem performs_sizeOr (hpreset : d.preset.SizesIn Q) {x? : Option Float} (hx? : ∀ x ∈ x?, Q x)
    (s : SizeSetting) (h : ∀ x, Q x → Performs d Q P (f (Length.ofFloat x)) S) :
    Performs d Q P (d.sizeOr x? s >>= f) S :=
  performs_givenOr hpreset (fun x hx => hx? x (mem_of_nonzero? hx)) s h

end

/-! ## Lines of text -/

section

variable (hpreset : d.preset.SizesIn Q)

include hpreset

omit hpreset in
theorem performs_drawEach {align : Align} {font : String} {size lineHeight : α} {color : Color}
    {role : Role} (hpart : Part d Q size lineHeight)
    (hreserved : d.preset.reserved? role size = some lineHeight)
    (lines : List (List Char)) :
    Performs d Q (fun _ => True) (d.drawEach align font size lineHeight color role lines)
      fun _ _ => True := by
  induction lines with
  | nil => exact .pure fun _ _ => trivial
  | cons line lines ih =>
    refine (performs_ensureSpace lineHeight).bind fun _ => Performs.get.bind fun a => ?_
    have hplaced : ∀ y, Reserved d lineHeight y ∧ a.y = y → Placed d Q y role (a.y - size) size := by
      rintro y ⟨hroom, rfl⟩
      exact .of_reserved hreserved hroom hpart
    refine Performs.bind (performs_drawText hplaced) fun _ => ?_
    refine Performs.bind (performs_moveDown fun s hs => ?_) fun _ => ih
    obtain ⟨⟨-, hy⟩, hdrawn⟩ := hs
    rw [hy] at hdrawn
    exact .drawn size lineHeight hpart hdrawn

/-- The parts in which there are lines of text. -/
def Role.isLine : Role → Bool
  | .heading | .text | .listItem => true
  | _ => false

theorem performs_drawLines {content : String} {x : Float} (hx : Q x) {bold italic : Bool} {style : Style}
    {role : Role} (hrole : role.isLine) :
    Performs d Q (fun _ => True)
      (d.drawLines content (Length.ofFloat x) bold italic style role) fun _ _ => True := by
  refine Performs.read fun font _ => performs_size hpreset .lineGap fun gap hgap hQ =>
    Performs.read fun lines _ => performs_drawEach (.line x gap hx hQ) ?_ lines
  have hline : d.preset.reserved? role (Length.ofFloat x : α) =
      (d.preset.size .lineGap).toOption.map fun gap => Length.ofFloat x + Length.ofFloat gap := by
    cases role <;> first | rfl | cases hrole
  rw [hline, hgap]
  rfl

theorem performs_drawHeading {c : Common} {style : Style} (hstyle : ∀ x ∈ style.sizes, Q x) (level : String) :
    Performs d Q (fun _ => True) (d.drawHeading c style level) fun _ _ => True := by
  have hlines : ∀ x : Float, Q x → Performs d Q (fun _ => True)
      (liftM (interpolate c.text d.context) >>= fun content =>
        d.drawLines content (Length.ofFloat x) true style.italic style .heading) fun _ _ => True :=
    fun x hx => Performs.read fun content _ => performs_drawLines hpreset hx rfl
  unfold Setup.drawHeading
  split
  · next x hx =>
    rw [pure_bind]
    exact hlines x (hstyle x (fontSize_mem_sizes (mem_of_nonzero? hx)))
  · exact Performs.read fun x hx => hlines x (hpreset.heading _ x hx)

theorem performs_drawParagraph {c : Common} {style : Style} (hstyle : ∀ x ∈ style.sizes, Q x) :
    Performs d Q (fun _ => True) (d.drawParagraph c style) fun _ _ => True :=
  performs_sizeOr hpreset (fun x hx => hstyle x (fontSize_mem_sizes hx)) .bodySize fun _ hx =>
    Performs.read fun _ _ => performs_drawLines hpreset hx rfl

theorem performs_drawItems {style : Style} {x : Float} (hx : Q x) (bullet : String)
    (items : List ListItem) :
    Performs d Q (fun _ => True) (d.drawItems style (Length.ofFloat x) bullet items) fun _ _ => True := by
  induction items with
  | nil => exact .pure fun _ _ => trivial
  | cons item items ih =>
    refine Performs.read fun content _ => ?_
    split
    · exact (performs_drawLines hpreset hx rfl).bind fun _ => ih
    · exact ih

theorem performs_drawList {style : Style} (hstyle : ∀ x ∈ style.sizes, Q x) (items : List ListItem) :
    Performs d Q (fun _ => True) (d.drawList style items) fun _ _ => True :=
  performs_sizeOr hpreset (fun x hx => hstyle x (fontSize_mem_sizes hx)) .bodySize fun _ hx =>
    Performs.read fun bullet _ => performs_drawItems hpreset hx bullet items

end

/-! ## Chips -/

section

variable {m : ChipMeasures α}

/-- A chip of the row of the cursor has been drawn, if there is such a row. -/
def RowOpen (d : Setup α) (m : ChipMeasures α) (row? : Option α) (y : α) : Prop :=
  row?.isSome → Reserved d m.rowHeight y ∧ Length.refusal? (y - m.height) = none

theorem performs_drawChip (hpart : Part d Q m.height m.rowHeight)
    (hreserved : d.preset.reserved? .chip m.height = some m.rowHeight)
    (style : Style) (c : Chip) (label : String) (x width next : α) :
    Performs d Q (fun s => Reserved d m.rowHeight s.y) (d.drawChip m style c label x width)
      fun _ s => RowOpen d m (some next) s.y := by
  refine Performs.get.bind fun a => ?_
  have hplaced : ∀ y, Reserved d m.rowHeight y ∧ a.y = y →
      Placed d Q y .chip (a.y - m.height) m.height := by
    rintro y ⟨hroom, rfl⟩
    exact .of_reserved hreserved hroom hpart
  refine Performs.bind (performs_drawPlate hplaced) fun _ => ?_
  refine (performs_drawText (R := fun y => (Reserved d m.rowHeight y ∧ a.y = y) ∧
    Length.refusal? (a.y - m.height) = none) fun _ _ => .of_none rfl).mono (fun _ hs => hs) ?_
  rintro _ s ⟨⟨⟨hroom, hy⟩, hdrawn⟩, -⟩ -
  rw [hy] at hdrawn
  exact ⟨hroom, hdrawn⟩

theorem performs_endRow (hpart : Part d Q m.height m.rowHeight) (x : α) :
    Performs d Q (fun s => RowOpen d m (some x) s.y) (moveDown m.rowHeight) fun _ _ => True :=
  performs_moveDown fun _ hs => .drawn _ _ hpart (hs rfl).2

theorem performs_drawChips (hpart : Part d Q m.height m.rowHeight)
    (hreserved : d.preset.reserved? .chip m.height = some m.rowHeight)
    (style : Style) (row? : Option α) (chips : List Chip) :
    Performs d Q (fun s => RowOpen d m row? s.y) (d.drawChips m style row? chips)
      fun _ _ => True := by
  induction chips generalizing row? with
  | nil =>
    cases row? with
    | none => exact .pure fun _ _ => trivial
    | some x => exact performs_endRow hpart x
  | cons c chips ih =>
    rw [Setup.drawChips]
    refine Performs.read fun label _ => ?_
    split
    · exact ih row?
    · refine Performs.read fun width _ => ?_
      have hchip : ∀ x : α, Performs d Q (fun s => Reserved d m.rowHeight s.y)
          (d.drawChip m style c label x width >>= fun _ =>
            d.drawChips m style (some (x + (width + m.gap))) chips) fun _ _ => True :=
        fun x => (performs_drawChip hpart hreserved style c label x width _).bind fun _ => ih _
      dsimp only
      split
      · next x hplace =>
        refine (hchip x).mono (fun s hs => (hs ?_).1) fun _ _ hs => hs
        rw [(Option.filter_eq_some_iff.mp hplace).1]
        rfl
      · cases row? with
        | some x =>
          exact (performs_endRow hpart x).bind fun _ => (performs_ensureSpace _).bind fun _ => hchip _
        | none => exact (performs_ensureSpace _).bind fun _ => hchip _

theorem performs_drawChipRows (hpreset : d.preset.SizesIn Q) {style : Style}
    (hstyle : ∀ x ∈ style.sizes, Q x) (chips : List Chip) :
    Performs d Q (fun _ => True) (d.drawChipRows style chips) fun _ _ => True := by
  refine performs_sizeOr hpreset (fun x hx => hstyle x (fontSize_mem_sizes hx)) .chipSize fun size hsize =>
    performs_size hpreset .chipPadX fun padX _ _ => performs_size hpreset .chipPadY fun padY _ hpad =>
      performs_size hpreset .chipGap fun gap hgap hgapQ => Performs.read fun font _ => ?_
  refine (performs_drawChips (.chip size padY gap hsize hpad hgapQ) ?_ style none chips).mono ?_
    fun _ _ hs => hs
  · rw [Preset.reserved?, hgap]
    rfl
  · intro s _ hnone
    cases hnone

end

/-! ## Dividers, spaces and images -/

section

variable (hpreset : d.preset.SizesIn Q)

theorem performs_lower {P : Sheet α → Prop} {x : Float} (hx : Q x) :
    Performs d Q P (moveDown (Length.ofFloat x)) fun _ _ => True :=
  performs_moveDown fun _ _ => .size x hx

theorem performs_drawSpacer {x : Float} (hx : Q x) :
    Performs d Q (fun _ => True) (d.drawSpacer (Length.ofFloat x)) fun _ _ => True :=
  (performs_ensureSpace _).bind fun _ => performs_lower hx

include hpreset

theorem performs_drawDivider : Performs d Q (fun _ => True) d.drawDivider fun _ _ => True := by
  refine performs_size hpreset .dividerHeight fun x hsize hx => (performs_ensureSpace _).bind fun _ =>
    Performs.get.bind fun a => ?_
  have hplaced : ∀ y, Reserved d (Length.ofFloat x) y ∧ a.y = y →
      Placed d Q y .divider (a.y - Length.ofFloat x / 2.0) 0.0 := by
    have hreserved : d.preset.reserved? .divider (0.0 : α) = some (Length.ofFloat x) := by
      rw [Preset.reserved?, hsize]
      rfl
    rintro y ⟨hroom, rfl⟩
    exact .of_reserved hreserved hroom (.half x hx)
  exact Performs.bind (performs_drawLine hplaced) fun _ => performs_lower hx

theorem performs_drawPicture (address : Except Failure String) {width height : Option Float}
    (hwidth : ∀ x ∈ width, Q x) (hheight : ∀ x ∈ height, Q x) :
    Performs d Q (fun _ => True) (d.drawPicture address width height) fun _ _ => True := by
  refine performs_givenOr hpreset hwidth .imageWidth fun w _ =>
    performs_givenOr hpreset hheight .imageHeight fun x hx => ?_
  have hpart := Part.image (d := d) x hx
  dsimp only
  generalize smaller (Length.ofFloat x) d.geometry.contentHeight = h at hpart
  refine (performs_ensureSpace h).bind fun _ => Performs.get.bind fun a => Performs.read fun source _ => ?_
  have hplaced {role : Role} (hrole : d.preset.reserved? role h = some h) :
      ∀ y, Reserved d h y ∧ a.y = y → Placed d Q y role (a.y - h) h := by
    rintro y ⟨hroom, rfl⟩
    exact .of_reserved hrole hroom hpart
  have hdown : Performs d Q (fun s => (Reserved d h s.y ∧ a.y = s.y) ∧
      Length.refusal? (a.y - h) = none) (moveDown h) fun _ _ => True := by
    refine performs_moveDown fun s hs => ?_
    rw [hs.1.2] at hs
    exact .drawn h h hpart hs.2
  split
  · rw [← bind_assoc]
    have hreserved : d.preset.reserved? .image h = some h := rfl
    refine Performs.bind (performs_stroke (R := fun y => Reserved d h y ∧ a.y = y) rfl
      (by simp [Call.lengths]) (fun _ _ => .image ..) ?_ ?_) fun _ => hdown
    · exact fun s hs => hplaced hreserved s.y hs
    · exact fun _ hs => hs
  · have hreserved : d.preset.reserved? .imagePlaceholder h = some h := rfl
    exact Performs.bind (performs_drawFrame (hplaced hreserved)) fun _ => hdown
  · rw [throw_bind]
    exact .fail

theorem performs_drawImage {c : Common} {url : Option String} {width height : Option Float}
    (hwidth : ∀ x ∈ width, Q x) (hheight : ∀ x ∈ height, Q x) :
    Performs d Q (fun _ => True) (d.drawImage c url width height) fun _ _ => True := by
  refine Performs.read fun source _ => ?_
  split
  · exact performs_drawPicture hpreset _ (fun x hx => hwidth x (mem_of_nonzero? hx))
      fun x hx => hheight x (mem_of_nonzero? hx)
  · exact .pure fun _ _ => trivial

end

/-! ## Boxes and tables -/

section

variable (hpreset : d.preset.SizesIn Q)

include hpreset

/-- A box is drawn around anything that is drawn by acts. -/
theorem performs_drawBox {style : Style} (hstyle : ∀ x ∈ style.sizes, Q x) {inside : Draw α Unit}
    (h : Performs d Q (fun _ => True) inside fun _ _ => True) :
    Performs d Q (fun _ => True) (d.drawBox style inside) fun _ _ => True := by
  have hframe : ∀ x : Float, Q x → Performs d Q (fun _ => True)
      (d.size .boxInset >>= fun inset => get >>= fun start => moveDown (Length.ofFloat x) >>= fun _ =>
        inside >>= fun _ => moveDown (Length.ofFloat x) >>= fun _ => get >>= fun s =>
          drawFrame (d.geometry.left - inset) s.y (d.geometry.contentWidth + 2.0 * inset)
            ((if s.page ≠ start.page then d.geometry.top else start.y) - s.y) (d.borderOf style).2
            (d.borderOf style).1 .boxBorder) fun _ _ => True := by
    intro x hx
    refine performs_size hpreset .boxInset fun inset _ _ => Performs.get.bind fun start => ?_
    refine Performs.bind (performs_lower hx) fun _ => h.bind fun _ =>
      Performs.bind (performs_lower hx) fun _ => Performs.get.bind fun s => ?_
    exact (performs_drawFrame (R := fun _ => True) fun _ _ => .of_none rfl).mono (fun _ _ => trivial)
      fun _ _ _ => trivial
  unfold Setup.drawBox
  cases hpadding : style.padding with
  | none => exact performs_size hpreset .boxPadding fun x _ hx => hframe x hx
  | some x => exact hframe x (hstyle x (padding_mem_sizes hpadding))

theorem performs_drawCells {R : α → Prop} {slot rowHeight : α} {font : String} {base : α} {role : Role}
    (hrole : ∀ size : α, d.preset.reserved? role size = none) (index : Nat)
    (cells : List (Column × Except Failure String)) :
    Performs d Q (fun s => R s.y) (d.drawCells slot rowHeight font base role index cells)
      fun _ s => R s.y := by
  induction cells generalizing index with
  | nil => exact .pure fun _ hs => hs
  | cons cell cells ih =>
    refine Performs.read fun _ _ => performs_size hpreset .tableCellPad fun _ _ _ =>
      Performs.read fun size _ => Performs.get.bind fun a => ?_
    refine Performs.bind (performs_drawText (R := fun y => R y ∧ a.y = y) fun _ _ => .of_none (hrole size))
      fun _ => ?_
    exact (ih (index + 1)).mono (fun s hs => hs.1.1) fun _ _ hs => hs

theorem performs_drawHead {x : Float} (hx : Q x) (slot : α) (columns : List Column) :
    Performs d Q (fun _ => True) (d.drawHead slot (Length.ofFloat x) columns) fun _ _ => True := by
  refine (performs_ensureSpace _).bind fun _ => Performs.read fun font _ =>
    performs_size hpreset .tableHeaderSize fun size _ _ => ?_
  refine Performs.bind (performs_drawCells (R := fun y => Reserved d (Length.ofFloat x) y) hpreset
    (fun _ => rfl) 0 _) fun _ => Performs.get.bind fun a => ?_
  refine Performs.bind (Performs.mono (performs_drawLine (R := fun _ => True) fun _ _ => .of_none rfl)
    (fun _ _ => trivial) fun _ _ hs => hs) fun _ => ?_
  exact performs_lower hx

theorem performs_drawRows {x : Float} (hx : Q x) {slot : α} {font : String} {size : α}
    {columns : List Column} (rows : List Value) :
    Performs d Q (fun _ => True) (d.drawRows slot (Length.ofFloat x) font size columns rows)
      fun _ _ => True := by
  induction rows with
  | nil => exact .pure fun _ _ => trivial
  | cons row rows ih =>
    refine (performs_ensureSpace _).bind fun _ => ?_
    refine Performs.bind (performs_drawCells (R := fun y => Reserved d (Length.ofFloat x) y) hpreset
      (fun _ => rfl) 0 _) fun _ => Performs.get.bind fun a => ?_
    refine Performs.bind (performs_row ?_) fun _ => Performs.bind (performs_lower hx) fun _ => ih
    rintro s ⟨hroom, hy⟩
    rw [hy]
    exact .of_reserved rfl hroom (.whole x hx)

theorem performs_drawTable (path : Option String) (columns : List Column) (showHeader : Bool) :
    Performs d Q (fun _ => True) (d.drawTable path columns showHeader) fun _ _ => True := by
  refine Performs.read fun rows _ => performs_size hpreset .tableRowHeight fun x _ hx => ?_
  have hrows : ∀ slot : α, Performs d Q (fun _ => True) (liftM (d.preset.font false false) >>= fun font =>
      d.size .tableCellSize >>= fun size =>
        d.drawRows slot (Length.ofFloat x) font size columns rows) fun _ _ => True :=
    fun slot => Performs.read fun _ _ => performs_size hpreset .tableCellSize fun _ _ _ =>
      performs_drawRows hpreset hx rows
  dsimp only
  split
  · exact (performs_drawHead hpreset hx _ columns).bind fun _ => hrows _
  · exact hrows _

end

/-! ## Namesakes -/

section

variable (hpreset : d.preset.SizesIn Q) {extras : Fields}

include hpreset

theorem performs_drawNamesakeImage {c : Common} (hsizes : ∀ x ∈ namesakeSizes extras .image, Q x) :
    Performs d Q (fun _ => True) (d.drawNamesakeImage c extras) fun _ _ => True := by
  obtain ⟨hwidth, hheight⟩ := List.forall_mem_append.mp hsizes
  refine Performs.read fun source _ => ?_
  split
  · exact Performs.read fun width hw => Performs.read fun height hh => performs_drawPicture hpreset _
      (fun x hx => hwidth x (mem_sizeIn hw hx)) fun x hx => hheight x (mem_sizeIn hh hx)
  · exact .pure fun _ _ => trivial

theorem performs_drawNamesakeTable :
    Performs d Q (fun _ => True) (d.drawNamesakeTable extras) fun _ _ => True := by
  refine Performs.read fun columns _ => Performs.read fun path _ => Performs.read fun showHeader _ => ?_
  split
  · exact .fail
  · exact performs_drawTable hpreset path [] showHeader
  · refine Performs.read fun rows _ => performs_size hpreset .tableRowHeight fun _ _ _ => ?_
    split
    · exact (performs_ensureSpace _).bind fun _ => .fail
    · exact .pure fun _ _ => trivial

theorem performs_drawNamesake {c : Common} {style : Style} (hstyle : ∀ x ∈ style.sizes, Q x) (kind : Kind)
    (hsizes : ∀ x ∈ namesakeSizes extras kind, Q x) :
    Performs d Q (fun _ => True) (d.drawNamesake c style extras kind) fun _ _ => True := by
  cases kind with
  | heading => exact Performs.read fun level _ => performs_drawHeading hpreset hstyle level
  | text => exact performs_drawParagraph hpreset hstyle
  | list => exact Performs.read fun _ _ => performs_drawList hpreset hstyle []
  | chips => exact Performs.read fun _ _ => performs_drawChipRows hpreset hstyle []
  | divider => exact performs_drawDivider hpreset
  | spacer => exact Performs.read fun x hx => performs_drawSpacer (hsizes x (mem_room hx))
  | image => exact performs_drawNamesakeImage hpreset hsizes
  | box => exact performs_drawBox hpreset hstyle (.reading fun _ _ _ => trivial)
  | table => exact performs_drawNamesakeTable hpreset

end

/-! ## Components -/

section

variable (hpreset : d.preset.SizesIn Q)

theorem acts_leaveMargin {style : Style} (hstyle : ∀ x ∈ style.sizes, Q x) (s : Sheet α) :
    Acts d Q s (leaveMargin style s) := by
  unfold leaveMargin
  split
  · next x hx => exact .single (.lower s _ (.size x (hstyle x (marginBottom_mem_sizes (mem_of_nonzero? hx)))))
  · exact .refl

include hpreset

theorem performs_drawKind {children : Draw α Unit}
    (h : Performs d Q (fun _ => True) children fun _ _ => True) {c : Component} (hc : ∀ x ∈ c.sizes, Q x) :
    Performs d Q (fun _ => True) (d.drawKind children c) fun _ _ => True := by
  have hstyle : ∀ x ∈ c.style.sizes, Q x := fun x hx => hc x (style_sizes_subset c hx)
  cases c with
  | heading common level => exact performs_drawHeading hpreset hstyle _
  | text common => exact performs_drawParagraph hpreset hstyle
  | list common items => exact performs_drawList hpreset hstyle items
  | chips common chips => exact performs_drawChipRows hpreset hstyle chips
  | divider common => exact performs_drawDivider hpreset
  | spacer common size =>
    exact performs_drawSpacer (hc size (ownSizes_subset _ (by simp [Component.ownSizes])))
  | image common url width height =>
    refine performs_drawImage hpreset (fun x hx => hc x (ownSizes_subset _ ?_))
      fun x hx => hc x (ownSizes_subset _ ?_)
    · simp [Component.ownSizes, Option.mem_def.mp hx]
    · simp [Component.ownSizes, Option.mem_def.mp hx]
  | box common children => exact performs_drawBox hpreset hstyle h
  | table common path columns showHeader => exact performs_drawTable hpreset path columns showHeader
  | unknown common name extras =>
    rw [Setup.drawKind]
    split
    · next kind hkind =>
      refine performs_drawNamesake hpreset hstyle kind fun x hx => hc x (ownSizes_subset _ ?_)
      simpa [Component.ownSizes, Component.looseSizes, hkind] using hx
    · exact .pure fun _ _ => trivial

theorem acts_place {children : Draw α Unit} (h : Performs d Q (fun _ => True) children fun _ _ => True)
    {c : Component} (hc : ∀ x ∈ c.sizes, Q x) (s : Sheet α) : Acts d Q s (d.place children c s) := by
  have hmargin := acts_leaveMargin (d := d) fun x hx => hc x (style_sizes_subset c hx)
  unfold Setup.place
  split
  · exact .refl
  · split
    · exact .refl
    · refine Relation.ReflTransGen.trans ?_ (hmargin _)
      have hdraw := performs_drawKind hpreset h hc s s ⟨.refl, trivial⟩
      unfold after
      generalize (d.drawKind children c).run.run s = r at hdraw
      obtain ⟨f | _, t⟩ := r
      · exact hdraw
      · exact hdraw.1
    · exact hmargin s

end

section

mutual

theorem acts_placeComponent (hpreset : d.preset.SizesIn Q) :
    ∀ (s : Sheet α) (c : Component), (∀ k ∈ c.subtree, ∀ x ∈ k.sizes, Q x) →
      Acts d Q s (d.placeComponent s c)
  | s, .box common children, hc => by
    rw [Component.subtree] at hc
    have hchildren : Performs d Q (fun _ => True) (modify fun t => d.placeAll t children)
        fun _ _ => True := by
      intro u t ⟨hacts, _⟩
      exact ⟨hacts.trans (acts_placeAll hpreset t children fun k hk => hc k (List.mem_cons_of_mem _ hk)),
        trivial⟩
    exact acts_place hpreset hchildren (hc _ List.mem_cons_self) s
  | s, .heading .., hc | s, .text .., hc | s, .list .., hc | s, .chips .., hc | s, .divider .., hc
  | s, .spacer .., hc | s, .image .., hc | s, .table .., hc | s, .unknown .., hc =>
    acts_place hpreset (.pure fun _ _ => trivial) (hc _ (by simp [Component.subtree])) s

/-- Components, failing ones included, are drawn by acts. -/
theorem acts_placeAll (hpreset : d.preset.SizesIn Q) :
    ∀ (s : Sheet α) (cs : List Component), (∀ k ∈ Component.subtrees cs, ∀ x ∈ k.sizes, Q x) →
      Acts d Q s (d.placeAll s cs)
  | _, [], _ => .refl
  | s, c :: cs, hcs => by
    rw [Component.subtrees] at hcs
    have hc := acts_placeComponent hpreset s c fun k hk => hcs k (List.mem_append_left _ hk)
    exact hc.trans (acts_placeAll hpreset _ cs fun k hk => hcs k (List.mem_append_right _ hk))

end

/-- A document is drawn by acts, from where it was opened, and then its last page is ended. -/
theorem acts_of_document (hpreset : d.preset.SizesIn Q) {layout : Layout}
    (hlayout : ∀ x ∈ layout.sizes, Q x) {drawn : Drawn α} (h : d.document layout = .ok drawn) :
    ∃ s, Acts d Q (after d.opening (blank d.geometry)) s ∧
      drawn = ⟨s.page, s.log.push (.call .showPage)⟩ := by
  unfold Setup.document at h
  unfold after
  generalize d.opening.run.run (blank d.geometry) = r at h
  obtain ⟨f | _, t⟩ := r
  · cases h
  · refine ⟨_, acts_placeAll hpreset t layout fun k hk x hx => ?_, (Except.ok.inj h).symm⟩
    exact hlayout x (List.mem_flatMap.mpr ⟨k, hk, hx⟩)

end

end DocTemplate.Page
