import DocTemplate.Proofs.Page.Descending
import DocTemplate.Proofs.Page.Strips

/-!
# Drawing in bands

Each kind of component but a box is drawn by a descent, which is the same wherever the cursor is.
-/

namespace DocTemplate.Page

open DocTemplate.Number (isFinite infinity)
open DocTemplate.Text

variable {d : Setup Float} {wall : Prop} {height : Float} {P : Float → Prop}

/-! ## What is drawn at finite places -/

theorem isNone_refusalOfFloat? (x : Float) : (refusalOfFloat? x).isNone = isFinite x := by
  unfold refusalOfFloat?
  cases isFinite x with
  | true => rfl
  | false =>
    simp only [Bool.false_eq_true, if_false]
    split <;> rfl

theorem isNone_refusal? (c : Call Float) : c.refusal?.isNone =
    (c.missingFont?.isNone && (c.lengths.all isFinite && c.pictureRefusal?.isNone)) := by
  unfold Call.refusal?
  cases c.missingFont? with
  | some name => rfl
  | none =>
    change ((c.lengths.findSome? refusalOfFloat?).or c.pictureRefusal?).isNone = _
    induction c.lengths with
    | nil => rfl
    | cons x xs ih =>
      rw [List.findSome?_cons, List.all_cons, ← isNone_refusalOfFloat?]
      cases refusalOfFloat? x with
      | some f => rfl
      | none => exact ih

theorem checks_drawText (align : Align) (x y : Float) (content font : String) (size : Float) (color : Color)
    (role : Role) : Checks (drawText align x y content font size color role) fun _ =>
      ((Face.named? font).isSome && isFinite size && isFinite x) && isFinite y := by
  refine ((checks_call _).bind ((checks_call _).bind ((checks_call _).bind
    (checks_record _ _ _ _ _ _)))).congr fun _ => ?_
  simp only [isNone_refusal?, Call.missingFont?, Call.lengths, Call.pictureRefusal?, List.all_cons, List.all_nil]
  cases Face.named? font <;> simp [Bool.and_assoc]

theorem checks_drawLine (x₁ y x₂ : Float) (color : Color) (role : Role) :
    Checks (drawLine x₁ y x₂ color role) fun _ => (isFinite x₁ && isFinite x₂) && isFinite y := by
  refine ((checks_call _).bind ((checks_call _).bind ((checks_call _).bind
    (checks_record _ _ _ _ _ _)))).congr fun _ => ?_
  simp only [isNone_refusal?, Call.missingFont?, Call.lengths, Call.pictureRefusal?, List.all_cons, List.all_nil]
  cases isFinite y <;> simp

theorem checks_drawFrame (x y width height : Float) (color : Color) (lineWidth : Float) (role : Role) :
    Checks (drawFrame x y width height color lineWidth role) fun _ =>
      (isFinite x && (isFinite width && isFinite height)) && isFinite y := by
  refine ((checks_call _).bind ((checks_call _).bind ((checks_call _).bind
    (checks_record _ _ _ _ _ _)))).congr fun _ => ?_
  simp only [isNone_refusal?, Call.missingFont?, Call.lengths, Call.pictureRefusal?, List.all_cons, List.all_nil]
  cases isFinite y <;> simp

theorem checks_picture (x y width height : Float) (refusal : Option Failure) :
    Checks (call (.drawImage x y width height refusal) >>= fun _ => record .image x y width height .image) fun _ =>
      (isFinite x && (isFinite width && isFinite height && refusal.isNone)) && isFinite y := by
  refine ((checks_call _).bind (checks_record _ _ _ _ _ _)).congr fun _ => ?_
  simp only [isNone_refusal?, Call.missingFont?, Call.lengths, Call.pictureRefusal?, List.all_cons, List.all_nil]
  cases isFinite y <;> simp [Bool.and_assoc]

theorem checks_drawPlate (x width height radius : Float) (color : Color) (role : Role) :
    ∃ b, (b = true → isFinite x = true) ∧
      ∀ y, Checks (drawPlate x y width height radius color role) fun _ => b && isFinite y := by
  have hplate (y : Float) (c : Call Float) :
      Checks (call (.setFillColor color) >>= fun _ => call c >>= fun _ =>
        record .rect x y width height role) fun _ => c.refusal?.isNone :=
    ((checks_call _).bind ((checks_call c).bind (checks_record _ _ _ _ _ _))).congr fun _ => by
      simp [isNone_refusal?, Call.missingFont?, Call.lengths, Call.pictureRefusal?]
  by_cases hradius : radius ≤ 0.0 ∧ 0.0 ≤ radius
  · refine ⟨isFinite x && isFinite width && isFinite height, by simp_all, fun y => ?_⟩
    unfold drawPlate
    rw [if_pos hradius]
    refine (hplate y _).congr fun _ => ?_
    simp only [isNone_refusal?, Call.missingFont?, Call.lengths, Call.pictureRefusal?, List.all_cons, List.all_nil]
    cases isFinite y <;> simp [Bool.and_assoc]
  · refine ⟨isFinite x && isFinite width && isFinite height && isFinite radius, by simp_all, fun y => ?_⟩
    unfold drawPlate
    rw [if_neg hradius]
    refine (hplate y _).congr fun _ => ?_
    simp only [isNone_refusal?, Call.missingFont?, Call.lengths, Call.pictureRefusal?, List.all_cons, List.all_nil]
    cases isFinite y <;> simp [Bool.and_assoc]

/-! ## Sizes -/

section

variable {β : Type} {f : Float → Draw Float Unit}

theorem size_bind (d : Setup Float) (s : SizeSetting) (f : Float → Draw Float β) :
    (d.size s >>= f) = liftM (d.preset.size s) >>= f := by
  rw [Setup.size, bind_assoc]
  rfl

theorem Descends.size (hpreset : d.preset.SizesIn IsExtent) (s : SizeSetting)
    (h : ∀ x, IsExtent x → Descends d wall (f x)) : Descends d wall (d.size s >>= f) := by
  rw [size_bind]
  exact .read fun x hx => h x (hpreset.size s x hx)

theorem Passes.size (hpreset : d.preset.SizesIn IsExtent) (s : SizeSetting)
    (h : ∀ x, IsExtent x → Passes d wall height P (f x)) : Passes d wall height P (d.size s >>= f) := by
  rw [size_bind]
  exact .read fun x hx => h x (hpreset.size s x hx)

/-- A size that is given, or else one of the preset, is read. -/
theorem givenOr_bind (d : Setup Float) (x? : Option Float) (s : SizeSetting) (f : Float → Draw Float β) :
    (d.givenOr x? s >>= f) = liftM (d.preset.givenFor x? s) >>= f := by
  cases x? with
  | some x => rfl
  | none => exact size_bind d s f

theorem Descends.givenOr (hpreset : d.preset.SizesIn IsExtent) {x? : Option Float}
    (hx? : ∀ x ∈ x?, IsExtent x) (s : SizeSetting) (h : ∀ x, IsExtent x → Descends d wall (f x)) :
    Descends d wall (d.givenOr x? s >>= f) := by
  rw [givenOr_bind]
  exact .read fun x hx => h x (hpreset.givenFor hx? hx)

theorem Descends.sizeOr (hpreset : d.preset.SizesIn IsExtent) {x? : Option Float}
    (hx? : ∀ x ∈ x?, IsExtent x) (s : SizeSetting) (h : ∀ x, IsExtent x → Descends d wall (f x)) :
    Descends d wall (d.sizeOr x? s >>= f) :=
  .givenOr hpreset (fun x hx => hx? x (mem_of_nonzero? hx)) s h

/-- A height goes down where it, or what it goes down from, is finite. -/
theorem Lowers.of_finite (htop : d.geometry.top ≤ d.geometry.top) (hheight : 0.0 ≤ height)
    (hP : ∀ y, P y → isFinite y = true ∨ isFinite height = true) :
    Lowers d (infinity ≤ d.geometry.top) height P where
  le y hy h := Number.sub_le_self (Number.left_of_le hy) hheight (hP y h)
  top_le hwall y hy hy' h := by
    have hinfinite : infinity ≤ y := Number.double_le_trans hwall hy'
    have hfinite : isFinite height = true := by
      refine (hP y h).resolve_left ?_
      rw [Number.not_isFinite_of_infinity_le hinfinite]
      decide
    exact Number.double_le_trans (Number.le_infinity htop) (Number.infinity_le_sub hinfinite hfinite)

end

/-! ## Lines of text -/

/-- Where text is anchored finitely, the margin is finite. -/
theorem isFinite_margin_of_anchor {align : Align} (h : isFinite (d.anchor align) = true) :
    isFinite d.geometry.margin = true := by
  cases align with
  | left => exact h
  | center => exact (Number.isFinite_of_add h).1
  | right => exact Number.isFinite_of_sub_right h

section

variable (htop : d.geometry.top ≤ d.geometry.top) (hpreset : d.preset.SizesIn IsExtent)

include htop

theorem descends_drawEach {align : Align} {font : String} {size lineHeight : Float} {color : Color}
    {role : Role} (hsize : 0.0 ≤ size) (hline : size ≤ lineHeight) (lines : List (List Char)) :
    Descends d (infinity ≤ d.geometry.top)
      (d.drawEach align font size lineHeight color role lines) := by
  have hheight : 0.0 ≤ lineHeight := Number.double_le_trans hsize hline
  induction lines with
  | nil => exact .pure
  | cons line lines ih =>
    refine .band hheight (.mark (Q := fun y => isFinite y = true)
      (fun y => checks_drawText align (d.anchor align) (y - size) (String.ofList line) font size color role)
      (.drop hsize hline ?_ htop) ?_ (.lower (.of_finite htop hheight fun _ => .inl) ih))
    · intro h
      exact isFinite_margin_of_anchor (Bool.and_eq_true_iff.mp h).2
    · intro y _ h
      exact Number.isFinite_of_sub (Bool.and_eq_true_iff.mp h).2

include hpreset

theorem descends_drawLines {content : String} {x : Float} (hx : IsExtent x) {bold italic : Bool}
    {style : Style} {role : Role} :
    Descends d (infinity ≤ d.geometry.top) (d.drawLines content x bold italic style role) :=
  .read fun _ _ => .size hpreset .lineGap fun _ hgap => .read fun lines _ =>
    descends_drawEach htop hx.nonneg (Number.le_add_self hx.nonneg hgap.nonneg) lines

theorem descends_drawHeading {c : Common} {style : Style} (hstyle : ∀ x ∈ style.sizes, IsExtent x)
    (level : String) : Descends d (infinity ≤ d.geometry.top) (d.drawHeading c style level) := by
  have hlines : ∀ x : Float, IsExtent x → Descends d (infinity ≤ d.geometry.top)
      (liftM (interpolate c.text d.context) >>= fun content =>
        d.drawLines content x true style.italic style .heading) :=
    fun x hx => .read fun _ _ => descends_drawLines htop hpreset hx
  unfold Setup.drawHeading
  split
  · next x hx =>
    rw [pure_bind]
    exact hlines x (hstyle x (fontSize_mem_sizes (mem_of_nonzero? hx)))
  · exact .read fun x hx => hlines x (hpreset.heading _ x hx)

theorem descends_drawParagraph {c : Common} {style : Style} (hstyle : ∀ x ∈ style.sizes, IsExtent x) :
    Descends d (infinity ≤ d.geometry.top) (d.drawParagraph c style) :=
  .sizeOr hpreset (fun x hx => hstyle x (fontSize_mem_sizes hx)) .bodySize fun _ hx =>
    .read fun _ _ => descends_drawLines htop hpreset hx

theorem descends_drawItems {style : Style} {x : Float} (hx : IsExtent x) (bullet : String)
    (items : List ListItem) :
    Descends d (infinity ≤ d.geometry.top) (d.drawItems style x bullet items) := by
  induction items with
  | nil => exact .pure
  | cons item items ih =>
    refine .read fun content _ => ?_
    split
    · exact (descends_drawLines htop hpreset hx).bind ih
    · exact ih

theorem descends_drawList {style : Style} (hstyle : ∀ x ∈ style.sizes, IsExtent x)
    (items : List ListItem) : Descends d (infinity ≤ d.geometry.top) (d.drawList style items) :=
  .sizeOr hpreset (fun x hx => hstyle x (fontSize_mem_sizes hx)) .bodySize fun _ hx =>
    .read fun bullet _ => descends_drawItems htop hpreset hx bullet items

end

/-! ## Dividers, spaces and images -/

section

variable (htop : d.geometry.top ≤ d.geometry.top) (hpreset : d.preset.SizesIn IsExtent)

include htop

theorem descends_drawSpacer {x : Float} (hx : IsExtent x) :
    Descends d (infinity ≤ d.geometry.top) (d.drawSpacer x) :=
  .band hx.nonneg (.lower_last (.of_finite htop hx.nonneg fun _ _ => .inr hx.finite))

include hpreset

theorem descends_drawDivider : Descends d (infinity ≤ d.geometry.top) d.drawDivider := by
  refine .size hpreset .dividerHeight fun x hx => ?_
  obtain ⟨hhalf, hle⟩ := Number.half_le hx.finite hx.nonneg
  refine .band hx.nonneg (.mark (Q := fun _ => True) (fun y => checks_drawLine d.geometry.left (y - x / 2.0)
    d.geometry.right (d.preset.color .rule) .divider) (.drop hhalf hle ?_ htop) (fun _ _ _ => trivial)
    (.lower_last (.of_finite htop hx.nonneg fun _ _ => .inr hx.finite)))
  exact fun h => (Bool.and_eq_true_iff.mp h).1

omit hpreset in
/-- A picture or a frame in its place is drawn in the room for its height, or nothing is. -/
theorem passes_picture {height : Float} (hheight : 0.0 ≤ height) (reading : PictureReading Float) (width : Float) :
    Passes d (infinity ≤ d.geometry.top) height (fun _ => True) (get >>= fun s =>
      (match reading with
        | .picture refusal? =>
          call (.drawImage d.geometry.left (s.y - height) width height (refusal? width height)) >>= fun _ =>
            record .image d.geometry.left (s.y - height) width height .image
        | .noPicture => drawFrame d.geometry.left (s.y - height) width height (d.preset.color .border) 1.0
            .imagePlaceholder
        | .failed f => throw f) >>= fun _ => moveDown height) := by
  have hlower : Passes d (infinity ≤ d.geometry.top) height (fun y => isFinite y = true) (moveDown height) :=
    .lower_last (.of_finite htop hheight fun _ => .inl)
  have hdrop (b : Bool) : Consistent d (infinity ≤ d.geometry.top) height fun y =>
      (isFinite d.geometry.left && b) && isFinite (y - height) :=
    .drop hheight (Number.right_of_le hheight) (fun h => (Bool.and_eq_true_iff.mp h).1) htop
  have hfinite {b : Bool} {y : Float} (h : (b && isFinite (y - height)) = true) : isFinite y = true :=
    Number.isFinite_of_sub (Bool.and_eq_true_iff.mp h).2
  cases reading with
  | picture refusal? =>
    exact .mark (fun y => checks_picture d.geometry.left (y - height) width height (refusal? width height))
      (hdrop _) (fun _ _ => hfinite) hlower
  | noPicture =>
    exact .mark (fun y => checks_drawFrame d.geometry.left (y - height) width height (d.preset.color .border) 1.0
      .imagePlaceholder) (hdrop _) (fun _ _ => hfinite) hlower
  | failed f => exact .stop fun _ => rfl

theorem descends_drawPicture (hcontent : 0.0 ≤ d.geometry.contentHeight) (address : Except Failure String)
    {width height : Option Float} (hwidth : ∀ x ∈ width, IsExtent x) (hheight : ∀ x ∈ height, IsExtent x) :
    Descends d (infinity ≤ d.geometry.top) (d.drawPicture address width height) := by
  refine .givenOr hpreset hwidth .imageWidth fun w _ => .givenOr hpreset hheight .imageHeight fun x hx => ?_
  have hnonneg := nonneg_smaller hx.nonneg hcontent
  refine .band hnonneg ?_
  cases address with
  | error f => exact .stop fun _ => rfl
  | ok source =>
    have hread : (liftM (.ok source : Except Failure String) : Draw Float String) = pure source := rfl
    simp only [hread, pure_bind]
    generalize d.pictures.at source = reading
    have hpicture := passes_picture htop hnonneg reading (smaller w d.geometry.contentWidth)
    cases reading <;> simpa using hpicture

theorem descends_drawImage (hcontent : 0.0 ≤ d.geometry.contentHeight) {c : Common} {url : Option String}
    {width height : Option Float} (hwidth : ∀ x ∈ width, IsExtent x) (hheight : ∀ x ∈ height, IsExtent x) :
    Descends d (infinity ≤ d.geometry.top) (d.drawImage c url width height) := by
  refine .read fun source _ => ?_
  split
  · exact descends_drawPicture htop hpreset hcontent _ (fun x hx => hwidth x (mem_of_nonzero? hx))
      fun x hx => hheight x (mem_of_nonzero? hx)
  · exact .pure

end

/-! ## Chips -/

/-- The height of the label of a chip. -/
def ChipMeasures.label (m : ChipMeasures Float) (y : Float) : Float :=
  y - m.height + m.padY + m.size * 0.2

/-- Measures of chips that are sizes. -/
structure ChipMeasures.Sound (m : ChipMeasures Float) : Prop where
  size : IsExtent m.size
  pad : IsExtent m.padY
  gap : IsExtent m.gap

namespace ChipMeasures

variable {m : ChipMeasures Float}

theorem Sound.height_nonneg (hm : m.Sound) : 0.0 ≤ m.height :=
  Number.double_le_trans hm.size.nonneg
    (Number.le_add_self hm.size.nonneg (Number.double_nonneg hm.pad.nonneg))

theorem Sound.height_le (hm : m.Sound) : m.height ≤ m.rowHeight :=
  Number.le_add_self hm.height_nonneg hm.gap.nonneg

theorem isFinite_of_label {y : Float} (h : isFinite (m.label y) = true) : isFinite y = true :=
  Number.isFinite_of_sub (Number.isFinite_of_add (Number.isFinite_of_add h).1).1

/-- The labels of chips keep the order of the heights. -/
theorem Sound.label_mono (hm : m.Sound) {y₀ : Float} (h : isFinite (m.label y₀) = true) {y y' : Float}
    (hy : y ≤ y') : y - m.height ≤ m.label y ∧ m.label y ≤ m.label y' := by
  obtain ⟨hsum, hfifth⟩ := Number.isFinite_of_add h
  obtain ⟨hsub, hpad⟩ := Number.isFinite_of_add hsum
  have hheight := Number.isFinite_of_sub_right hsub
  have hbelow := Number.sub_le_self (Number.left_of_le hy) hm.height_nonneg (.inr hheight)
  have hbottom : y - m.height ≤ y' - m.height := Number.sub_le_sub_of_isFinite hy hheight
  have hnonneg : 0.0 ≤ m.size * 0.2 :=
    Number.mul_nonneg hm.size.nonneg (by decide +kernel) (by decide +kernel)
  have hpadded := Number.le_add_right (Number.left_of_le hbelow) hm.pad.nonneg hpad
  refine ⟨?_, Number.add_le_add_right (Number.add_le_add_right hbottom hpad) hfifth⟩
  exact Number.double_le_trans hpadded (Number.le_add_right (Number.right_of_le hpadded) hnonneg hfifth)

/-- Chips are drawn consistently, unless a label at the top of a page has no finite place. -/
theorem Sound.consistent (hm : m.Sound) {b : Bool} (hb : b = true → isFinite d.geometry.margin = true) :
    Consistent d (infinity ≤ m.label d.geometry.top) m.rowHeight fun y => b && isFinite (m.label y) := by
  refine .of_place (Number.double_le_trans hm.height_nonneg hm.height_le) hb (fun _ => isFinite_of_label)
    (fun y₀ h y y' hy => (hm.label_mono h hy).2) ?_ fun _ _ => id
  intro h y₀ y hlabel hy hroom
  obtain ⟨hbottom, hle⟩ := hm.label_mono hlabel hy
  have habove := Number.le_sub_of_le hroom hm.height_nonneg hm.height_le
  exact Number.isFinite_of_between (Number.double_le_trans habove hbottom) hle (hb h) hlabel

theorem Sound.lowers (hm : m.Sound) :
    Lowers d (infinity ≤ m.label d.geometry.top) m.rowHeight fun y => isFinite (m.label y) = true where
  le y hy h := Number.sub_le_self (Number.left_of_le hy)
    (Number.double_le_trans hm.height_nonneg hm.height_le) (.inl (isFinite_of_label h))
  top_le hwall y hy hy' h := by
    rw [Number.not_isFinite_of_infinity_le (Number.double_le_trans hwall (hm.label_mono h hy').2)] at h
    cases h

end ChipMeasures

section

variable {m : ChipMeasures Float}

theorem checks_drawChip (style : Style) (c : Chip) (label : String) (x width : Float) :
    ∃ b, (b = true → isFinite x = true) ∧
      Checks (d.drawChip m style c label x width) fun y => b && isFinite (m.label y) := by
  obtain ⟨b, hb, hplate⟩ := checks_drawPlate x width m.height (m.height / 2.0) (d.chipColor c) .chip
  have htext (y : Float) := checks_drawText .left (x + m.padX) (m.label y) label m.font m.size
    ((inkOf? style.color).getD (d.preset.color .text)) .chipLabel
  refine ⟨b && ((Face.named? m.font).isSome && isFinite m.size && isFinite (x + m.padX)), ?_,
    .mark fun y => ((hplate (y - m.height)).bind (htext y)).congr fun _ => ?_⟩
  · exact fun h => hb (Bool.and_eq_true_iff.mp h).1
  · -- Where the label has a finite place, so has the chip.
    have hbottom : isFinite (m.label y) = true → isFinite (y - m.height) = true :=
      fun h => (Number.isFinite_of_add (Number.isFinite_of_add h).1).1
    cases hlabel : isFinite (m.label y) with
    | false => simp
    | true => rw [hbottom hlabel, Bool.and_true, Bool.and_true, Bool.and_true]

theorem descends_drawChips (hm : m.Sound) (style : Style) (chips : List Chip) :
    Descends d (infinity ≤ m.label d.geometry.top) (d.drawChips m style none chips) ∧
      ∀ x, (isFinite x = true → isFinite d.geometry.margin = true) →
        Passes d (infinity ≤ m.label d.geometry.top) m.rowHeight (fun y => isFinite (m.label y) = true)
          (d.drawChips m style (some x) chips) := by
  induction chips with
  | nil => exact ⟨.pure, fun x _ => .lower_last hm.lowers⟩
  | cons c chips ih =>
    have hchip (P : Float → Prop) (label : String) (x width : Float)
        (hx : isFinite x = true → isFinite d.geometry.margin = true) :
        Passes d (infinity ≤ m.label d.geometry.top) m.rowHeight P
          (d.drawChip m style c label x width >>= fun _ =>
            d.drawChips m style (some (x + (width + m.gap))) chips) := by
      obtain ⟨b, hb, hdrawn⟩ := checks_drawChip (d := d) (m := m) style c label x width
      refine .check hdrawn (hm.consistent fun h => hx (hb h)) ?_ (ih.2 _ ?_)
      · exact fun y _ h => (Bool.and_eq_true_iff.mp h).2
      · exact fun h => hx (Number.isFinite_of_add h).1
    have hheight := Number.double_le_trans hm.height_nonneg hm.height_le
    have hrow (label : String) (width : Float) := Descends.band hheight
      (hchip (fun _ => True) label d.geometry.left width id)
    constructor
    · rw [Setup.drawChips]
      refine .read fun label _ => ?_
      split
      · exact ih.1
      · exact .read fun width _ => hrow label width
    · intro x hx
      rw [Setup.drawChips]
      refine .read fun label _ => ?_
      split
      · exact ih.2 x hx
      · refine .read fun width _ => ?_
        dsimp only
        split
        · next x' hplace =>
          cases (Option.filter_eq_some_iff.mp hplace).1
          exact hchip _ label x width hx
        · exact .lower hm.lowers (hrow label width)

end

theorem exists_descends_read {β : Type} {x : Except Failure β} {f : β → Draw Float Unit}
    (h : ∀ b, x = .ok b → ∃ wall, Descends d wall (f b)) : ∃ wall, Descends d wall (liftM x >>= f) := by
  cases x with
  | error e => exact ⟨True, .stopped, trivial, fun _ => rfl⟩
  | ok b => exact h b rfl

/-- Rows of chips are a descent, with a wall that depends on their measures. -/
theorem descends_drawChipRows (hpreset : d.preset.SizesIn IsExtent) {style : Style}
    (hstyle : ∀ x ∈ style.sizes, IsExtent x) (chips : List Chip) :
    ∃ wall, Descends d wall (d.drawChipRows style chips) := by
  have hsize {x : Float} (h : d.preset.sizeFor style.fontSize .chipSize = .ok x) : IsExtent x :=
    hpreset.sizeFor (fun x hx => hstyle x (fontSize_mem_sizes hx)) h
  unfold Setup.drawChipRows Setup.sizeOr
  rw [givenOr_bind]
  refine exists_descends_read fun x hx => ?_
  simp only [size_bind]
  refine exists_descends_read fun padX _ => exists_descends_read fun padY hpad =>
    exists_descends_read fun gap hgap => exists_descends_read fun font _ => ?_
  exact ⟨_, (descends_drawChips (m := ⟨font, x, padX, padY, gap⟩)
    ⟨hsize hx, hpreset.size _ _ hpad, hpreset.size _ _ hgap⟩ style chips).1⟩

/-! ## Tables -/

theorem fitFrom_nonneg (measure : Float → Float) (width : Float) (steps : Nat) (size : Float) :
    0.0 ≤ fitFrom measure width steps size := by
  have hleast : (0.0 : Float) ≤ leastSize := by decide +kernel
  induction steps generalizing size with
  | zero => exact hleast
  | succ steps ih =>
    unfold fitFrom
    split
    · next hless =>
      split
      · exact Number.double_le_trans hleast (Number.double_le_of_lt hless)
      · exact ih _
    · exact hleast

theorem sizeToFit_nonneg {font : String} {base width size : Float} {cs : List Char} (hbase : 0.0 ≤ base)
    (h : sizeToFit font base width cs = .ok size) : 0.0 ≤ size := by
  unfold sizeToFit at h
  split at h
  · cases h
    exact hbase
  · split at h
    · cases h
      exact fitFrom_nonneg ..
    · split at h
      · cases h
      · cases h
        decide +kernel

/-- An action that draws something in a band, without going down. -/
def Fills (d : Setup Float) (wall : Prop) (height : Float) (m : Draw Float Unit) : Prop :=
  ∃ drawn, Consistent d wall height drawn ∧ Checks m drawn

/-- What a table draws once its rows are read. -/
def Setup.drawBody {α : Type} [Length α] (d : Setup α) (columns : List Column) (showHeader : Bool)
    (rows : List Value) : Draw α Unit := do
  let rowHeight ← d.size .tableRowHeight
  let slot := d.geometry.contentWidth / Length.ofNat (max columns.length 1)
  if showHeader then d.drawHead slot rowHeight columns
  let font ← d.preset.font false false
  let size ← d.size .tableCellSize
  d.drawRows slot rowHeight font size columns rows

theorem drawTable_eq {α : Type} [Length α] (d : Setup α) (path : Option String) (columns : List Column)
    (showHeader : Bool) : d.drawTable path columns showHeader =
      liftM (tableRows d.context path) >>= d.drawBody columns showHeader := rfl

/-- Where columns have a finite width, twice the margin is finite. -/
theorem isFinite_twice_margin_of_slot (d : Setup Float) (count : Nat)
    (h : isFinite (d.geometry.contentWidth / Length.ofNat count) = true) :
    isFinite (2.0 * d.geometry.margin) = true :=
  Number.isFinite_of_sub_right (Number.isFinite_of_div h)

theorem Fills.read {β : Type} {x : Except Failure β} {f : β → Draw Float Unit}
    (h : ∀ b, x = .ok b → Fills d wall height (f b)) : Fills d wall height (liftM x >>= f) := by
  cases x with
  | error e => exact ⟨fun _ => false, .const false, fun _ => rfl⟩
  | ok b => exact h b rfl

section

variable (htop : d.geometry.top ≤ d.geometry.top) (hpreset : d.preset.SizesIn IsExtent)

include htop

theorem fills_drawCells {slot rowHeight base : Float} (hrow : IsExtent rowHeight) (hbase : 0.0 ≤ base)
    (hslot : isFinite slot = true → isFinite (2.0 * d.geometry.margin) = true) (font : String) (role : Role)
    (index : Nat) (cells : List (Column × Except Failure String)) :
    Fills d (infinity ≤ d.geometry.top) rowHeight
      (d.drawCells slot rowHeight font base role index cells) := by
  induction cells generalizing index with
  | nil => exact ⟨fun _ => true, .const true, fun _ => rfl⟩
  | cons cell cells ih =>
    obtain ⟨drawn, hdrawn, hcells⟩ := ih (index + 1)
    refine .read fun content _ => ?_
    rw [size_bind]
    refine .read fun pad _ => .read fun size hsize => ?_
    have hnonneg : 0.0 ≤ rowHeight + size * 0.6 := Number.double_le_trans hrow.nonneg
      (Number.le_add_self hrow.nonneg (Number.mul_nonneg (sizeToFit_nonneg hbase hsize) (by decide +kernel)
        (by decide +kernel)))
    have hcell (align : Align) (x : Float)
        (hx : isFinite x = true → isFinite (d.geometry.left + Length.ofNat index * slot) = true) :
        Fills d (infinity ≤ d.geometry.top) rowHeight (get >>= fun s =>
          drawText align x (s.y - (rowHeight + size * 0.6) / 2.0) content font size (d.preset.color .text)
            role >>= fun _ => d.drawCells slot rowHeight font base role (index + 1) cells) := by
      have htext := Checks.mark fun y => checks_drawText align x (y - (rowHeight + size * 0.6) / 2.0) content
        font size (d.preset.color .text) role
      rw [← bind_assoc]
      refine ⟨_, (Consistent.half hnonneg hrow (fun h => ?_) htop).and hdrawn, htext.bind hcells⟩
      obtain ⟨hmargin, hshift⟩ := Number.isFinite_of_add (hx (Bool.and_eq_true_iff.mp h).2)
      exact ⟨hmargin, hslot (Number.isFinite_of_mul_right hshift)⟩
    cases halign : cell.1.align.getD .left with
    | left => exact hcell _ _ fun h => (Number.isFinite_of_add h).1
    | center => exact hcell _ _ fun h => (Number.isFinite_of_add h).1
    | right => exact hcell _ _ fun h => (Number.isFinite_of_add (Number.isFinite_of_sub h)).1

include hpreset

theorem descends_drawHead {slot rowHeight : Float} (hrow : IsExtent rowHeight)
    (hslot : isFinite slot = true → isFinite (2.0 * d.geometry.margin) = true) (columns : List Column) :
    Descends d (infinity ≤ d.geometry.top) (d.drawHead slot rowHeight columns) := by
  refine .band hrow.nonneg (.read fun font _ => .size hpreset .tableHeaderSize fun base hbase => ?_)
  obtain ⟨drawn, hdrawn, hcells⟩ := fills_drawCells htop hrow hbase.nonneg hslot font .tableHeader 0
    (columns.map fun c => (c, .ok (headText c)))
  refine .check (Q := fun _ => True) hcells hdrawn (fun _ _ _ => trivial) ?_
  refine .mark (Q := fun _ => True) (fun y => checks_drawLine d.geometry.left (y - rowHeight)
    d.geometry.right (d.preset.color .rule) .tableRule)
    (.drop hrow.nonneg (Number.right_of_le hrow.nonneg) ?_ htop) (fun _ _ _ => trivial)
    (.lower_last (.of_finite htop hrow.nonneg fun _ _ => .inr hrow.finite))
  exact fun h => (Bool.and_eq_true_iff.mp h).1

omit hpreset in
theorem descends_drawRows {slot rowHeight base : Float} (hrow : IsExtent rowHeight) (hbase : 0.0 ≤ base)
    (hslot : isFinite slot = true → isFinite (2.0 * d.geometry.margin) = true) {font : String}
    {columns : List Column} (rows : List Value) :
    Descends d (infinity ≤ d.geometry.top) (d.drawRows slot rowHeight font base columns rows) := by
  induction rows with
  | nil => exact .pure
  | cons row rows ih =>
    obtain ⟨drawn, hdrawn, hcells⟩ := fills_drawCells htop hrow hbase hslot font .tableCell 0
      (columns.map fun c => (c, c.shown row))
    refine .band hrow.nonneg (.check (Q := fun _ => True) hcells hdrawn (fun _ _ _ => trivial) ?_)
    exact .mark (Q := fun _ => True) (fun y => checks_record .row d.geometry.left
      (y - rowHeight) d.geometry.contentWidth rowHeight .tableRow) (.const true) (fun _ _ _ => trivial)
      (.lower (.of_finite htop hrow.nonneg fun _ _ => .inr hrow.finite) ih)

theorem descends_drawBody (columns : List Column) (showHeader : Bool) (rows : List Value) :
    Descends d (infinity ≤ d.geometry.top) (d.drawBody columns showHeader rows) := by
  refine .size hpreset .tableRowHeight fun x hx => ?_
  have hslot := isFinite_twice_margin_of_slot d (max columns.length 1)
  dsimp only
  generalize d.geometry.contentWidth / Length.ofNat (max columns.length 1) = slot at hslot
  have hrows : Descends d (infinity ≤ d.geometry.top) (liftM (d.preset.font false false) >>= fun font =>
      d.size .tableCellSize >>= fun size => d.drawRows slot x font size columns rows) :=
    .read fun _ _ => .size hpreset .tableCellSize fun _ hbase =>
      descends_drawRows htop hx hbase.nonneg hslot rows
  split
  · exact (descends_drawHead htop hpreset hx hslot columns).bind hrows
  · exact hrows

theorem descends_drawTable (path : Option String) (columns : List Column) (showHeader : Bool) :
    Descends d (infinity ≤ d.geometry.top) (d.drawTable path columns showHeader) := by
  rw [drawTable_eq]
  exact .read fun rows _ => descends_drawBody htop hpreset columns showHeader rows

end

/-! ## Namesakes -/

theorem Descends.stop (f : Failure) : Descends d wall (throw f) := ⟨.stopped, trivial, fun _ => rfl⟩

section

variable (htop : d.geometry.top ≤ d.geometry.top) (hpreset : d.preset.SizesIn IsExtent) {extras : Fields}

include htop hpreset

theorem descends_drawNamesakeImage (hcontent : 0.0 ≤ d.geometry.contentHeight) {c : Common}
    (hsizes : ∀ x ∈ namesakeSizes extras .image, IsExtent x) :
    Descends d (infinity ≤ d.geometry.top) (d.drawNamesakeImage c extras) := by
  refine .read fun source _ => ?_
  split
  · refine .read fun width hwidth => .read fun height hheight => ?_
    exact descends_drawPicture htop hpreset hcontent _
      (fun x hx => hsizes x (List.mem_append_left _ (mem_sizeIn hwidth hx)))
      fun x hx => hsizes x (List.mem_append_right _ (mem_sizeIn hheight hx))
  · exact .pure

theorem descends_drawNamesakeTable :
    Descends d (infinity ≤ d.geometry.top) (d.drawNamesakeTable extras) := by
  refine .read fun columns _ => .read fun path _ => .read fun showHeader _ => ?_
  split
  · exact .stop _
  · exact descends_drawTable htop hpreset path [] showHeader
  · refine .read fun rows _ => .size hpreset .tableRowHeight fun x hx => ?_
    split
    · exact .band hx.nonneg (.stop fun _ => rfl)
    · exact .pure

theorem descends_drawNamesake (hcontent : 0.0 ≤ d.geometry.contentHeight) {c : Common} {style : Style} {kind : Kind}
    (hstyle : ∀ x ∈ style.sizes, IsExtent x) (hsizes : ∀ x ∈ namesakeSizes extras kind, IsExtent x)
    (hbox : kind ≠ .box) : ∃ wall, Descends d wall (d.drawNamesake c style extras kind) := by
  cases kind with
  | heading => exact ⟨_, .read fun level _ => descends_drawHeading htop hpreset hstyle level⟩
  | text => exact ⟨_, descends_drawParagraph htop hpreset hstyle⟩
  | list => exact ⟨_, .read fun _ _ => descends_drawList htop hpreset hstyle []⟩
  | chips => exact exists_descends_read fun _ _ => descends_drawChipRows hpreset hstyle []
  | divider => exact ⟨_, descends_drawDivider htop hpreset⟩
  | spacer => exact ⟨_, .read fun x hx => descends_drawSpacer htop (hsizes x (mem_room hx))⟩
  | image => exact ⟨_, descends_drawNamesakeImage htop hpreset hcontent hsizes⟩
  | box => exact absurd rfl hbox
  | table => exact ⟨_, descends_drawNamesakeTable htop hpreset⟩

end

/-! ## Components -/

/-- What a component draws, unless it is shown as a box, is a descent. -/
theorem descends_drawKind (htop : d.geometry.top ≤ d.geometry.top) (hcontent : 0.0 ≤ d.geometry.contentHeight)
    (hpreset : d.preset.SizesIn IsExtent) {c : Component} (hbox : c.shownKind? ≠ some .box)
    (hc : ∀ x ∈ c.sizes, IsExtent x) : ∃ wall, Descends d wall (d.drawKind (pure ()) c) := by
  have hstyle : ∀ x ∈ c.style.sizes, IsExtent x := fun x hx => hc x (style_sizes_subset c hx)
  cases c with
  | heading common level => exact ⟨_, descends_drawHeading htop hpreset hstyle _⟩
  | text common => exact ⟨_, descends_drawParagraph htop hpreset hstyle⟩
  | list common items => exact ⟨_, descends_drawList htop hpreset hstyle items⟩
  | chips common chips => exact descends_drawChipRows hpreset hstyle chips
  | divider common => exact ⟨_, descends_drawDivider htop hpreset⟩
  | spacer common size =>
    exact ⟨_, descends_drawSpacer htop (hc size (ownSizes_subset _ (by simp [Component.ownSizes])))⟩
  | image common url width height =>
    refine ⟨_, descends_drawImage htop hpreset hcontent (fun x hx => hc x (ownSizes_subset _ ?_))
      fun x hx => hc x (ownSizes_subset _ ?_)⟩
    · simp [Component.ownSizes, Option.mem_def.mp hx]
    · simp [Component.ownSizes, Option.mem_def.mp hx]
  | box common children => exact absurd (Component.shownKind?_of_kind? rfl) hbox
  | table common path columns showHeader => exact ⟨_, descends_drawTable htop hpreset path columns showHeader⟩
  | unknown common name extras =>
    rw [Setup.drawKind]
    split
    · next kind hkind =>
      refine descends_drawNamesake htop hpreset hcontent hstyle (fun x hx => hc x (ownSizes_subset _ ?_)) ?_
      · simpa [Component.ownSizes, Component.looseSizes, hkind] using hx
      · rintro rfl
        exact hbox hkind
    · exact ⟨True, .pure⟩

end DocTemplate.Page
