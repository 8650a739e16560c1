import DocTemplate.Proofs.Number.Finite
import DocTemplate.Proofs.Page.Performing

/-!
# The bottom margin

In doubles, the cursor is never above the top of a page, and what room is made for stays above the bottom
margin if there is room for it on any page, where no namesake sets a negative size. Main statement:
`stays_above_margin`.
-/

namespace DocTemplate.Page

open DocTemplate.Number (isFinite)

/-- A size that is finite and not negative. -/
structure IsExtent (x : Float) : Prop where
  finite : isFinite x = true
  nonneg : 0.0 ≤ x

/-- What keeps to the margins of its pages: the cursor is not above the top, and what a height is made room
for is above the bottom margin, unless that height exceeds a page. -/
structure WithinMargins (g : Geometry Float) (p : Preset) (s : Sheet Float) : Prop where
  cursor : s.y ≤ g.top
  ops : ∀ o ∈ opsOf s.log, ∀ h, p.reserved? o.role o.height = some h →
    g.margin ≤ g.top - h → g.margin ≤ o.y

variable {d : Setup Float} {s t : Sheet Float} {y k h : Float}

/-! ## Parts of a height -/

theorem nonneg_smaller {x y : Float} (hx : 0.0 ≤ x) (hy : 0.0 ≤ y) : 0.0 ≤ smaller x y := by
  unfold smaller
  split
  · exact hy
  · exact hx

/-- A part of a height is between nothing and the whole. -/
theorem Part.bounds (hpart : Part d IsExtent k h) (hcontent : 0.0 ≤ d.geometry.contentHeight) :
    0.0 ≤ k ∧ k ≤ h := by
  cases hpart with
  | whole x hx => exact ⟨hx.nonneg, Number.right_of_le hx.nonneg⟩
  | half x hx => exact Number.half_le hx.finite hx.nonneg
  | line size gap hsize hgap => exact ⟨hsize.nonneg, Number.le_add_self hsize.nonneg hgap.nonneg⟩
  | chip size pad gap hsize hpad hgap =>
    have htwice : size ≤ size + 2.0 * pad :=
      Number.le_add_self hsize.nonneg (Number.double_nonneg hpad.nonneg)
    have hheight : 0.0 ≤ size + 2.0 * pad := Number.double_le_trans hsize.nonneg htwice
    exact ⟨hheight, Number.le_add_self hheight hgap.nonneg⟩
  | image x hx =>
    have hsmaller := nonneg_smaller hx.nonneg hcontent
    exact ⟨hsmaller, Number.right_of_le hsmaller⟩

/-- A height made up of sizes that are not negative, be they infinite, is not negative. -/
theorem Part.nonneg {Q : Float → Prop} (hpart : Part d Q k h) (hQ : ∀ x, Q x → 0.0 ≤ x)
    (hcontent : 0.0 ≤ d.geometry.contentHeight) : 0.0 ≤ h := by
  cases hpart with
  | whole x hx | half x hx => exact hQ x hx
  | line size gap hsize hgap =>
    exact Number.double_le_trans (hQ size hsize) (Number.le_add_self (hQ size hsize) (hQ gap hgap))
  | chip size pad gap hsize hpad hgap =>
    have hheight : size ≤ size + 2.0 * pad :=
      Number.le_add_self (hQ size hsize) (Number.double_nonneg (hQ pad hpad))
    have hnonneg : 0.0 ≤ size + 2.0 * pad := Number.double_le_trans (hQ size hsize) hheight
    exact Number.double_le_trans hnonneg (Number.le_add_self hnonneg (hQ gap hgap))
  | image x hx => exact nonneg_smaller (hQ x hx) hcontent

/-! ## The cursor -/

theorem isFinite_of_refusal? {x : Float} (h : Length.refusal? x = none) : isFinite x = true := by
  change refusalOfFloat? x = none at h
  unfold refusalOfFloat? at h
  split at h
  · assumption
  · split at h <;> cases h

/-- The cursor does not go up. -/
theorem Drop.le (hdrop : Drop d IsExtent y h) (hcontent : 0.0 ≤ d.geometry.contentHeight) (hy : y ≤ y) :
    y - h ≤ y := by
  cases hdrop with
  | size x hx =>
    change y - x ≤ y
    exact Number.sub_le_self hy hx.nonneg (.inr hx.finite)
  | drawn k h hpart hdrawn =>
    have hfinite : isFinite (y - k) = true := isFinite_of_refusal? hdrawn
    have hnonneg : 0.0 ≤ h := hpart.nonneg (fun _ => IsExtent.nonneg) hcontent
    exact Number.sub_le_self hy hnonneg (.inl (Number.isFinite_of_sub hfinite))

/-! ## What is drawn -/

/-- Where there is room for a height on a fresh page, room has been made for it below the cursor. -/
theorem Reserved.margin_le (hreserved : Reserved d h y) (hy : y ≤ d.geometry.top) (hh : 0.0 ≤ h)
    (hroom : d.geometry.margin ≤ d.geometry.top - h) : d.geometry.margin ≤ y - h := by
  rcases hreserved with hfits | htop
  · by_cases hlow : y - h < d.geometry.margin
    · have hfresh : ¬y < d.geometry.top := fun hless => hfits ⟨hlow, hless⟩
      have htop_le : d.geometry.top ≤ y :=
        Number.le_of_not_lt (Number.right_of_le hy) (Number.left_of_le hy) hfresh
      exact Number.le_sub_congr hroom htop_le hy
    · exact Number.le_of_not_lt (Number.left_of_le hroom) (Number.sub_le_sub_self hroom hy hh) hlow
  · rw [htop]
    exact hroom

theorem Placed.margin_le {role : Role} {bottom height : Float}
    (hplaced : Placed d IsExtent y role bottom height) (hcontent : 0.0 ≤ d.geometry.contentHeight)
    (hy : y ≤ d.geometry.top) (hh : d.preset.reserved? role height = some h)
    (hroom : d.geometry.margin ≤ d.geometry.top - h) : d.geometry.margin ≤ bottom := by
  obtain ⟨hreserved, k, hpart, rfl⟩ := hplaced h hh
  obtain ⟨hk, hkh⟩ := hpart.bounds hcontent
  have hnonneg : 0.0 ≤ h := hpart.nonneg (fun _ => IsExtent.nonneg) hcontent
  exact Number.le_sub_of_le (hreserved.margin_le hy hnonneg hroom) hk hkh

/-! ## One act -/

/-- A page has a top. -/
theorem top_le_top (hcontent : 0.0 ≤ d.geometry.contentHeight) : d.geometry.top ≤ d.geometry.top :=
  Number.sub_le_sub_self_of_double hcontent

theorem WithinMargins.op (hs : WithinMargins d.geometry d.preset s) {o : Op Float}
    (hcontent : 0.0 ≤ d.geometry.contentHeight) (hplaced : Placed d IsExtent s.y o.role o.y o.height) :
    WithinMargins d.geometry d.preset { s with log := s.log.push (.op o) } where
  cursor := hs.cursor
  ops := by
    intro o' ho'
    rw [opsOf_push_op, List.mem_append, List.mem_singleton] at ho'
    rcases ho' with ho' | rfl
    · exact hs.ops o' ho'
    · exact fun h hh hroom => hplaced.margin_le hcontent hs.cursor hh hroom

theorem WithinMargins.call (hs : WithinMargins d.geometry d.preset s) (c : Call Float) :
    WithinMargins d.geometry d.preset { s with log := s.log.push (.call c) } :=
  ⟨hs.cursor, by simpa using hs.ops⟩

theorem WithinMargins.turn (hs : WithinMargins d.geometry d.preset s)
    (hcontent : 0.0 ≤ d.geometry.contentHeight) : WithinMargins d.geometry d.preset (after d.newPage s) := by
  obtain ⟨made, -, hafter⟩ := d.after_newPage s
  rw [hafter]
  exact ⟨top_le_top hcontent, by simpa [Setup.pageLog] using hs.ops⟩

/-- Each act keeps to the margins. -/
theorem WithinMargins.act (hs : WithinMargins d.geometry d.preset s)
    (hcontent : 0.0 ≤ d.geometry.contentHeight) (hact : Act d IsExtent s t) :
    WithinMargins d.geometry d.preset t := by
  cases hact with
  | call c hpage hquiet => exact hs.call c
  | stroke c o hc hshows hplaced => exact (hs.call c).op hcontent hplaced
  | row x y width height hplaced => exact hs.op hcontent hplaced
  | lower h hdrop =>
    have hy : s.y - h ≤ s.y := hdrop.le hcontent (Number.left_of_le hs.cursor)
    exact ⟨Number.double_le_trans hy hs.cursor, hs.ops⟩
  | turn => exact hs.turn hcontent

/-! ## Whole documents -/

theorem WithinMargins.acts (hs : WithinMargins d.geometry d.preset s)
    (hcontent : 0.0 ≤ d.geometry.contentHeight) (hacts : Acts d IsExtent s t) :
    WithinMargins d.geometry d.preset t := by
  induction hacts with
  | refl => exact hs
  | tail _ hact ih => exact ih.act hcontent hact

theorem withinMargins_opening (hcontent : 0.0 ≤ d.geometry.contentHeight) :
    WithinMargins d.geometry d.preset (after d.opening (blank d.geometry)) := by
  obtain ⟨made, -, hafter⟩ := d.after_opening
  rw [hafter]
  refine ⟨top_le_top hcontent, ?_⟩
  have hnone : opsOf (#[.call (.setTitle d.title)] : Array (Event Float)) = [] := rfl
  simp only [Setup.pageLog, opsOf_withCalls, opsOf_push_pageStart, hnone]
  exact fun o ho => nomatch ho

/-- Nothing that fits a page is drawn into its bottom margin, and the cursor is never above the top, if the sizes
are not negative that nothing has checked: a document is drawn by acts, and no acts lead to a cursor above the
top. -/
theorem stays_above_margin (g : Geometry Float) (p : Preset) (hook : Option (PageHook Float))
    (pictures : Pictures Float) (layout : Layout) (context : Value) (title : Option String) (drawn : Drawn Float)
    (hlayout : layout.IsLoaded) (hloose : ∀ x ∈ layout.looseSizes, 0 ≤ x)
    (hfinite : ∀ x ∈ layout.sizes, isFinite x = true)
    (hpreset : p.SizesIn IsExtent) (hcontent : 0.0 ≤ g.contentHeight)
    (hdrawn : drawDocument g p hook pictures layout context title = .ok drawn) :
    let d : Setup Float :=
      ⟨g, p, context, (given? title).getD defaultTitle, hook.getD (frameHook g p), pictures⟩
    (∀ o ∈ opsOf drawn.log, ∀ h, p.reserved? o.role o.height = some h →
      g.margin ≤ g.top - h → g.margin ≤ o.y) ∧
    (∃ s, Acts d IsExtent (after d.opening (blank g)) s ∧
      drawn = ⟨s.page, s.log.push (.call .showPage)⟩) ∧
    ∀ t, Acts d IsExtent (after d.opening (blank g)) t → t.y ≤ g.top := by
  intro d
  have hsizes : ∀ x ∈ layout.sizes, IsExtent x := fun x hx => ⟨hfinite x hx, hlayout.nonneg hloose x hx⟩
  obtain ⟨s, hacts, rfl⟩ := acts_of_document (d := d) hpreset hsizes hdrawn
  have hwithin : ∀ t, Acts d IsExtent (after d.opening (blank g)) t → WithinMargins g p t :=
    fun t ht => (withinMargins_opening (d := d) hcontent).acts hcontent ht
  refine ⟨?_, ⟨s, hacts, rfl⟩, fun t ht => (hwithin t ht).cursor⟩
  rw [opsOf_push_call]
  exact (hwithin s hacts).ops

/-- The sizes of the preset in use are finite and not negative. -/
theorem sizesIn_standard : Preset.standard.SizesIn IsExtent where
  size s x h := by
    have hsize : Preset.standard.size s = Value.toSize (.int s.entry.2) := by cases s <;> rfl
    rw [hsize] at h
    cases s <;> cases h <;> exact ⟨by decide +kernel, by decide +kernel⟩
  heading level x h := by
    have hvalue : ∀ key : String,
        (Fields.get? [("1", .int 22), ("2", .int 18), ("3", .int 15), ("4", .int 13)] key).getD (.int 18) ∈
          [Value.int 22, .int 18, .int 15, .int 13] := by
      intro key
      simp only [Fields.get?, List.lookup]
      repeat' split
      all_goals simp
    have hsize : ∀ v ∈ [Value.int 22, .int 18, .int 15, .int 13], v.toSize = .ok x → IsExtent x := by
      simp only [List.forall_mem_cons, List.not_mem_nil, false_implies, implies_true, and_true]
      refine ⟨?_, ?_, ?_, ?_⟩ <;>
      · intro h
        cases h
        exact ⟨by decide +kernel, by decide +kernel⟩
    exact hsize _ (hvalue level) h

/-- Two texts in a box, which do not both fit on a page; the gap between them is a namesake. -/
def lettersSource : Value :=
  .list [.record [("id", .text "letters"), ("type", .text "box"), ("children", .list [
    .record [("id", .text "first"), ("type", .text "text"), ("text", .text "Dear Ida")],
    .record [("id", .text "gap"), ("type", .bytes [0x73, 0x70, 0x61, 0x63, 0x65, 0x72]), ("size", .float 730.0)],
    .record [("id", .text "second"), ("type", .text "text"), ("text", .text "Dear Max")]])]]

def lettersLayout : Layout :=
  [.box { id := "letters" } [.text { id := "first", text := some "Dear Ida" },
    .unknown { id := "gap" } "spacer" [("size", .float 730.0)], .text { id := "second", text := some "Dear Max" }]]

theorem lettersLayout_stays_above_margin :
    lettersLayout.IsLoaded ∧ (∀ x ∈ lettersLayout.looseSizes, 0 ≤ x) ∧
      (∀ x ∈ lettersLayout.sizes, isFinite x = true) ∧
      Preset.standard.SizesIn IsExtent ∧ 0.0 ≤ (Geometry.standard : Geometry Float).contentHeight ∧
      ∃ drawn : Drawn Float,
        drawDocument .standard .standard none pngPictures lettersLayout (.record []) none = .ok drawn ∧
        drawn.pageCount = 2 ∧
        ∀ o ∈ opsOf drawn.log, ∀ h, Preset.standard.reserved? o.role o.height = some h →
          (Geometry.standard : Geometry Float).margin ≤ Geometry.standard.top - h →
          Geometry.standard.margin ≤ o.y := by
  have hloaded : lettersLayout.IsLoaded := .fromValue lettersSource rfl
  have hloose : ∀ x ∈ lettersLayout.looseSizes, 0 ≤ x := by decide +kernel
  have hfinite : ∀ x ∈ lettersLayout.sizes, isFinite x = true := by decide +kernel
  have hcontent : 0.0 ≤ (Geometry.standard : Geometry Float).contentHeight := by decide +kernel
  have hdrawn : (drawDocument (.standard : Geometry Float) .standard none pngPictures lettersLayout (.record [])
      none).toOption.any fun drawn => drawn.pageCount == 2 := by decide +kernel
  obtain ⟨drawn, hdrawn, hpages⟩ := exists_ok_of_any hdrawn
  exact ⟨hloaded, hloose, hfinite, sizesIn_standard, hcontent, drawn, hdrawn, by simpa using hpages,
    (stays_above_margin .standard .standard none pngPictures lettersLayout (.record []) none drawn hloaded hloose
      hfinite sizesIn_standard hcontent hdrawn).1⟩

/-- A spacer whose kind is named in bytes, so that nothing checks its size, and a text below it. -/
def liftedSource : Value :=
  .list [.record [("id", .text "lift"), ("type", .bytes [0x73, 0x70, 0x61, 0x63, 0x65, 0x72]), ("size", .int (-400))],
    .record [("id", .text "note"), ("type", .text "text"), ("text", .text "Dear Ida")]]

def liftedLayout : Layout :=
  [.unknown { id := "lift" } "spacer" [("size", .int (-400))], .text { id := "note", text := some "Dear Ida" }]

/-- A spacer of a negative size lifts the cursor above the top of the page, and what follows is drawn there. -/
theorem negative_spacer_lifts_text :
    liftedLayout.IsLoaded ∧ (∀ x ∈ liftedLayout.sizes, isFinite x = true) ∧
      ∃ drawn : Drawn Float,
        drawDocument .standard .standard none pngPictures liftedLayout (.record []) none = .ok drawn ∧
        ∃ o ∈ opsOf drawn.log, o.role = .text ∧ (Geometry.standard : Geometry Float).top < o.y := by
  have hfinite : ∀ x ∈ liftedLayout.sizes, isFinite x = true := by decide +kernel
  have hdrawn : (drawDocument (.standard : Geometry Float) .standard none pngPictures liftedLayout (.record [])
      none).toOption.any fun drawn => (opsOf drawn.log).any fun o =>
        o.role == .text && decide ((Geometry.standard : Geometry Float).top < o.y) := by decide +kernel
  obtain ⟨drawn, hdrawn, hlifted⟩ := exists_ok_of_any hdrawn
  obtain ⟨o, ho, hrole⟩ := List.any_eq_true.mp hlifted
  exact ⟨.fromValue liftedSource rfl, hfinite, drawn, hdrawn, o, ho, by simpa using hrole⟩

end DocTemplate.Page
