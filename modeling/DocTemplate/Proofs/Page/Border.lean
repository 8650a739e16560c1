import DocTemplate.Proofs.Page.Boxes
import DocTemplate.Proofs.Page.Exact
import DocTemplate.Proofs.Page.Margin

/-!
# What a border encloses

In exact lengths, what is drawn from a spot on is below that spot on its page, and below the top of any later page; and
it is above where the cursor ends, on the page where it ends. So the border of a box encloses what is in the box on the
page where the box ends. Main statement: `border_encloses_what_is_inside`.
-/

namespace DocTemplate.Page

open DocTemplate.Number (isFinite)

/-- How high on a page things reach that are drawn from a spot on: to the spot on its own page, to the top on any
other. -/
def ceiling (top : Exact) (c : Spot Exact) (page : Nat) : Exact := if page = c.page then c.y else top

/-- Things are drawn from one spot down to another. On the page of the second they are above it, and on each page they
are below the ceiling of the first, unless they overhang. -/
structure Spans (top : Exact) (c : Spot Exact) (new : List (Op Exact)) (e : Spot Exact) : Prop where
  page_le : c.page ≤ e.page
  below : e.y ≤ ceiling top c e.page
  pages : ∀ o ∈ new, c.page ≤ o.page ∧ o.page ≤ e.page
  bottom : ∀ o ∈ new, o.role.overhangs = false → o.page = e.page → e.y ≤ o.y
  height : ∀ o ∈ new, o.role.overhangs = false → o.y + o.height ≤ ceiling top c o.page

variable {top : Exact} {c e f : Spot Exact} {new more : List (Op Exact)} {h k : Exact} {d : Setup Exact}
  {s t u : Sheet Exact}

theorem ceiling_self (top : Exact) (c : Spot Exact) : ceiling top c c.page = c.y := if_pos rfl

/-- The ceiling of a later spot is not above the one of an earlier spot. -/
theorem Spans.ceiling_le (hce : Spans top c new e) {page : Nat} (hpage : e.page ≤ page) :
    ceiling top e page ≤ ceiling top c page := by
  by_cases hsame : page = e.page
  · rw [hsame, ceiling_self]
    exact hce.below
  · have hlater : page ≠ c.page := by
      have hfirst := hce.page_le
      omega
    rw [ceiling, ceiling, if_neg hsame, if_neg hlater]

namespace Spans

/-- Nothing is drawn, and the cursor goes down to a spot. -/
theorem nothing (hpage : c.page ≤ e.page) (hbelow : e.y ≤ ceiling top c e.page) : Spans top c [] e :=
  ⟨hpage, hbelow, List.forall_mem_nil _, List.forall_mem_nil _, List.forall_mem_nil _⟩

theorem refl (top : Exact) (c : Spot Exact) : Spans top c [] c :=
  .nothing le_rfl (ceiling_self top c).ge

theorem trans (hce : Spans top c new e) (hef : Spans top e more f) : Spans top c (new ++ more) f where
  page_le := hce.page_le.trans hef.page_le
  below := hef.below.trans (hce.ceiling_le hef.page_le)
  pages := by
    refine List.forall_mem_append.mpr ⟨fun o ho => ?_, fun o ho => ?_⟩
    · exact ⟨(hce.pages o ho).1, (hce.pages o ho).2.trans hef.page_le⟩
    · exact ⟨hce.page_le.trans (hef.pages o ho).1, (hef.pages o ho).2⟩
  bottom := by
    refine List.forall_mem_append.mpr ⟨fun o ho hrole hpage => ?_, hef.bottom⟩
    -- What is on the last page is on the page of the spot between, and the end is below that spot.
    have hlast : o.page = e.page := le_antisymm (hce.pages o ho).2 (hpage ▸ hef.page_le)
    have hbelow := hef.below
    rw [← hpage, hlast, ceiling_self] at hbelow
    exact hbelow.trans (hce.bottom o ho hrole hlast)
  height := by
    refine List.forall_mem_append.mpr ⟨hce.height, fun o ho hrole => ?_⟩
    exact (hef.height o ho hrole).trans (hce.ceiling_le (hef.pages o ho).1)

theorem lower (hh : 0 ≤ h.value) : Spans top c [] (c.lower h) := by
  refine .nothing le_rfl ?_
  change c.y - h ≤ ceiling top c c.page
  rw [ceiling_self, Exact.le_iff, Exact.value_sub]
  linarith

/-- Room is made on the page of the cursor or at the top of the next one. -/
theorem enter (d : Setup Exact) (h : Exact) (c : Spot Exact) : Spans d.geometry.top c [] (d.enter h c).2 := by
  unfold Setup.enter
  split
  · refine .nothing (Nat.le_succ c.page) ?_
    rw [ceiling, if_neg (Nat.succ_ne_self c.page)]
  · exact .refl _ c

end Spans

/-! ## Strips -/

/-- A part of a height is between nothing and the whole. -/
theorem Part.exact_bounds (hpart : Part d IsExtent k h) (hcontent : 0.0 ≤ d.geometry.contentHeight) :
    0 ≤ k.value ∧ k.value ≤ h.value := by
  have hnonneg {x : Float} (hx : IsExtent x) : 0 ≤ (Length.ofFloat x : Exact).value :=
    Exact.value_ofFloat_nonneg hx.nonneg
  cases hpart with
  | whole x hx => exact ⟨hnonneg hx, le_rfl⟩
  | half x hx =>
    have hx := hnonneg hx
    simp only [Exact.value_div, Exact.value_ofScientific]
    constructor <;> linarith
  | line size gap hsize hgap =>
    have hsize := hnonneg hsize
    have hgap := hnonneg hgap
    simp only [Exact.value_add]
    constructor <;> linarith
  | chip size pad gap hsize hpad hgap =>
    have hsize := hnonneg hsize
    have hpad := hnonneg hpad
    have hgap := hnonneg hgap
    simp only [Exact.value_add, Exact.value_mul, Exact.value_ofScientific]
    constructor <;> linarith
  | image x hx =>
    refine ⟨?_, le_rfl⟩
    unfold smaller
    split
    · have hvalue := Exact.le_iff.mp hcontent
      rw [Exact.value_ofScientific] at hvalue
      linarith
    · exact hnonneg hx

/-- A strip spans its height: what hangs in it is drawn in it, and it is not negative if something does not overhang. -/
theorem Spans.of_hangs (hcontent : 0.0 ≤ d.geometry.contentHeight) (hsome : ∃ o ∈ new, o.role.overhangs = false)
    (hhangs : ∀ o ∈ new, Hangs d IsExtent h c o) : Spans d.geometry.top c new (c.lower h) where
  page_le := le_rfl
  below := by
    obtain ⟨o, ho, hrole⟩ := hsome
    obtain ⟨k, hpart, -⟩ := (hhangs o ho).part hrole
    have hbounds := hpart.exact_bounds hcontent
    exact (Spans.lower (hbounds.1.trans hbounds.2)).below
  pages o ho := ⟨(hhangs o ho).page.ge, (hhangs o ho).page.le⟩
  bottom := by
    intro o ho hrole _
    obtain ⟨k, hpart, hy, -⟩ := (hhangs o ho).part hrole
    have hbounds := hpart.exact_bounds hcontent
    rw [hy, Exact.le_iff]
    change c.y.value - h.value ≤ c.y.value - k.value
    linarith
  height := by
    intro o ho hrole
    obtain ⟨k, hpart, hy, hheight⟩ := (hhangs o ho).part hrole
    have hbounds := hpart.exact_bounds hcontent
    rw [(hhangs o ho).page, ceiling_self, Exact.le_iff, Exact.value_add, hy, Exact.value_sub]
    rcases hheight with hheight | hheight
    · rw [hheight]
      linarith
    · rw [hheight, Exact.value_ofScientific]
      linarith

theorem Strips.spans (hcontent : 0.0 ≤ d.geometry.contentHeight) (hstrips : Strips d IsExtent c new e) :
    Spans d.geometry.top c new e := by
  induction hstrips with
  | nil c => exact .refl _ c
  | cons height hsome hhangs _ ih =>
    exact ((Spans.enter d height _).trans (.of_hangs hcontent hsome hhangs)).trans ih

/-! ## Components -/

/-- To a sheet something is added that spans from one spot of the cursor to the other. -/
abbrev Covers (top : Exact) : Sheet Exact → Sheet Exact → Prop := Adds (Spans top)

namespace Covers

theorem refl (top : Exact) (s : Sheet Exact) : Covers top s s := .of_nothing rfl (.refl top s.spot)

theorem trans (h : Covers top s t) (h' : Covers top t u) : Covers top s u := Adds.trans Spans.trans h h'

theorem lower {x : Float} (hx : IsExtent x) : Covers top s (s.lower (Length.ofFloat x)) :=
  .of_nothing rfl (Spans.lower (Exact.value_ofFloat_nonneg hx.nonneg))

theorem leaveMargin {style : Style} (hstyle : ∀ x ∈ style.sizes, IsExtent x) :
    Covers top s (leaveMargin style s) := by
  unfold Page.leaveMargin
  split
  · next x hx => exact .lower (hstyle x (marginBottom_mem_sizes (mem_of_nonzero? hx)))
  · exact .refl top s

end Covers

theorem covers_drawSpacer {x : Float} (hx : IsExtent x) {b : Unit}
    (hrun : (d.drawSpacer (Length.ofFloat x)).run.run s = (.ok b, t)) : Covers d.geometry.top s t := by
  obtain ⟨_, s₀, hroom, hdown⟩ := run_bind_ok hrun
  obtain ⟨hspot, hops⟩ := Setup.run_ensureSpace_ok hroom
  cases hdown
  have hentered : Covers d.geometry.top s s₀ := .of_nothing hops (by rw [hspot]; exact .enter d _ _)
  exact hentered.trans (.lower hx)

/-- Room is left by what is shown as a spacer, be it a namesake. -/
theorem covers_spacer {k : Component} (hk : ∀ x ∈ k.sizes, IsExtent x) (hspacer : k.shownKind? = some .spacer)
    {children : Draw Exact Unit} (hrun : (d.drawKind children k).run.run s = (.ok (), t)) :
    Covers d.geometry.top s t := by
  cases k with
  | spacer common size => exact covers_drawSpacer (hk size (ownSizes_subset _ (by simp [Component.ownSizes]))) hrun
  | unknown common name extras =>
    have hnamed : Kind.named? name = some .spacer := hspacer
    rw [Setup.drawKind, hnamed] at hrun
    obtain ⟨size, _, hread, hrun⟩ := run_bind_ok hrun
    obtain ⟨hroom, rfl⟩ := run_liftM_ok hread
    refine covers_drawSpacer (hk size (ownSizes_subset _ ?_)) hrun
    simpa [Component.ownSizes, Component.looseSizes, hnamed] using mem_room hroom
  | _ => cases (Component.shownKind?_of_kind? rfl).symm.trans hspacer

/-! ## Borders -/

/-- A border reaches from where its box ends up to where it begins, or to the top of a page that was turned to. -/
theorem border_top (d : Setup Exact) (inset : Exact) (start c : Spot Exact) :
    (d.border inset start c).y + (d.border inset start c).height = ceiling d.geometry.top start c.page := by
  change c.y + ((if c.page ≠ start.page then d.geometry.top else start.y) - c.y) = _
  rw [ceiling, ite_not]
  apply Exact.ext
  rw [Exact.value_add, Exact.value_sub, add_sub_cancel]

/-- With its border a box spans from where it begins to where it ends, as what is in it does. -/
theorem Spans.border (inset : Exact) (h : Spans d.geometry.top c new e) :
    Spans d.geometry.top c (new ++ [d.border inset c e]) e where
  page_le := h.page_le
  below := h.below
  pages := List.forall_mem_append.mpr ⟨h.pages, List.forall_mem_singleton.mpr ⟨h.page_le, le_rfl⟩⟩
  bottom := List.forall_mem_append.mpr ⟨h.bottom, List.forall_mem_singleton.mpr fun _ _ => le_rfl⟩
  height := List.forall_mem_append.mpr
    ⟨h.height, List.forall_mem_singleton.mpr fun _ => (border_top d inset c e).le⟩

theorem Covers.border {inset : Exact} (h : Covers d.geometry.top s t)
    (hborder : Stays t [d.border inset s.spot t.spot] u) : Covers d.geometry.top s u := by
  obtain ⟨new, hnew, hspans⟩ := h
  refine ⟨new ++ [d.border inset s.spot t.spot], by rw [hborder.ops, hnew, List.append_assoc], ?_⟩
  rw [hborder.spot]
  exact hspans.border inset

/-! ## Whole trees -/

section

variable (hpreset : d.preset.SizesIn IsExtent) (hcontent : 0.0 ≤ d.geometry.contentHeight)

include hpreset hcontent

/-- Whatever a component draws spans from the cursor to where it ends. -/
theorem covers_drawKind {k : Component} (hk : ∀ x ∈ k.sizes, IsExtent x) (hbox : ∀ common cs, k ≠ .box common cs)
    (hrun : (d.drawKind (pure ()) k).run.run s = (.ok (), t)) : Covers d.geometry.top s t := by
  by_cases hframed : k.shownKind? = some .box
  · obtain ⟨pad, inset, u, hpad, rfl, hborder⟩ := run_emptyBox_ok hbox hframed hrun
    have hextent : IsExtent pad := hpreset.padding (fun x hx => hk x (style_sizes_subset k hx)) hpad
    exact ((Covers.lower hextent).trans (.lower hextent)).border hborder
  · by_cases hspacer : k.shownKind? = some .spacer
    · exact covers_spacer hk hspacer hrun
    · obtain ⟨new, hnew, hstrips⟩ := lays_drawKind hpreset hk hframed hspacer hrun
      exact ⟨new, hnew, hstrips.spans hcontent⟩

theorem Draws.covers {ks : List Component} (hdraws : Draws d s ks t)
    (hks : ∀ k ∈ Component.subtrees ks, ∀ x ∈ k.sizes, IsExtent x) : Covers d.geometry.top s t := by
  induction hdraws with
  | nil s => exact .refl _ s
  | @single s t u k ks hplain hk _ ih =>
    rw [Component.subtrees] at hks
    have hsizes := hks k (List.mem_append_left _ k.mem_subtree)
    have hrest := ih fun k hk => hks k (List.mem_append_right _ hk)
    rcases run_single_ok hplain hk with rfl | ⟨hbox, u, hrun, rfl⟩
    · exact hrest
    · have hmargin : Covers d.geometry.top u (leaveMargin k.style u) :=
        .leaveMargin fun x hx => hsizes x (style_sizes_subset k hx)
      exact ((covers_drawKind hpreset hcontent hsizes hbox hrun).trans hmargin).trans hrest
  | @box s t u v common cs ks pad inset hvisible hpad _ hborder _ ihinside ih =>
    rw [Component.subtrees, Component.subtree] at hks
    have hsizes := hks _ (List.mem_append_left _ List.mem_cons_self)
    have hstyle : ∀ x ∈ (Component.box common cs).style.sizes, IsExtent x :=
      fun x hx => hsizes x (style_sizes_subset _ hx)
    have hinside := ihinside fun k hk => hks k (List.mem_append_left _ (List.mem_cons_of_mem _ hk))
    have hrest := ih fun k hk => hks k (List.mem_append_right _ hk)
    have hextent : IsExtent pad := hpreset.padding hstyle hpad
    have hbox : Covers d.geometry.top s u :=
      (((Covers.lower hextent).trans hinside).trans (.lower hextent)).border hborder
    exact (hbox.trans (.leaveMargin hstyle)).trans hrest

end

/-! ## Boxes that are drawn -/

/-- A border is always drawn: no length is refused. -/
theorem exists_run_drawBorder (style : Style) (inset : Exact) (c e : Spot Exact) (s : Sheet Exact) :
    ∃ t, (d.drawBorder style inset c e).run.run s = (.ok (), t) := by
  unfold Setup.drawBorder drawFrame
  simp only [run_bind, run_call, Exact.refusal?_eq_none (c := .setStrokeColor _) rfl rfl,
    Exact.refusal?_eq_none (c := .setLineWidth _) rfl rfl, Exact.refusal?_eq_none (c := .drawRect ..) rfl rfl]
  exact ⟨_, rfl⟩

/-- A box is drawn where what is in it is. -/
theorem exists_run_drawBox {style : Style} {pad inset : Float} {inside : Draw Exact Unit}
    (hpad : d.preset.padding style = .ok pad) (hinset : d.preset.size .boxInset = .ok inset)
    (hinside : inside.run.run (s.lower (Length.ofFloat pad)) = (.ok (), u)) :
    ∃ t, (d.drawBox style inside).run.run s = (.ok (), t) := by
  obtain ⟨t, hborder⟩ := exists_run_drawBorder (d := d) style (Length.ofFloat inset) s.spot
    (u.lower (Length.ofFloat pad)).spot (u.lower (Length.ofFloat pad))
  refine ⟨t, ?_⟩
  rw [drawBox_eq, run_bind, run_liftM, hpad, Setup.size]
  dsimp only
  rw [run_bind, run_bind, run_liftM, hinset]
  exact (run_drawFramed hinside).trans hborder

/-- A box of a loaded layout that is shown, and in which nothing fails, is drawn: after what is in it, one border is
recorded, on the page where the box ends. It reaches from there up to where the box begins, or to the top of the page
if the page was turned, and encloses all that was drawn on that page in the box and does not overhang, if the sizes
are not negative that nothing has checked. -/
theorem border_encloses_what_is_inside (d : Setup Exact) (layout : Layout) (common : Common)
    (children : List Component) (pad inset : Float) (s u : Sheet Exact) (hlayout : layout.IsLoaded)
    (hloose : ∀ x ∈ layout.looseSizes, 0 ≤ x) (hfinite : ∀ x ∈ layout.sizes, isFinite x = true)
    (hbox : .box common children ∈ layout.components)
    (hpreset : d.preset.SizesIn IsExtent) (hcontent : 0.0 ≤ d.geometry.contentHeight)
    (hvisible : (Component.box common children).isVisible d.context = .ok true)
    (hpad : d.preset.padding (Component.box common children).style = .ok pad)
    (hinset : d.preset.size .boxInset = .ok inset)
    (hinside : (d.drawAllOrFail children).run.run (s.lower (Length.ofFloat pad)) = (.ok (), u)) :
    ∃ (t : Sheet Exact) (inner : List (Op Exact)) (border : Op Exact),
      d.placeComponent s (.box common children) = leaveMargin (Component.box common children).style t ∧
      opsOf u.log = opsOf s.log ++ inner ∧ opsOf t.log = opsOf s.log ++ inner ++ [border] ∧
      border.role = .boxBorder ∧ border.page = u.page ∧ t.page = u.page ∧ border.y = t.y ∧
      border.y + border.height = (if t.page = s.page then s.y else d.geometry.top) ∧
      ∀ o ∈ inner, o.page = border.page → o.role.overhangs = false →
        border.y ≤ o.y ∧ o.y + o.height ≤ border.y + border.height := by
  have hsizes : ∀ k ∈ (Component.box common children).subtree, ∀ x ∈ k.sizes, IsExtent x := by
    intro k hk x hx
    have hx : x ∈ layout.sizes := List.mem_flatMap.mpr ⟨k, subtree_subset_subtrees hbox hk, hx⟩
    exact ⟨hfinite x hx, hlayout.nonneg hloose x hx⟩
  rw [Component.subtree] at hsizes
  have hextent : IsExtent pad := hpreset.padding
    (fun x hx => hsizes _ List.mem_cons_self x (style_sizes_subset _ hx)) hpad
  obtain ⟨t, hdrawn⟩ := exists_run_drawBox hpad hinset hinside
  obtain ⟨pad', inset', u', hpad', hinside', hstays⟩ := run_drawBox_ok hdrawn
  cases hpad.symm.trans hpad'
  cases hinside.symm.trans hinside'
  have hrun : (d.drawOrFail (.box common children)).run.run s =
      (.ok (), leaveMargin (Component.box common children).style t) := by
    rw [Setup.drawOrFail]
    have hkind : (Component.box common children).shownKind? = some .box := Component.shownKind?_of_kind? rfl
    exact run_shownOrFail (by rw [hkind]; exact Bool.false_ne_true) hvisible hdrawn
  have hcovers := (Covers.lower hextent).trans ((draws_of_drawAllOrFail hinside).covers hpreset hcontent fun k hk =>
    hsizes k (List.mem_cons_of_mem _ hk))
  obtain ⟨inner, hinner, hspans⟩ := hcovers.trans (.lower hextent)
  have hspot := hstays.spot
  refine ⟨t, inner, d.border inset' s.spot (u.lower (Length.ofFloat pad)).spot, d.placeComponent_of_drawOrFail hrun,
    hinner, ?_, rfl, rfl, congrArg Spot.page hspot, (congrArg Spot.y hspot).symm, ?_, ?_⟩
  · rw [hstays.ops]
    exact congrArg (· ++ _) hinner
  · rw [border_top, ← hspot]
    rfl
  · intro o ho hpage hrole
    have hheight := hspans.height o ho hrole
    rw [hpage] at hheight
    refine ⟨hspans.bottom o ho hrole hpage, ?_⟩
    rw [border_top]
    exact hheight

/-- A letter and, in a box of its own, a picture for which there is no room below it. -/
def parcelSource : Value :=
  .list [.record [("id", .text "parcel"), ("type", .text "box"), ("children", .list [
    .record [("id", .text "letter"), ("type", .text "text"), ("text", .text "Dear Ida")],
    .record [("id", .text "frame"), ("type", .text "box"), ("children", .list [
      .record [("id", .text "picture"), ("type", .text "image"), ("url", .text "p.png"),
        ("height", .float 480.0)]])]])]]

def parcelChildren : List Component :=
  [.text { id := "letter", text := some "Dear Ida" },
    .box { id := "frame" } [.image { id := "picture" } (some "p.png") none (some 480.0)]]

/-- What the parcel is drawn with, in exact lengths. -/
def parcelSetup : Setup Exact := ⟨.standard, .standard, .record [], "Parcel", .idle, pngPictures⟩

theorem border_encloses_picture :
    ∃ (t : Sheet Exact) (inner : List (Op Exact)) (border : Op Exact),
      parcelSetup.placeComponent ⟨500.0, 3, #[]⟩ (.box { id := "parcel" } parcelChildren) = t ∧
      opsOf t.log = inner ++ [border] ∧
      inner.map (fun o => (o.page, o.role)) = [(3, .text), (4, .imagePlaceholder), (4, .boxBorder)] ∧
      border.page = 4 ∧ border.y + border.height = (Geometry.standard : Geometry Exact).top ∧
      ∀ o ∈ inner, o.page = 4 → o.role.overhangs = false →
        border.y ≤ o.y ∧ o.y + o.height ≤ border.y + border.height := by
  obtain ⟨r, hr⟩ : ∃ r, (parcelSetup.drawAllOrFail parcelChildren).run.run
    (Sheet.lower ⟨500.0, 3, #[]⟩ (Length.ofFloat (Number.ofInt 6))) = r := ⟨_, rfl⟩
  have hanswers : r.1 = .ok () := by
    rw [← hr]
    decide +kernel
  have hroles : r.2.page = 4 ∧ (opsOf r.2.log).map (fun o => (o.page, o.role)) =
      [(3, .text), (4, .imagePlaceholder), (4, .boxBorder)] := by
    rw [← hr]
    decide +kernel
  have hloaded : Layout.IsLoaded [.box { id := "parcel" } parcelChildren] := .fromValue parcelSource rfl
  have hloose : ∀ x ∈ Layout.looseSizes [.box { id := "parcel" } parcelChildren], 0 ≤ x := by decide +kernel
  have hfinite : ∀ x ∈ Layout.sizes [.box { id := "parcel" } parcelChildren], isFinite x = true := by decide +kernel
  have hcontent : 0.0 ≤ (Geometry.standard : Geometry Exact).contentHeight := by decide +kernel
  obtain ⟨_, u⟩ := r
  cases hanswers
  obtain ⟨t, inner, border, hplaced, hinner, hall, -, hborder, hpage, -, htop, hencloses⟩ :=
    border_encloses_what_is_inside parcelSetup [.box { id := "parcel" } parcelChildren] { id := "parcel" }
      parcelChildren (Number.ofInt 6) (Number.ofInt 4) ⟨500.0, 3, #[]⟩ u hloaded hloose hfinite List.mem_cons_self
      sizesIn_standard hcontent rfl rfl rfl hr
  rw [hpage, if_neg (by rw [hroles.1]; decide)] at htop
  rw [hroles.1] at hborder
  rw [hborder] at hencloses
  rw [hinner] at hroles
  exact ⟨t, inner, border, hplaced, hall, hroles.2, hborder, htop, hencloses⟩

/-- A letter in a box, and below it a spacer whose kind is named in bytes, so that nothing checks its size. -/
def looseSource : Value :=
  .list [.record [("id", .text "parcel"), ("type", .text "box"), ("children", .list [
    .record [("id", .text "letter"), ("type", .text "text"), ("text", .text "Dear Ida")],
    .record [("id", .text "lift"), ("type", .bytes [0x73, 0x70, 0x61, 0x63, 0x65, 0x72]),
      ("size", .int (-400))]])]]

def looseChildren : List Component :=
  [.text { id := "letter", text := some "Dear Ida" }, .unknown { id := "lift" } "spacer" [("size", .int (-400))]]

/-- The spacer lifts the end of the box above the letter, which its border then leaves out. -/
theorem border_leaves_out_letter :
    Layout.IsLoaded [.box { id := "parcel" } looseChildren] ∧
      (∀ x ∈ Layout.sizes [.box { id := "parcel" } looseChildren], isFinite x = true) ∧
      parcelSetup.preset.SizesIn IsExtent ∧ 0.0 ≤ parcelSetup.geometry.contentHeight ∧
      ∃ t letter border, (parcelSetup.drawOrFail (.box { id := "parcel" } looseChildren)).run.run ⟨500.0, 3, #[]⟩ =
          (.ok (), t) ∧
        opsOf t.log = [letter, border] ∧ letter.role = .text ∧ border.role = .boxBorder ∧
        border.page = letter.page ∧ letter.y + letter.height < border.y := by
  obtain ⟨r, hr⟩ : ∃ r, (parcelSetup.drawOrFail (.box { id := "parcel" } looseChildren)).run.run ⟨500.0, 3, #[]⟩ = r :=
    ⟨_, rfl⟩
  have hanswers : r.1 = .ok () := by
    rw [← hr]
    decide +kernel
  have hops : (opsOf r.2.log).map (·.role) = [.text, .boxBorder] ∧ (opsOf r.2.log).map (·.page) = [3, 3] ∧
      List.IsChain (fun o o' => o.y + o.height < o'.y) (opsOf r.2.log) := by
    rw [← hr]
    decide +kernel
  obtain ⟨_, t⟩ := r
  cases hanswers
  obtain ⟨hroles, hpages, habove⟩ := hops
  obtain ⟨letter, rest, hlog, hletter, hrest⟩ := List.map_eq_cons_iff.mp hroles
  obtain ⟨border, none, rfl, hborder, hnone⟩ := List.map_eq_cons_iff.mp hrest
  obtain rfl := List.map_eq_nil_iff.mp hnone
  dsimp only at hpages habove
  rw [hlog] at hpages habove
  obtain ⟨hletterPage, hpages⟩ := List.cons.inj hpages
  refine ⟨.fromValue looseSource rfl, by decide +kernel, sizesIn_standard, by decide +kernel, t, letter, border, hr,
    hlog, hletter, hborder, (List.cons.inj hpages).1.trans hletterPage.symm, ?_⟩
  simpa using habove

end DocTemplate.Page
