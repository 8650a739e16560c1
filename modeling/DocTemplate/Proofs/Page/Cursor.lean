import DocTemplate.Proofs.Page.Descent
import DocTemplate.Proofs.Page.Margin

/-!
# The cursor

The sizes of a loaded layout are numbers and not negative, whatever they were given as, but for those of
namesakes. Where those are too, the cursor only goes down on its page, and it is a number throughout, also where
sizes are infinite. Main statement: `cursor_goes_down`.
-/

namespace DocTemplate.Page

open DocTemplate.Number (isFinite isNaN floatText)

variable {d : Setup Float} {s t : Sheet Float} {y h : Float}

theorem Drop.nonneg (hdrop : Drop d (0 ≤ ·) y h) (hcontent : 0.0 ≤ d.geometry.contentHeight) : 0.0 ≤ h := by
  cases hdrop with
  | size x hx => exact hx
  | drawn k h hpart hdrawn => exact hpart.nonneg (fun _ hx => hx) hcontent

/-- From a cursor that is not above the top of its page each act leads to one that is no higher on its page,
or to the top of the next page. -/
theorem Act.descends (hact : Act d (0 ≤ ·) s t) (hcontent : 0.0 ≤ d.geometry.contentHeight)
    (htop : isFinite d.geometry.top = true) (hs : s.y ≤ d.geometry.top) :
    s.spot ≤ t.spot ∧ t.y ≤ d.geometry.top := by
  cases hact with
  | call c hpage hquiet => exact ⟨Spot.le_self (Number.left_of_le hs), hs⟩
  | stroke c o hc hshows hplaced => exact ⟨Spot.le_self (Number.left_of_le hs), hs⟩
  | row x y width height hplaced => exact ⟨Spot.le_self (Number.left_of_le hs), hs⟩
  | lower h hdrop =>
    have hle : s.y - h ≤ s.y := Number.sub_le_self_of_le hs htop (hdrop.nonneg hcontent)
    exact ⟨Spot.le_lower hle, Number.double_le_trans hle hs⟩
  | turn =>
    obtain ⟨made, -, hafter⟩ := d.after_newPage s
    rw [hafter]
    exact ⟨.inl (Nat.lt_succ_self s.page), Number.isNumber_of_isFinite htop⟩

theorem Acts.descends (hacts : Acts d (0 ≤ ·) s t) (hcontent : 0.0 ≤ d.geometry.contentHeight)
    (htop : isFinite d.geometry.top = true) (hs : s.y ≤ d.geometry.top) :
    s.spot ≤ t.spot ∧ t.y ≤ d.geometry.top := by
  induction hacts with
  | refl => exact ⟨Spot.le_self (Number.left_of_le hs), hs⟩
  | tail _ hact ih =>
    obtain ⟨hle, hlast⟩ := hact.descends hcontent htop ih.2
    exact ⟨Spot.le_trans ih.1 hle, hlast⟩

/-- The sizes of a loaded layout that are checked are numbers and not negative. If that holds of those of namesakes as
well, a document that shows the layout is drawn by acts, and between any two sheets on the way the cursor has stayed on
its page and not gone up, or it has got to a further page; it is a number throughout. -/
theorem cursor_goes_down (layout : Layout) (hlayout : layout.IsLoaded) :
    (∀ k ∈ layout.components, ∀ x ∈ k.checkedSizes, 0 ≤ x ∧ isNaN x = false) ∧
    ((∀ x ∈ layout.looseSizes, 0 ≤ x) →
      ∀ (g : Geometry Float) (p : Preset) (hook : Option (PageHook Float)) (pictures : Pictures Float)
        (context : Value) (title : Option String) (drawn : Drawn Float), p.SizesIn (0 ≤ ·) → 0.0 ≤ g.contentHeight →
        isFinite g.top = true → drawDocument g p hook pictures layout context title = .ok drawn →
        let d : Setup Float :=
          ⟨g, p, context, (given? title).getD defaultTitle, hook.getD (frameHook g p), pictures⟩
        (∃ s, Acts d (0 ≤ ·) (after d.opening (blank g)) s ∧
          drawn = ⟨s.page, s.log.push (.call .showPage)⟩) ∧
        ∀ s t, Acts d (0 ≤ ·) (after d.opening (blank g)) s → Acts d (0 ≤ ·) s t →
          isNaN t.y = false ∧ (s.page < t.page ∨ s.page = t.page ∧ t.y ≤ s.y)) := by
  refine ⟨fun k hk x hx => ?_, ?_⟩
  · have hnonneg := hlayout.sizedAlone hk x hx
    exact ⟨hnonneg, Number.isNaN_of_le_self (Number.right_of_le hnonneg)⟩
  intro hloose g p hook pictures context title drawn hpreset hcontent htop hdrawn d
  refine ⟨acts_of_document (d := d) hpreset (hlayout.nonneg hloose) hdrawn, fun s t hs ht => ?_⟩
  have hopened : (after d.opening (blank g)).y ≤ g.top := (withinMargins_opening (d := d) hcontent).cursor
  have hstart : s.y ≤ g.top := (hs.descends hcontent htop hopened).2
  obtain ⟨hle, hend⟩ := ht.descends hcontent htop hstart
  exact ⟨Number.isNaN_of_le_self (Number.left_of_le hend), hle⟩

/-- A box with a gap beyond all doubles above a text, and with sizes that are given as a text and as a flag. -/
def gapSource : Value :=
  .text ("[\x7b\"id\":\"fold\",\"type\":\"box\",\"style\":\x7b\"padding\":\" 8.5 \"\x7d,\"children\":[" ++
    "\x7b\"id\":\"gap\",\"type\":\"spacer\",\"size\":1e999\x7d," ++
    "\x7b\"id\":\"note\",\"type\":\"text\",\"text\":\"Dear Ida\"," ++
    "\"style\":\x7b\"marginBottom\":true\x7d\x7d]\x7d]")

/-- What the gap is drawn with. -/
def gapSetup : Setup Float :=
  ⟨.standard, .standard, .record [], defaultTitle, frameHook .standard .standard, pngPictures⟩

/-- The gap is on the second page, from where the cursor goes down without end, and the text on the third. -/
theorem cursor_goes_down_gap : ∃ (layout : Layout) (drawn : Drawn Float), layout.IsLoaded ∧
    (layout.sizes.map fun x => String.ofList (floatText x)) = ["8.5", "inf", "1.0"] ∧
    gapSetup.preset.SizesIn (0 ≤ ·) ∧ 0.0 ≤ gapSetup.geometry.contentHeight ∧
    isFinite gapSetup.geometry.top = true ∧
    drawDocument .standard .standard none pngPictures layout (.record []) none = .ok drawn ∧
    drawn.pageCount = 3 ∧
    (∀ k ∈ layout.components, ∀ x ∈ k.checkedSizes, 0 ≤ x ∧ isNaN x = false) ∧
    ∀ s t, Acts gapSetup (0 ≤ ·) (after gapSetup.opening (blank .standard)) s → Acts gapSetup (0 ≤ ·) s t →
      isNaN t.y = false ∧ (s.page < t.page ∨ s.page = t.page ∧ t.y ≤ s.y) := by
  have hload : (loadLayout gapSource).toOption.any fun layout =>
      (layout.sizes.map fun x => String.ofList (floatText x)) == ["8.5", "inf", "1.0"] &&
        layout.looseSizes.isEmpty &&
          (drawDocument (.standard : Geometry Float) .standard none pngPictures layout (.record []) none).toOption.any
            fun drawn => drawn.pageCount == 3 := by
    decide +kernel
  obtain ⟨layout, hload, hdrawn⟩ := exists_ok_of_any hload
  obtain ⟨hsizes, hdrawn⟩ := Bool.and_eq_true_iff.mp hdrawn
  obtain ⟨hsizes, hnone⟩ := Bool.and_eq_true_iff.mp hsizes
  obtain ⟨drawn, hdrawn, hpages⟩ := exists_ok_of_any hdrawn
  have hloaded : layout.IsLoaded := .fromValue gapSource hload
  have hpreset : gapSetup.preset.SizesIn (0 ≤ ·) :=
    ⟨fun s x h => (sizesIn_standard.size s x h).nonneg, fun l x h => (sizesIn_standard.heading l x h).nonneg⟩
  have hcontent : 0.0 ≤ gapSetup.geometry.contentHeight := by decide +kernel
  have htop : isFinite gapSetup.geometry.top = true := by decide +kernel
  have hloose : ∀ x ∈ layout.looseSizes, 0 ≤ x := by
    rw [List.isEmpty_iff.mp hnone]
    exact List.forall_mem_nil _
  obtain ⟨hnonneg, hgoes⟩ := cursor_goes_down layout hloaded
  exact ⟨layout, drawn, hloaded, eq_of_beq hsizes, hpreset, hcontent, htop, hdrawn, eq_of_beq hpages, hnonneg,
    (hgoes hloose .standard .standard none pngPictures (.record []) none drawn hpreset hcontent htop hdrawn).2⟩

/-- A spacer of a negative size takes the cursor up on its page. -/
theorem negative_spacer_lifts_cursor :
    liftedLayout.IsLoaded ∧ gapSetup.preset.SizesIn (0 ≤ ·) ∧ 0.0 ≤ gapSetup.geometry.contentHeight ∧
      isFinite gapSetup.geometry.top = true ∧ ∃ c ∈ liftedLayout,
        (gapSetup.placeComponent (after gapSetup.opening (blank .standard)) c).page = 1 ∧
        (after gapSetup.opening (blank .standard)).page = 1 ∧
        (after gapSetup.opening (blank .standard)).y <
          (gapSetup.placeComponent (after gapSetup.opening (blank .standard)) c).y := by
  refine ⟨.fromValue liftedSource rfl, ?_, by decide +kernel, by decide +kernel, _, List.mem_cons_self, ?_, ?_, ?_⟩
  · exact ⟨fun s x h => (sizesIn_standard.size s x h).nonneg, fun l x h => (sizesIn_standard.heading l x h).nonneg⟩
  · decide +kernel
  · decide +kernel
  · decide +kernel

end DocTemplate.Page
