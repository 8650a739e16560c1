import DocTemplate.Proofs.Page.Boxes

/-!
# Blank pages

A page that is turned to is drawn on at once, whatever the size of what is drawn; so no page is left blank but the
first, and that one only where what is drawn first stands in a box whose padding has taken the cursor from the top.
Main statement: `blank_page_is_above_padding`.
-/

namespace DocTemplate.Page

variable {α : Type} {new more : List (Op α)} {k m n : ℕ}

/-- Something is drawn on each page after one page, up to another. -/
structure FillsPages (m : ℕ) (new : List (Op α)) (n : ℕ) : Prop where
  le : m ≤ n
  later : ∀ page, m < page → page ≤ n → ∃ o ∈ new, o.page = page

namespace FillsPages

theorem refl (page : ℕ) (new : List (Op α)) : FillsPages page new page :=
  ⟨le_rfl, fun _ hfirst hlast => absurd (hfirst.trans_le hlast) (lt_irrefl _)⟩

theorem trans (h : FillsPages k new m) (h' : FillsPages m more n) : FillsPages k (new ++ more) n where
  le := h.le.trans h'.le
  later page hfirst hlast := by
    rcases Nat.lt_or_ge m page with hlate | hearly
    · obtain ⟨o, ho, hpage⟩ := h'.later page hlate hlast
      exact ⟨o, List.mem_append_right _ ho, hpage⟩
    · obtain ⟨o, ho, hpage⟩ := h.later page hfirst hearly
      exact ⟨o, List.mem_append_left _ ho, hpage⟩

end FillsPages

variable [Length α] {d : Setup α} {Q : Float → Prop} {s t u : Sheet α} {c e : Spot α}

/-- Where room is made for something, it is on the same page or on the next one, which it fills. -/
theorem fills_enter {height : α} (hsome : ∃ o ∈ new, o.page = (d.enter height c).2.page) :
    FillsPages c.page new (d.enter height c).2.page := by
  by_cases hroom : c.y - height < d.geometry.margin ∧ c.y < d.geometry.top
  · have hnext : (d.enter height c).2.page = c.page + 1 := by rw [Setup.enter, if_pos hroom]
    rw [hnext] at hsome ⊢
    refine ⟨Nat.le_succ c.page, fun page hfirst hlast => ?_⟩
    rwa [le_antisymm hlast hfirst]
  · have hsame : (d.enter height c).2.page = c.page := by rw [Setup.enter, if_neg hroom]
    rw [hsame]
    exact .refl c.page new

theorem Strips.fills (h : Strips d Q c new e) : FillsPages c.page new e.page := by
  induction h with
  | nil c => exact .refl c.page []
  | cons height hsome hhangs _ ih =>
    obtain ⟨o, ho, -⟩ := hsome
    exact (fills_enter ⟨o, ho, (hhangs o ho).page⟩).trans ih

/-- On a page that is not gone down from the top, what is drawn first is drawn on it. -/
theorem Strips.exists_on_page (h : Strips d Q c new e) (hfresh : ¬c.y < d.geometry.top) :
    (new = [] ∧ e = c) ∨ ∃ o ∈ new, o.page = c.page := by
  cases h with
  | nil => exact .inl ⟨rfl, rfl⟩
  | @cons _ _ ops more height hsome hhangs _ =>
    obtain ⟨o, ho, -⟩ := hsome
    have hstay : (d.enter height c).2 = c := by
      rw [Setup.enter, if_neg fun hroom => hfresh hroom.2]
    have hpage := (hhangs o ho).page
    rw [hstay] at hpage
    exact .inr ⟨o, List.mem_append_left _ ho, hpage⟩

variable (d) in
/-- What is drawn from a spot on fills the pages that are turned to; and on a page that is not gone down from the top it
is drawn at once, if anything is. -/
structure FillsOn (c : Spot α) (new : List (Op α)) (e : Spot α) : Prop where
  fills : FillsPages c.page new e.page
  atOnce : ¬c.y < d.geometry.top → (new = [] ∧ e = c) ∨ ∃ o ∈ new, o.page = c.page

theorem Lays.fillsOn (h : Lays d Q s t) : Adds (FillsOn d) s t := by
  obtain ⟨new, hnew, hstrips⟩ := h
  exact ⟨new, hnew, hstrips.fills, hstrips.exists_on_page⟩

/-! ## Padding at the start -/

/-- What is drawn first, from a sheet on, is in a box that is shown and whose padding takes the cursor below the top of
its page. -/
inductive Setup.StartsPadded (d : Setup α) : Sheet α → List Component → Prop
  | box {s : Sheet α} {common : Common} {cs ks : List Component} {pad : Float}
      (hvisible : (Component.box common cs).isVisible d.context = .ok true)
      (hpad : d.preset.padding (Component.box common cs).style = .ok pad)
      (hlow : (s.lower (Length.ofFloat pad)).y < d.geometry.top) : d.StartsPadded s (.box common cs :: ks)
  | inside {s : Sheet α} {common : Common} {cs ks : List Component} {pad : Float}
      (hvisible : (Component.box common cs).isVisible d.context = .ok true)
      (hpad : d.preset.padding (Component.box common cs).style = .ok pad)
      (h : d.StartsPadded (s.lower (Length.ofFloat pad)) cs) : d.StartsPadded s (.box common cs :: ks)
  | behind {s : Sheet α} {k : Component} {ks : List Component}
      (hsilent : opsOf (d.placeComponent s k).log = opsOf s.log)
      (h : d.StartsPadded (d.placeComponent s k) ks) : d.StartsPadded s (k :: ks)

/-- Whether a component moves the cursor without drawing anything: what is shown as a spacer does, and what has a margin
below it. -/
def isSpaced (k : Component) : Bool :=
  k.shownKind? == some .spacer || (nonzero? k.style.marginBottom).isSome

theorem ne_spacer_of_not_isSpaced {k : Component} (hk : isSpaced k = false) : k.shownKind? ≠ some .spacer := by
  rw [isSpaced, Bool.or_eq_false_iff] at hk
  simpa using hk.1

theorem leaveMargin_of_not_isSpaced {k : Component} (hk : isSpaced k = false) (s : Sheet α) :
    leaveMargin k.style s = s := by
  rw [isSpaced, Bool.or_eq_false_iff] at hk
  rw [leaveMargin, Option.isNone_iff_eq_none.mp (Option.isSome_eq_false_iff.mp hk.2)]

/-- A component that holds no others and leaves no room draws at once, or nothing at all. -/
theorem fillsOn_drawKind {k : Component} (hbox : ∀ common cs, k ≠ .box common cs) (hk : isSpaced k = false)
    (h : (d.drawKind (pure ()) k).run.run s = (.ok (), t)) : Adds (FillsOn d) s t := by
  by_cases hframed : k.shownKind? = some .box
  · obtain ⟨pad, inset, u, -, rfl, hborder⟩ := run_emptyBox_ok hbox hframed h
    have hpage : t.page = s.page := hborder.page
    refine ⟨_, hborder.ops, ?_, fun _ => .inr ⟨_, List.mem_singleton_self _, rfl⟩⟩
    change FillsPages s.page _ t.page
    rw [hpage]
    exact .refl _ _
  · have hpreset : d.preset.SizesIn fun _ => True := ⟨fun _ _ _ => trivial, fun _ _ _ => trivial⟩
    exact (lays_drawKind hpreset (fun _ _ => trivial) hframed (ne_spacer_of_not_isSpaced hk) h).fillsOn

/-- What components draw fills the pages that are turned to; and the page they begin at the top of as well, unless they
start with a padding. -/
structure FillsPagesFrom (d : Setup α) (s : Sheet α) (ks : List Component) (new : List (Op α))
    (t : Sheet α) : Prop where
  ops : opsOf t.log = opsOf s.log ++ new
  fills : FillsPages s.page new t.page
  first : ¬s.y < d.geometry.top → s.page < t.page → (∃ o ∈ new, o.page = s.page) ∨ d.StartsPadded s ks

namespace FillsPagesFrom

variable {v : Sheet α} {inner : List (Op α)} {ks cs : List Component}

theorem nil (s : Sheet α) : FillsPagesFrom d s [] [] s :=
  ⟨(List.append_nil _).symm, .refl _ _, fun _ hpage => absurd hpage (Nat.lt_irrefl _)⟩

/-- A component that draws at once, or nothing at all, comes before others. -/
theorem behind {k : Component} (hplaced : d.placeComponent s k = t) (hadds : Adds (FillsOn d) s t)
    (h : FillsPagesFrom d t ks more u) : ∃ new, FillsPagesFrom d s (k :: ks) new u := by
  obtain ⟨new, hnew, hfillsOn⟩ := hadds
  refine ⟨new ++ more, by rw [h.ops, hnew, List.append_assoc], hfillsOn.fills.trans h.fills, ?_⟩
  intro hfresh hpage
  rcases hfillsOn.atOnce hfresh with ⟨rfl, hspot⟩ | ⟨o, ho, hfirst⟩
  · -- Nothing was drawn, so that the page is as fresh as it was.
    have hy : t.y = s.y := congrArg Spot.y hspot
    have hsame : t.page = s.page := congrArg Spot.page hspot
    rw [← hy] at hfresh
    rw [← hsame] at hpage ⊢
    refine (h.first hfresh hpage).imp id fun hpadded => .behind ?_ ?_
    · rw [hplaced, hnew, List.append_nil]
    · rwa [hplaced]
  · exact .inl ⟨o, List.mem_append_left _ ho, hfirst⟩

/-- A box that is shown is drawn around what is in it, and comes before others. -/
theorem around {common : Common} {pad : Float} {inset : α}
    (hvisible : (Component.box common cs).isVisible d.context = .ok true)
    (hpad : d.preset.padding (Component.box common cs).style = .ok pad)
    (hinner : FillsPagesFrom d (s.lower (Length.ofFloat pad)) cs inner t)
    (hborder : Stays (t.lower (Length.ofFloat pad)) [d.border inset s.spot (t.lower (Length.ofFloat pad)).spot] u)
    (h : FillsPagesFrom d u ks more v) : ∃ new, FillsPagesFrom d s (.box common cs :: ks) new v := by
  have hbox : FillsPages s.page (inner ++ [d.border inset s.spot (t.lower (Length.ofFloat pad)).spot]) u.page := by
    rw [hborder.page]
    exact hinner.fills.trans (.refl t.page _)
  refine ⟨_, ?_, hbox.trans h.fills, fun hfresh _ => ?_⟩
  · rw [h.ops, hborder.ops]
    change opsOf t.log ++ _ ++ _ = _
    rw [hinner.ops]
    simp [Sheet.lower]
  · rcases hinner.fills.le.eq_or_lt with hsame | hless
    · -- The border stands on the page where the box begins.
      exact .inl ⟨_, List.mem_append_left _ (List.mem_append_right _ List.mem_cons_self), hsame.symm⟩
    · by_cases hlow : (s.lower (Length.ofFloat pad)).y < d.geometry.top
      · exact .inr (.box hvisible hpad hlow)
      · rcases hinner.first hlow hless with ⟨o, ho, hpage⟩ | hpadded
        · exact .inl ⟨o, List.mem_append_left _ (List.mem_append_left _ ho), hpage⟩
        · exact .inr (.inside hvisible hpad hpadded)

end FillsPagesFrom

theorem Draws.fillsPagesFrom {ks : List Component} (h : Draws d s ks t)
    (hks : ∀ k ∈ Component.subtrees ks, isSpaced k = false) : ∃ new, FillsPagesFrom d s ks new t := by
  induction h with
  | nil s => exact ⟨[], .nil s⟩
  | @single s t u k ks hplain hk _ ih =>
    rw [Component.subtrees] at hks
    have hspaced := hks k (List.mem_append_left _ k.mem_subtree)
    obtain ⟨more, hmore⟩ := ih fun k hk => hks k (List.mem_append_right _ hk)
    have hadds : Adds (FillsOn d) s t := by
      rcases run_single_ok hplain hk with rfl | ⟨hbox, v, hrun, rfl⟩
      · exact (Lays.refl (Q := fun _ => True) _).fillsOn
      · rw [leaveMargin_of_not_isSpaced hspaced]
        exact fillsOn_drawKind hbox hspaced hrun
    exact FillsPagesFrom.behind (d.placeComponent_of_drawOrFail hk) hadds hmore
  | @box s t u v common cs ks pad inset hvisible hpad _ hborder _ ihinside ih =>
    rw [Component.subtrees, Component.subtree] at hks
    have hspaced := hks _ (List.mem_append_left _ List.mem_cons_self)
    obtain ⟨inner, hinner⟩ := ihinside fun k hk => hks k (List.mem_append_left _ (List.mem_cons_of_mem _ hk))
    obtain ⟨more, hmore⟩ := ih fun k hk => hks k (List.mem_append_right _ hk)
    rw [leaveMargin_of_not_isSpaced hspaced] at hmore
    exact FillsPagesFrom.around hvisible hpad hinner hborder hmore

/-! ## Whole documents -/

/-- A document that was opened is at the top of its first page, and nothing is drawn on it. -/
theorem spot_after_opening (d : Setup α) : (after d.opening (blank d.geometry)).spot = ⟨1, d.geometry.top⟩ ∧
    opsOf (after d.opening (blank d.geometry)).log = [] := by
  obtain ⟨made, -, hafter⟩ := d.after_opening
  have hnone : opsOf (#[.call (.setTitle d.title)] : Array (Event α)) = [] := rfl
  rw [hafter]
  refine ⟨rfl, ?_⟩
  simp only [Setup.pageLog, opsOf_withCalls, opsOf_push_pageStart, hnone]

/-- A document in which nothing fails is its components, drawn where it was opened. -/
theorem draws_of_documentOrFail {layout : Layout} {drawn : Drawn α} (h : d.documentOrFail layout = .ok drawn) :
    ∃ t, Draws d (after d.opening (blank d.geometry)) layout t ∧ drawn = ⟨t.page, t.log.push (.call .showPage)⟩ := by
  rw [Setup.documentOrFail] at h
  split at h
  · cases h
  · next t hrun =>
    obtain ⟨_, u, hopening, hrest⟩ := run_bind_ok hrun
    have hopened : after d.opening (blank d.geometry) = u := congrArg Prod.snd hopening
    rw [hopened]
    exact ⟨t, draws_of_drawAllOrFail hrest, (Except.ok.inj h).symm⟩

/-- In a document without spacers and margins in which nothing fails, each page after the first one is drawn on. So is
the first one if there are others, unless what is drawn first is in a box whose padding takes the cursor below the top:
room is then made on the next page for what is higher than a page. -/
theorem blank_page_is_above_padding (d : Setup Float) (layout : Layout) (drawn : Drawn Float)
    (hlayout : ∀ k ∈ layout.components, isSpaced k = false) (hdrawn : d.documentOrFail layout = .ok drawn) :
    d.document layout = .ok drawn ∧
      (∀ page, 1 < page → page ≤ drawn.pageCount → ∃ o ∈ opsOf drawn.log, o.page = page) ∧
      (1 < drawn.pageCount → (∃ o ∈ opsOf drawn.log, o.page = 1) ∨
        d.StartsPadded (after d.opening (blank d.geometry)) layout) := by
  refine ⟨d.document_of_documentOrFail hdrawn, ?_⟩
  obtain ⟨t, hdraws, rfl⟩ := draws_of_documentOrFail hdrawn
  obtain ⟨new, hops, hfills, hfirst⟩ := hdraws.fillsPagesFrom hlayout
  obtain ⟨hspot, hnone⟩ := spot_after_opening d
  have hpage : (after d.opening (blank d.geometry)).page = 1 := congrArg Spot.page hspot
  have hy : (after d.opening (blank d.geometry)).y = d.geometry.top := congrArg Spot.y hspot
  rw [hnone, List.nil_append] at hops
  rw [hpage] at hfills
  rw [hpage, hy] at hfirst
  rw [opsOf_push_call, hops]
  exact ⟨hfills.later, hfirst (Number.not_lt_self _)⟩

/-- A picture that is higher than a page, in a box. -/
def framedPicture : Component := .box { id := "frame" } [.image { id := "picture" } (some "p.png") none (some 1000.0)]

/-- What a framed picture is drawn with. -/
def pictureSetup : Setup Float :=
  ⟨.standard, .standard, .record [], defaultTitle, frameHook .standard .standard, pngPictures⟩

/-- The picture is moved to the second page, and nothing is left on the first one. -/
theorem framed_picture_leaves_page_blank :
    (∀ k ∈ Layout.components [framedPicture], isSpaced k = false) ∧
      0.0 < pictureSetup.geometry.contentWidth ∧ 0.0 < pictureSetup.geometry.contentHeight ∧
      ∃ drawn, pictureSetup.documentOrFail [framedPicture] = .ok drawn ∧
        drawDocument .standard .standard none pngPictures [framedPicture] (.record []) none = .ok drawn ∧
        drawn.pageCount = 2 ∧ ∀ o ∈ opsOf drawn.log, o.page ≠ 1 := by
  have hdrawn : (pictureSetup.documentOrFail [framedPicture]).toOption.any fun drawn =>
      drawn.pageCount == 2 && (opsOf drawn.log).all fun o => o.page != 1 := by decide +kernel
  obtain ⟨drawn, hdrawn, hpages⟩ := exists_ok_of_any hdrawn
  rw [Bool.and_eq_true_iff, beq_iff_eq, List.all_eq_true] at hpages
  refine ⟨by decide +kernel, by decide +kernel, by decide +kernel, drawn, hdrawn,
    pictureSetup.document_of_documentOrFail hdrawn, hpages.1, fun o ho => ?_⟩
  simpa using hpages.2 o ho

theorem letter_and_framed_picture_fill_pages :
    ∃ drawn,
      pictureSetup.documentOrFail [.text { id := "letter", text := some "Dear Ida" }, framedPicture] = .ok drawn ∧
      drawn.pageCount = 2 ∧ ∃ o ∈ opsOf drawn.log, o.page = 2 := by
  have hdrawn : (pictureSetup.documentOrFail [.text { id := "letter", text := some "Dear Ida" },
      framedPicture]).toOption.any fun drawn => drawn.pageCount == 2 := by decide +kernel
  obtain ⟨drawn, hdrawn, hpages⟩ := exists_ok_of_any hdrawn
  rw [beq_iff_eq] at hpages
  have hfilled := blank_page_is_above_padding pictureSetup _ drawn (by decide +kernel) hdrawn
  exact ⟨drawn, hdrawn, hpages, hfilled.2.1 2 (by decide) hpages.ge⟩

end DocTemplate.Page
