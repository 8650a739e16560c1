import DocTemplate.Proofs.Page.Performing

/-!
# The course of drawing

Where page starts do not fail, a document is always drawn: every act is then a sequence of marks, each of
which calls the canvas, records something on the page of the cursor, moves the cursor or turns the page.
-/

namespace DocTemplate.Page

variable {α : Type} [Length α]

/-- A page hook that returns for a title: it does not fail, and no call that it makes is refused. -/
def PageHook.Returns (hook : PageHook α) (title : String) : Prop :=
  ∀ page, (hook page title).2 = none ∧ ∀ c ∈ (hook page title).1, c.refusal? = none

/-! ## Page starts -/

namespace Setup

variable (d : Setup α)

/-- The sheet after the page of the cursor was started. -/
def started (s : Sheet α) : Sheet α :=
  { s with log := withCalls (s.log.push (.pageStart s.page d.title)) (d.hook s.page d.title).1 }

/-- The sheet after the page was turned: the cursor is at the top of the next one. -/
def turned (s : Sheet α) : Sheet α :=
  d.started ⟨d.geometry.top, s.page + 1, s.log.push (.call .showPage)⟩

/-- The sheet after a document was begun. -/
def opened : Sheet α :=
  d.started ⟨d.geometry.top, 1, #[.call (.setTitle d.title)]⟩

variable {d} (hhook : d.hook.Returns d.title)

include hhook

theorem run_startPage (s : Sheet α) : d.startPage.run.run s = (.ok (), d.started s) := by
  obtain ⟨hfailure, hcalls⟩ := hhook s.page
  rw [run_startPage_eq, run_bind, run_callAll hcalls, hfailure]
  rfl

theorem run_newPage (s : Sheet α) : d.newPage.run.run s = (.ok (), d.turned s) := by
  have hrun : d.newPage.run.run s =
      d.startPage.run.run ⟨d.geometry.top, s.page + 1, s.log.push (.call .showPage)⟩ := by
    unfold newPage
    rw [run_bind, run_call]
    rfl
  rw [hrun, run_startPage hhook]
  rfl

theorem run_opening : d.opening.run.run (blank d.geometry) = (.ok (), d.opened) := by
  have hrun : d.opening.run.run (blank d.geometry) =
      d.startPage.run.run ⟨d.geometry.top, 1, #[.call (.setTitle d.title)]⟩ := by
    unfold opening
    rw [run_bind, run_call]
    rfl
  rw [hrun, run_startPage hhook]
  rfl

end Setup

/-- On standard pages the frame returns, whatever the title. -/
theorem returns_standardFrame (title : String) :
    (frameHook .standard .standard : PageHook Float).Returns title := by
  intro page
  have hfont : Preset.standard.font false false = .ok "Helvetica" := rfl
  have habove : Preset.standard.size .headerSize = .ok (Number.ofInt 9) := rfl
  have hbelow : Preset.standard.size .footerSize = .ok (Number.ofInt 8) := rfl
  have hframe : frameHook .standard .standard page title =
      (header .standard .standard "Helvetica" title (Number.ofInt 9) ++
        footer .standard "Helvetica" page (Number.ofInt 8), none) := by
    simp only [frameHook, frame, hfont, habove, hbelow]
    rfl
  rw [hframe]
  refine ⟨rfl, fun c hc => ?_⟩
  have hnone {x : Option Failure} (h : x.isNone) : x = none := Option.isNone_iff_eq_none.mp h
  -- The title and the number of the page stand in texts only, and no text is refused.
  have htext (align : Align) (x y : Float) (text : String)
      (h : (Call.drawText align x y "").refusal?.isNone) :
      (Call.drawText align x y text).refusal? = none := hnone h
  simp only [header, footer, List.cons_append, List.nil_append, List.mem_cons, List.not_mem_nil,
    or_false] at hc
  rcases hc with rfl | rfl | rfl | rfl | rfl | rfl | rfl | rfl
  · exact hnone (by decide +kernel)
  · exact hnone (by decide +kernel)
  · exact hnone (by decide +kernel)
  · exact hnone (by decide +kernel)
  · exact hnone (by decide +kernel)
  · exact htext _ _ _ _ (by decide +kernel)
  · exact hnone (by decide +kernel)
  · exact htext _ _ _ _ (by decide +kernel)

/-! ## Marks -/

/-- One thing that drawing does to a sheet. -/
inductive Mark (d : Setup α) : Sheet α → Sheet α → Prop
  | call (s : Sheet α) (c : Call α) (h : c.endsPage = false) :
    Mark d s { s with log := s.log.push (.call c) }
  | op (s : Sheet α) (o : Op α) (h : o.page = s.page) : Mark d s { s with log := s.log.push (.op o) }
  | move (s : Sheet α) (y : α) : Mark d s { s with y }
  | turn (s : Sheet α) : Mark d s (d.turned s)

/-- Marks one after the other. -/
abbrev Marks (d : Setup α) : Sheet α → Sheet α → Prop := Relation.ReflTransGen (Mark d)

section

variable {d : Setup α} {Q : Float → Prop} {s t : Sheet α}

theorem Act.marks (h : Act d Q s t) (hhook : d.hook.Returns d.title) : Marks d s t := by
  cases h with
  | call c hpage hquiet => exact .single (.call s c hpage)
  | stroke c o hc hshows hplaced =>
    exact .tail (.single (.call s c (Call.endsPage_of_draws hshows.draws_eq))) (.op _ o hshows.page_eq)
  | row x y width height hplaced => exact .single (.op s _ rfl)
  | lower h hdrop => exact .single (.move s (s.y - h))
  | turn =>
    unfold after
    rw [Setup.run_newPage hhook]
    exact .single (.turn s)

theorem Acts.marks (h : Acts d Q s t) (hhook : d.hook.Returns d.title) : Marks d s t := by
  induction h with
  | refl => exact .refl
  | tail _ hact ih => exact ih.trans (hact.marks hhook)

/-- A document whose pages can be started is drawn: by marks, from where it was opened. -/
theorem document_eq_ok (hhook : d.hook.Returns d.title) (layout : Layout) :
    ∃ s, Marks d d.opened s ∧ d.document layout = .ok ⟨s.page, s.log.push (.call .showPage)⟩ := by
  have hpreset : d.preset.SizesIn fun _ => True := ⟨fun _ _ _ => trivial, fun _ _ _ => trivial⟩
  have hacts := acts_placeAll hpreset d.opened layout fun _ _ _ _ => trivial
  refine ⟨d.placeAll d.opened layout, Acts.marks hacts hhook, ?_⟩
  unfold Setup.document
  rw [Setup.run_opening hhook]

end

end DocTemplate.Page
