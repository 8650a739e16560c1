import DocTemplate.Proofs.Page.Course

/-!
# The account of pages

Pages are counted right, whatever is drawn and whatever fails: each page is started once, in order, and
ended once, and what is drawn stands on the pages that there are, in their order. Main statement:
`pages_are_accounted_for`.
-/

namespace DocTemplate.Page

variable {α : Type}

/-- The calls that a page hook makes on the first pages. -/
def PageHook.callsUpTo (hook : PageHook α) (title : String) (pages : Nat) : List (Call α) :=
  (List.range' 1 pages).flatMap fun page => (hook page title).1

/-- The account of a drawn document. Beside the calls of its hook, those that end a page are counted. -/
structure Accounted (hook : PageHook α) (title : String) (drawn : Drawn α) : Prop where
  starts : pageStartsOf drawn.log = (List.range' 1 drawn.pageCount).map fun page => (page, title)
  ends : (callsOf drawn.log).countP Call.endsPage =
    drawn.pageCount + (hook.callsUpTo title drawn.pageCount).countP Call.endsPage
  ordered : ((opsOf drawn.log).map Op.page).Pairwise (· ≤ ·)
  within : ∀ o ∈ opsOf drawn.log, 1 ≤ o.page ∧ o.page ≤ drawn.pageCount

/-! ## One mark -/

/-- The account while the page of the cursor is not ended. -/
structure Counted (hook : PageHook α) (title : String) (s : Sheet α) : Prop where
  starts : pageStartsOf s.log = (List.range' 1 s.page).map fun page => (page, title)
  ends : (callsOf s.log).countP Call.endsPage + 1 =
    s.page + (hook.callsUpTo title s.page).countP Call.endsPage
  ordered : ((opsOf s.log).map Op.page).Pairwise (· ≤ ·)
  within : ∀ o ∈ opsOf s.log, 1 ≤ o.page ∧ o.page ≤ s.page
  positive : 1 ≤ s.page

variable {hook : PageHook α} {title : String} {s t : Sheet α}

theorem PageHook.callsUpTo_succ (hook : PageHook α) (title : String) (pages : Nat) :
    hook.callsUpTo title (pages + 1) = hook.callsUpTo title pages ++ (hook (pages + 1) title).1 := by
  unfold callsUpTo
  rw [List.range'_1_concat, List.flatMap_append, Nat.add_comm 1 pages]
  simp

theorem Counted.call (h : Counted hook title s) {c : Call α} (hc : c.endsPage = false) :
    Counted hook title { s with log := s.log.push (.call c) } where
  starts := by simpa using h.starts
  ends := by simpa [hc] using h.ends
  ordered := by simpa using h.ordered
  within := by simpa using h.within
  positive := h.positive

/-- What is recorded on the page of the cursor stands on no earlier page than what was before it. -/
theorem Counted.op (h : Counted hook title s) {o : Op α} (ho : o.page = s.page) :
    Counted hook title { s with log := s.log.push (.op o) } where
  starts := by simpa using h.starts
  ends := by simpa using h.ends
  ordered := by
    rw [opsOf_push_op, List.map_append, List.pairwise_append]
    refine ⟨h.ordered, by simp, fun page hpage last hlast => ?_⟩
    obtain ⟨earlier, hearlier, rfl⟩ := List.mem_map.mp hpage
    rw [List.map_singleton, List.mem_singleton] at hlast
    rw [hlast, ho]
    exact (h.within earlier hearlier).2
  within := by
    intro other hother
    rw [opsOf_push_op, List.mem_append, List.mem_singleton] at hother
    rcases hother with hother | rfl
    · exact h.within other hother
    · exact ⟨by rw [ho]; exact h.positive, Nat.le_of_eq ho⟩
  positive := h.positive

theorem Counted.move (h : Counted hook title s) (y : α) : Counted hook title { s with y } :=
  ⟨h.starts, h.ends, h.ordered, h.within, h.positive⟩

variable [Length α] {d : Setup α}

/-- With a page that is ended, the next one is started. -/
theorem Counted.turn (h : Counted d.hook d.title s) : Counted d.hook d.title (d.turned s) where
  starts := by
    simp only [Setup.turned, Setup.started, pageStartsOf_withCalls, pageStartsOf_push_pageStart,
      pageStartsOf_push_call, h.starts]
    rw [List.range'_1_concat, List.map_append, Nat.add_comm 1 s.page]
    rfl
  ends := by
    have hends := h.ends
    simp only [Setup.turned, Setup.started, callsOf_withCalls, callsOf_push_pageStart,
      callsOf_push_call, PageHook.callsUpTo_succ, List.countP_append]
    simp only [List.countP_singleton, Call.endsPage, if_true]
    omega
  ordered := by simpa [Setup.turned, Setup.started] using h.ordered
  within := by
    intro o ho
    simp only [Setup.turned, Setup.started, opsOf_withCalls, opsOf_push_pageStart, opsOf_push_call]
      at ho ⊢
    obtain ⟨hfirst, hlast⟩ := h.within o ho
    exact ⟨hfirst, Nat.le_succ_of_le hlast⟩
  positive := Nat.succ_pos s.page

/-- Each mark keeps the account. -/
theorem Counted.mark (h : Counted d.hook d.title s) (hm : Mark d s t) : Counted d.hook d.title t := by
  cases hm with
  | call c hc => exact h.call hc
  | op o ho => exact h.op ho
  | move y => exact h.move y
  | turn => exact h.turn

/-! ## Whole documents -/

theorem Counted.marks (h : Counted d.hook d.title s) (hm : Marks d s t) :
    Counted d.hook d.title t := by
  induction hm with
  | refl => exact h
  | tail _ hm ih => exact ih.mark hm

theorem counted_opened (d : Setup α) : Counted d.hook d.title d.opened where
  starts := by
    simp only [Setup.opened, Setup.started, pageStartsOf_withCalls, pageStartsOf_push_pageStart]
    rfl
  ends := by
    have hcalls : d.hook.callsUpTo d.title 1 = (d.hook 1 d.title).1 := by simp [PageHook.callsUpTo]
    have htitle : callsOf #[(Event.call (.setTitle d.title) : Event α)] = [.setTitle d.title] := rfl
    simp only [Setup.opened, Setup.started, callsOf_withCalls, callsOf_push_pageStart, htitle, hcalls,
      List.countP_append]
    simp only [List.countP_singleton, Call.endsPage, Bool.false_eq_true, if_false]
    omega
  ordered := by
    simp only [Setup.opened, Setup.started, opsOf_withCalls, opsOf_push_pageStart]
    exact .nil
  within := by
    intro o ho
    simp only [Setup.opened, Setup.started, opsOf_withCalls, opsOf_push_pageStart] at ho
    cases ho
  positive := Nat.le_refl 1

omit [Length α] in
/-- With the last page ended the account is whole. -/
theorem Counted.accounted (h : Counted hook title s) :
    Accounted hook title ⟨s.page, s.log.push (.call .showPage)⟩ where
  starts := by simpa using h.starts
  ends := by
    have hends := h.ends
    rw [callsOf_push_call, List.countP_append, List.countP_singleton]
    exact hends
  ordered := by simpa using h.ordered
  within := by simpa using h.within

/-- Whatever is drawn with a page hook that returns, failing components included, there is a document, and
its pages are accounted for. -/
theorem pages_are_accounted_for (g : Geometry α) (p : Preset) (hook : Option (PageHook α))
    (pictures : Pictures α) (layout : Layout) (context : Value) (title : Option String)
    (hhook : (hook.getD (frameHook g p)).Returns ((given? title).getD defaultTitle)) :
    ∃ drawn, drawDocument g p hook pictures layout context title = .ok drawn ∧
      Accounted (hook.getD (frameHook g p)) ((given? title).getD defaultTitle) drawn := by
  let d : Setup α := ⟨g, p, context, (given? title).getD defaultTitle, hook.getD (frameHook g p), pictures⟩
  have hreturns : d.hook.Returns d.title := hhook
  obtain ⟨s, hmarks, hdocument⟩ := document_eq_ok hreturns layout
  exact ⟨_, hdocument, ((counted_opened d).marks hmarks).accounted⟩

/-- Text of an infinite size between two others: no room suffices for it, and on the next page it fails. -/
def unboundedLayout : Layout :=
  [.text { id := "above", text := some "Dear {{name}}," },
    .text { id := "unbounded", text := some "Hello", style := some { fontSize := some Number.infinity } },
    .text { id := "below", text := some "Goodbye" }]

theorem unboundedLayout_accounted :
    (frameHook .standard .standard : PageHook Float).Returns "Letter" ∧
      ∃ drawn : Drawn Float, drawDocument .standard .standard none pngPictures unboundedLayout
          (.record [("name", .text "Ida")]) (some "Letter") = .ok drawn ∧
        Accounted (frameHook .standard .standard) "Letter" drawn :=
  ⟨returns_standardFrame "Letter",
    pages_are_accounted_for .standard .standard none pngPictures unboundedLayout
      (.record [("name", .text "Ida")]) (some "Letter") (returns_standardFrame "Letter")⟩

end DocTemplate.Page
