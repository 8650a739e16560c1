import DocTemplate.Proofs.Page.Course
import Mathlib.Data.List.Forall2

/-!
# Strokes and their record

What is recorded in a log is what the calls in it draw: stroke for stroke, with its font and on its page.
Main statement: `recorded_as_drawn`.
-/

namespace DocTemplate.Page

variable {α : Type}

/-- A page hook that leaves pages as they are: no call that it makes draws something or ends a page. -/
def PageHook.DrawsNothing (hook : PageHook α) (title : String) : Prop :=
  ∀ page, ∀ c ∈ (hook page title).1, c.draws = false ∧ c.endsPage = false

/-- The strokes of calls, one for each call that draws, where other calls have been made before. A stroke
is on the page after all those that were ended. -/
def strokesAfter (made : List (Call α)) : List (Call α) → List (Stroke α)
  | [] => []
  | c :: cs =>
    let rest := strokesAfter (made ++ [c]) cs
    if c.draws then ⟨1 + made.countP Call.endsPage, fontOf made, c⟩ :: rest else rest

/-- The strokes of calls on an empty canvas. -/
def strokes (cs : List (Call α)) : List (Stroke α) := strokesAfter [] cs

def Op.isRow (o : Op α) : Bool :=
  match o.shape with
  | .row => true
  | _ => false

/-- What is recorded in a log, but for the bands of table rows: nothing is drawn for these. -/
def drawnOps (log : Array (Event α)) : List (Op α) := (opsOf log).filter fun o => !o.isRow

/-! ## More calls -/

theorem strokesAfter_append (made cs ds : List (Call α)) :
    strokesAfter made (cs ++ ds) = strokesAfter made cs ++ strokesAfter (made ++ cs) ds := by
  induction cs generalizing made with
  | nil => simp [strokesAfter]
  | cons c cs ih => by_cases h : c.draws <;> simp [strokesAfter, h, ih]

/-- Calls that draw nothing make no strokes. -/
theorem strokesAfter_eq_nil (made : List (Call α)) {cs : List (Call α)} (h : ∀ c ∈ cs, c.draws = false) :
    strokesAfter made cs = [] := by
  induction cs generalizing made with
  | nil => rfl
  | cons c cs ih =>
    obtain ⟨hc, hcs⟩ := List.forall_mem_cons.mp h
    simp [strokesAfter, hc, ih (made ++ [c]) hcs]

theorem strokes_append_quiet (cs : List (Call α)) {ds : List (Call α)} (h : ∀ c ∈ ds, c.draws = false) :
    strokes (cs ++ ds) = strokes cs := by
  simp [strokes, strokesAfter_append, strokesAfter_eq_nil _ h]

theorem strokes_concat (cs : List (Call α)) {c : Call α} (h : c.draws = true) :
    strokes (cs ++ [c]) = strokes cs ++ [⟨1 + cs.countP Call.endsPage, fontOf cs, c⟩] := by
  simp [strokes, strokesAfter_append, strokesAfter, h]

/-! ## More in a log -/

section

variable (log : Array (Event α)) (cs : List (Call α)) (c : Call α) (o : Op α) (page : Nat) (title : String)

@[simp] theorem drawnOps_push_call : drawnOps (log.push (.call c)) = drawnOps log := by
  simp [drawnOps]

@[simp] theorem drawnOps_push_pageStart : drawnOps (log.push (.pageStart page title)) = drawnOps log := by
  simp [drawnOps]

@[simp] theorem drawnOps_withCalls : drawnOps (withCalls log cs) = drawnOps log := by
  simp [drawnOps]

theorem drawnOps_push_op : drawnOps (log.push (.op o)) = drawnOps log ++ [o].filter fun o => !o.isRow := by
  simp [drawnOps]

variable [Length α]

@[simp] theorem carriedOut_push_op : carriedOut (log.push (.op o)) = carriedOut log := by
  simp [carriedOut]

@[simp] theorem carriedOut_push_pageStart :
    carriedOut (log.push (.pageStart page title)) = carriedOut log := by
  simp [carriedOut]

theorem carriedOut_push_call :
    carriedOut (log.push (.call c)) = carriedOut log ++ [c].filter (·.refusal?.isNone) := by
  simp [carriedOut]

theorem carriedOut_withCalls :
    carriedOut (withCalls log cs) = carriedOut log ++ cs.filter (·.refusal?.isNone) := by
  simp [carriedOut]

end

/-! ## One act -/

variable [Length α] {d : Setup α} {Q : Float → Prop} {s t : Sheet α}

/-- What is recorded on a sheet is what has been drawn, and its page is the one after those that were
ended. -/
structure Faithful (s : Sheet α) : Prop where
  page_eq : s.page = 1 + (carriedOut s.log).countP Call.endsPage
  shown : List.Forall₂ Shows (strokes (carriedOut s.log)) (drawnOps s.log)

/-- Calls that neither draw nor end a page may be added. -/
theorem Faithful.withCalls (h : Faithful s) {cs : List (Call α)}
    (hcs : ∀ c ∈ cs, c.refusal? = none → c.draws = false ∧ c.endsPage = false) :
    Faithful { s with log := withCalls s.log cs } := by
  have hquiet : ∀ c ∈ cs.filter (·.refusal?.isNone), c.draws = false ∧ c.endsPage = false := by
    intro c hc
    rw [List.mem_filter, Option.isNone_iff_eq_none] at hc
    exact hcs c hc.1 hc.2
  constructor
  · have hcount : (cs.filter (·.refusal?.isNone)).countP Call.endsPage = 0 := by
      rw [List.countP_eq_zero]
      intro c hc
      simp [(hquiet c hc).2]
    rw [carriedOut_withCalls, List.countP_append, hcount]
    exact h.page_eq
  · rw [carriedOut_withCalls, strokes_append_quiet _ fun c hc => (hquiet c hc).1, drawnOps_withCalls]
    exact h.shown

theorem Faithful.stroke (h : Faithful s) {c : Call α} {o : Op α} (hc : c.refusal? = none)
    (hshows : Shows ⟨s.page, fontOf (carriedOut s.log), c⟩ o) :
    Faithful { s with log := (s.log.push (.call c)).push (.op o) } := by
  have hdraws : c.draws = true := hshows.draws_eq
  have hcalls : carriedOut ((s.log.push (.call c)).push (.op o)) = carriedOut s.log ++ [c] := by
    simp [carriedOut_push_call, hc]
  have hrow : o.isRow = false := by
    generalize (⟨s.page, fontOf (carriedOut s.log), c⟩ : Stroke α) = k at hshows
    cases hshows <;> rfl
  have hops : drawnOps ((s.log.push (.call c)).push (.op o)) = drawnOps s.log ++ [o] := by
    simp [drawnOps_push_op, hrow]
  constructor
  · simp [hcalls, Call.endsPage_of_draws hdraws, h.page_eq]
  · rw [hcalls, hops, strokes_concat _ hdraws, ← h.page_eq]
    exact List.rel_append h.shown (.cons hshows .nil)

theorem Faithful.row (h : Faithful s) {o : Op α} (ho : o.isRow = true) :
    Faithful { s with log := s.log.push (.op o) } := by
  constructor
  · simpa using h.page_eq
  · simpa [drawnOps_push_op, ho] using h.shown

theorem Faithful.startPage (h : Faithful s) (hhook : d.hook.DrawsNothing d.title) {made : List (Call α)}
    (hmade : made <+: (d.hook s.page d.title).1) : Faithful { s with log := d.pageLog s made } := by
  have hstart : Faithful { s with log := s.log.push (.pageStart s.page d.title) } :=
    ⟨by simpa using h.page_eq, by simpa using h.shown⟩
  exact hstart.withCalls fun c hc _ => hhook s.page c (hmade.subset hc)

/-- With a page that is ended, what follows stands on the next one. -/
theorem Faithful.turn (h : Faithful s) (hhook : d.hook.DrawsNothing d.title) :
    Faithful (after d.newPage s) := by
  obtain ⟨made, hmade, hafter⟩ := d.after_newPage s
  have hended : Faithful ⟨d.geometry.top, s.page + 1, s.log.push (.call .showPage)⟩ := by
    have hcalls : carriedOut (s.log.push (.call .showPage)) = carriedOut s.log ++ [.showPage] :=
      carriedOut_push_call ..
    constructor
    · simp [hcalls, Call.endsPage, h.page_eq, Nat.add_assoc]
    · rw [hcalls, strokes_append_quiet _ (by simp [Call.draws])]
      simpa using h.shown
  rw [hafter]
  exact hended.startPage hhook hmade

/-- Each act keeps the record faithful. -/
theorem Faithful.act (h : Faithful s) (hact : Act d Q s t) (hhook : d.hook.DrawsNothing d.title) :
    Faithful t := by
  cases hact with
  | call c hpage hquiet =>
    have hsilent : ∀ e ∈ [c], e.refusal? = none → e.draws = false ∧ e.endsPage = false := by
      simp only [List.mem_singleton, forall_eq]
      intro hc
      cases hdraws : c.draws with
      | false => exact ⟨rfl, hpage⟩
      | true => exact absurd hc (hquiet hdraws)
    exact h.withCalls hsilent
  | stroke c o hc hshows hplaced => exact h.stroke hc hshows
  | row x y width height hplaced => exact h.row rfl
  | lower y hdrop => exact ⟨h.page_eq, h.shown⟩
  | turn => exact h.turn hhook

/-! ## Whole documents -/

theorem Faithful.acts (h : Faithful s) (hacts : Acts d Q s t) (hhook : d.hook.DrawsNothing d.title) :
    Faithful t := by
  induction hacts with
  | refl => exact h
  | tail _ hact ih => exact ih.act hact hhook

theorem faithful_opening (hhook : d.hook.DrawsNothing d.title) :
    Faithful (after d.opening (blank d.geometry)) := by
  obtain ⟨made, hmade, hafter⟩ := d.after_opening
  have htitle : Faithful ⟨d.geometry.top, 1, #[.call (.setTitle d.title)]⟩ := ⟨rfl, .nil⟩
  rw [hafter]
  exact htitle.startPage hhook hmade

/-- The record of a document is faithful, failing components included: with a page hook that draws nothing,
what is recorded is, one by one and in order, what the calls that the canvas carries out draw. If the hook
returns there is a document. -/
theorem recorded_as_drawn (g : Geometry α) (p : Preset) (hook : PageHook α) (pictures : Pictures α)
    (layout : Layout) (context : Value) (title : Option String)
    (hhook : hook.DrawsNothing ((given? title).getD defaultTitle)) :
    (∀ drawn, drawDocument g p (some hook) pictures layout context title = .ok drawn →
      List.Forall₂ Shows (strokes (carriedOut drawn.log)) (drawnOps drawn.log)) ∧
    (hook.Returns ((given? title).getD defaultTitle) →
      ∃ drawn, drawDocument g p (some hook) pictures layout context title = .ok drawn) := by
  let d : Setup α := ⟨g, p, context, (given? title).getD defaultTitle, hook, pictures⟩
  constructor
  · intro drawn hdrawn
    have hpreset : d.preset.SizesIn fun _ => True := ⟨fun _ _ _ => trivial, fun _ _ _ => trivial⟩
    obtain ⟨s, hacts, rfl⟩ := acts_of_document (d := d) hpreset (fun _ _ => trivial) hdrawn
    have hfaithful := (faithful_opening (d := d) hhook).acts hacts hhook
    have hcalls : carriedOut (s.log.push (.call .showPage)) = carriedOut s.log ++ [.showPage] :=
      carriedOut_push_call ..
    rw [hcalls, strokes_append_quiet _ (by simp [Call.draws]), drawnOps_push_call]
    exact hfaithful.shown
  · intro hreturns
    obtain ⟨s, _, hdocument⟩ := document_eq_ok (d := d) hreturns layout
    exact ⟨_, hdocument⟩

/-- A text that is too large for the canvas above a line and a table. -/
def feesLayout : Layout :=
  [.text { id := "huge", text := some "Fees", style := some { fontSize := some Number.infinity } },
    .divider { id := "rule" },
    .table { id := "fees" } (some "fees") [{ key := "name", label := "Name" }] true]

theorem feesLayout_recorded :
    (PageHook.idle : PageHook Float).DrawsNothing "Fees" ∧
      ∃ drawn : Drawn Float, drawDocument .standard .standard (some .idle) pngPictures feesLayout
          (.record [("fees", .list [.record [("name", .text "Lunch")]])]) (some "Fees") = .ok drawn ∧
        List.Forall₂ Shows (strokes (carriedOut drawn.log)) (drawnOps drawn.log) := by
  have hidle : (PageHook.idle : PageHook Float).DrawsNothing "Fees" := by
    intro page c hc
    cases hc
  have hreturns : (PageHook.idle : PageHook Float).Returns "Fees" := by
    intro page
    exact ⟨rfl, fun c hc => by cases hc⟩
  obtain ⟨hshown, hexists⟩ := recorded_as_drawn .standard .standard .idle pngPictures feesLayout
    (.record [("fees", .list [.record [("name", .text "Lunch")]])]) (some "Fees") hidle
  obtain ⟨drawn, hdrawn⟩ := hexists hreturns
  exact ⟨hidle, drawn, hdrawn, hshown drawn hdrawn⟩

end DocTemplate.Page
