import DocTemplate.Page.Document
import DocTemplate.Proofs.Action

/-!
# The log of a document

What a log holds once something is added to it, and what the simplest actions add: a call, several calls,
and the calls for the start of a page.
-/

namespace DocTemplate.Page

namespace Call

variable {α : Type}

/-- Whether a call ends a page. -/
def endsPage : Call α → Bool
  | .showPage => true
  | _ => false

/-- Whether a call draws something. -/
def draws : Call α → Bool
  | .drawText .. | .drawLine .. | .drawRect .. | .drawRoundRect .. | .drawImage .. => true
  | _ => false

theorem endsPage_of_draws {c : Call α} (h : c.draws = true) : c.endsPage = false := by
  cases c <;> first | rfl | cases h

end Call

variable {α β : Type}

/-- A log with calls added. -/
def withCalls (log : Array (Event α)) (cs : List (Call α)) : Array (Event α) :=
  cs.foldl (fun log c => log.push (.call c)) log

theorem toList_withCalls (log : Array (Event α)) (cs : List (Call α)) :
    (withCalls log cs).toList = log.toList ++ cs.map Event.call := by
  induction cs generalizing log with
  | nil => simp [withCalls]
  | cons c cs ih =>
    have hstep : withCalls log (c :: cs) = withCalls (log.push (.call c)) cs := rfl
    rw [hstep, ih]
    simp

theorem filterMap_withCalls (log : Array (Event α)) (cs : List (Call α)) (f : Event α → Option β) :
    (withCalls log cs).toList.filterMap f =
      log.toList.filterMap f ++ cs.filterMap fun c => f (.call c) := by
  rw [toList_withCalls, List.filterMap_append, List.filterMap_map]
  rfl

section

variable (log : Array (Event α)) (cs : List (Call α)) (c : Call α) (o : Op α) (page : Nat) (title : String)

@[simp] theorem pageStartsOf_push_call : pageStartsOf (log.push (.call c)) = pageStartsOf log := by
  simp [pageStartsOf]

@[simp] theorem pageStartsOf_push_op : pageStartsOf (log.push (.op o)) = pageStartsOf log := by
  simp [pageStartsOf]

@[simp] theorem pageStartsOf_push_pageStart :
    pageStartsOf (log.push (.pageStart page title)) = pageStartsOf log ++ [(page, title)] := by
  simp [pageStartsOf]

@[simp] theorem pageStartsOf_withCalls : pageStartsOf (withCalls log cs) = pageStartsOf log := by
  simp [pageStartsOf, filterMap_withCalls]

@[simp] theorem callsOf_push_call : callsOf (log.push (.call c)) = callsOf log ++ [c] := by
  simp [callsOf]

@[simp] theorem callsOf_push_op : callsOf (log.push (.op o)) = callsOf log := by
  simp [callsOf]

@[simp] theorem callsOf_push_pageStart :
    callsOf (log.push (.pageStart page title)) = callsOf log := by
  simp [callsOf]

@[simp] theorem callsOf_withCalls : callsOf (withCalls log cs) = callsOf log ++ cs := by
  simp [callsOf, filterMap_withCalls]

@[simp] theorem opsOf_push_call : opsOf (log.push (.call c)) = opsOf log := by
  simp [opsOf]

@[simp] theorem opsOf_push_op : opsOf (log.push (.op o)) = opsOf log ++ [o] := by
  simp [opsOf]

@[simp] theorem opsOf_push_pageStart : opsOf (log.push (.pageStart page title)) = opsOf log := by
  simp [opsOf]

@[simp] theorem opsOf_withCalls : opsOf (withCalls log cs) = opsOf log := by
  simp [opsOf, filterMap_withCalls]

end

/-! ## Calls -/

variable [Length α]

theorem run_call (c : Call α) (s : Sheet α) :
    (call c).run.run s =
      (match c.refusal? with
        | some f => .error f
        | none => .ok (), { s with log := s.log.push (.call c) }) := by
  unfold call
  rw [run_bind]
  change ((match c.refusal? with
    | some f => throw f
    | none => pure () : Draw α Unit)).run.run _ = _
  cases c.refusal? <;> rfl

/-- Calls that are not refused are made, one after the other. -/
theorem run_callAll {cs : List (Call α)} (h : ∀ c ∈ cs, c.refusal? = none) (s : Sheet α) :
    (callAll cs).run.run s = (.ok (), { s with log := withCalls s.log cs }) := by
  induction cs generalizing s with
  | nil => rfl
  | cons c cs ih =>
    rw [callAll, run_bind, run_call, h c List.mem_cons_self]
    exact ih (fun e he => h e (List.mem_cons_of_mem c he)) _

/-- Calls are made up to the first one that is refused. -/
theorem after_callAll (cs : List (Call α)) (s : Sheet α) :
    ∃ made, made <+: cs ∧ after (callAll cs) s = { s with log := withCalls s.log made } := by
  induction cs generalizing s with
  | nil => exact ⟨[], List.prefix_refl [], rfl⟩
  | cons c cs ih =>
    unfold after
    rw [callAll, run_bind, run_call]
    cases hrefusal : c.refusal? with
    | some f => exact ⟨[c], ⟨cs, rfl⟩, rfl⟩
    | none =>
      obtain ⟨made, hmade, hafter⟩ := ih { s with log := s.log.push (.call c) }
      exact ⟨c :: made, List.cons_prefix_cons.mpr ⟨rfl, hmade⟩, hafter⟩

/-! ## Pages -/

namespace Setup

variable (d : Setup α)

/-- The log after the start of a page, with the calls that its hook has made. -/
def pageLog (s : Sheet α) (made : List (Call α)) : Array (Event α) :=
  withCalls (s.log.push (.pageStart s.page d.title)) made

/-- A page start makes the calls of the hook, and then fails where the hook does. -/
theorem run_startPage_eq (s : Sheet α) :
    d.startPage.run.run s = (callAll (d.hook s.page d.title).1 >>= fun _ =>
      (d.hook s.page d.title).2.elim (pure ()) throw).run.run
        { s with log := s.log.push (.pageStart s.page d.title) } := by
  refine congrArg (fun next : Draw α Unit => (callAll (d.hook s.page d.title).1 >>= fun _ => next).run.run
    { s with log := s.log.push (.pageStart s.page d.title) }) ?_
  cases (d.hook s.page d.title).2 <;> rfl

theorem after_startPage (s : Sheet α) :
    ∃ made, made <+: (d.hook s.page d.title).1 ∧
      after d.startPage s = { s with log := d.pageLog s made } := by
  obtain ⟨made, hmade, hafter⟩ := after_callAll (d.hook s.page d.title).1
    { s with log := s.log.push (.pageStart s.page d.title) }
  refine ⟨made, hmade, ?_⟩
  unfold after at hafter ⊢
  rw [run_startPage_eq, run_bind]
  generalize (callAll (d.hook s.page d.title).1).run.run _ = r at hafter
  obtain ⟨f | _, t⟩ := r
  · exact hafter
  · cases (d.hook s.page d.title).2 <;> exact hafter

/-- Whatever fails at the start of the next page, the cursor is at its top. -/
theorem after_newPage (s : Sheet α) :
    ∃ made, made <+: (d.hook (s.page + 1) d.title).1 ∧
      after d.newPage s = ⟨d.geometry.top, s.page + 1,
        d.pageLog ⟨d.geometry.top, s.page + 1, s.log.push (.call .showPage)⟩ made⟩ := by
  have hrun : after d.newPage s =
      after d.startPage ⟨d.geometry.top, s.page + 1, s.log.push (.call .showPage)⟩ := by
    unfold after newPage
    rw [run_bind, run_call]
    rfl
  rw [hrun]
  exact d.after_startPage ⟨d.geometry.top, s.page + 1, s.log.push (.call .showPage)⟩

theorem after_opening :
    ∃ made, made <+: (d.hook 1 d.title).1 ∧
      after d.opening (blank d.geometry) = ⟨d.geometry.top, 1,
        d.pageLog ⟨d.geometry.top, 1, #[.call (.setTitle d.title)]⟩ made⟩ := by
  have hrun : after d.opening (blank d.geometry) =
      after d.startPage ⟨d.geometry.top, 1, #[.call (.setTitle d.title)]⟩ := by
    unfold after opening
    rw [run_bind, run_call]
    rfl
  rw [hrun]
  exact d.after_startPage ⟨d.geometry.top, 1, #[.call (.setTitle d.title)]⟩

end Setup

end DocTemplate.Page
