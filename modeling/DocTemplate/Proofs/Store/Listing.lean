import DocTemplate.Proofs.Store.Atomic
import DocTemplate.Proofs.Store.Consistency
import Mathlib.Data.List.Basic
import Mathlib.Data.List.Nodup

/-!
# Listings

What a listing shows after any steps: each template that was written and not deleted since, once, and the
one written last first. Main statement: `listing_follows_writes`.
-/

namespace DocTemplate.Store

open DocTemplate.Calendar DocTemplate.Catalog

/-! ## Histories -/

/-- What happens to the row of a template. -/
inductive Event
  /-- It is added, or written again, at a time. -/
  | written (id time : Nat)
  | deleted (id : Nat)
deriving DecidableEq, Repr

/-- The number of a row that was not there before. -/
def newNumber? (before after : Store) : Option Nat :=
  (after.templates.map (·.id)).find? fun id => id ∉ before.templates.map (·.id)

/-- What a step does to the row of a template, if it does anything. The time is the last reading of the
clock; a save that fails may have added a row. -/
def Step.event? (around : Surroundings) (step : Step) (s : Store) : Option Event :=
  let after := (step.run around s).2
  let time := after.clock - 1
  match step, (step.run around s).1 with
  | .save _, .ok (.template (some t)) => some (.written t.id time)
  | .save _, .error _ => (newNumber? s after).map (.written · time)
  | .publish .., .ok (.template (some t)) => some (.written t.id time)
  | .delete id, .ok _ => some (.deleted id.toNat)
  | _, _ => none

/-- What happens to rows while steps follow one another. -/
def history (around : Surroundings) : List Step → Store → List Event
  | [], _ => []
  | step :: steps, s => (step.event? around s).toList ++ history around steps (step.run around s).2

/-- The time at which the row of a template was written last, unless it was deleted since. -/
def lastWrite? (id : Nat) (h : List Event) : Option Nat :=
  h.foldl after none
where
  after (last : Option Nat) : Event → Option Nat
    | .written other time => if other = id then some time else last
    | .deleted other => if other = id then none else last

theorem lastWrite?_written (h : List Event) (id other time : Nat) :
    lastWrite? id (h ++ [.written other time]) = if other = id then some time else lastWrite? id h := by
  rw [lastWrite?, List.foldl_append]
  rfl

theorem lastWrite?_deleted (h : List Event) (id other : Nat) :
    lastWrite? id (h ++ [.deleted other]) = if other = id then none else lastWrite? id h := by
  rw [lastWrite?, List.foldl_append]
  rfl

/-! ## One step -/

/-- The row of a template was written, or added, and no other row was changed. -/
structure Wrote (s : Store) (u : Template) (t : Store) : Prop where
  rows : t.templates.Perm (u :: s.templates.filter fun w => w.id != u.id)
  time : s.clock ≤ u.updatedAt
  clock : t.clock = u.updatedAt + 1

/-- A row was added. -/
structure Added (s : Store) (u : Template) (t : Store) : Prop where
  fresh : u.id ∉ s.templates.map (·.id)
  rows : t.templates = s.templates ++ [u]
  time : u.updatedAt = s.clock
  clock : t.clock = s.clock + 1

/-- No row was changed. -/
structure Kept (s t : Store) : Prop where
  rows : t.templates = s.templates
  clock : t.clock = s.clock

/-- The row of a template was taken away. -/
structure Removed (s : Store) (id : Nat) (t : Store) : Prop where
  rows : t.templates = s.templates.filter fun w => w.id != id
  clock : t.clock = s.clock

/-- How an event changes rows. -/
inductive Change (s t : Store) : Option Event → Prop
  | kept (h : Kept s t) : Change s t none
  | wrote (u : Template) (h : Wrote s u t) : Change s t (some (.written u.id u.updatedAt))
  | removed (id : Nat) (h : Removed s id t) : Change s t (some (.deleted id))

variable {s t v : Store} {u w : Template}

theorem filter_ne_of_notMem {id : Nat} {ts : List Template} (h : id ∉ ts.map (·.id)) :
    (ts.filter fun w => w.id != id) = ts := by
  refine List.filter_eq_self.mpr fun w hw => bne_iff_ne.mpr fun hid => h ?_
  exact hid ▸ List.mem_map_of_mem hw

theorem Added.wrote (h : Added s u t) : Wrote s u t where
  rows := by
    rw [h.rows, filter_ne_of_notMem h.fresh]
    exact List.perm_append_singleton u s.templates
  time := Nat.le_of_eq h.time.symm
  clock := by rw [h.clock, h.time]

theorem Wrote.nodup (h : Wrote s u t) (hids : (s.templates.map (·.id)).Nodup) :
    (t.templates.map (·.id)).Nodup := by
  have hids : ((u :: s.templates.filter fun w => w.id != u.id).map (·.id)).Nodup := by
    simp only [List.map_cons, List.nodup_cons, List.mem_map, List.mem_filter, bne_iff_ne]
    refine ⟨?_, hids.sublist (List.filter_sublist.map _)⟩
    rintro ⟨w, ⟨-, hne⟩, hid⟩
    exact hne hid
  exact (h.rows.map _).nodup_iff.mpr hids

theorem map_replace_perm {ts : List Template} (hids : (ts.map (·.id)).Nodup)
    (hrow : u.id ∈ ts.map (·.id)) :
    (ts.map fun w => if w.id = u.id then u else w).Perm (u :: ts.filter fun w => w.id != u.id) := by
  induction ts with
  | nil => cases hrow
  | cons w ts ih =>
    simp only [List.map_cons, List.nodup_cons, List.mem_cons] at hids hrow
    obtain ⟨hw, hids⟩ := hids
    by_cases hid : w.id = u.id
    · rw [hid] at hw
      have hsame : (ts.map fun w => if w.id = u.id then u else w) = ts := by
        refine List.map_congr_left (g := id) (fun v hv => if_neg fun hvid => hw ?_) |>.trans (List.map_id ts)
        exact hvid ▸ List.mem_map_of_mem hv
      rw [List.map_cons, if_pos hid, hsame, List.filter_cons_of_neg (by simp [hid]), filter_ne_of_notMem hw]
    · have hperm := ih hids (hrow.resolve_left (Ne.symm hid))
      simpa [hid] using (hperm.cons w).trans (List.Perm.swap u w _)

/-- The row of a template that is there is written in its place. -/
theorem wrote_replace (hids : (s.templates.map (·.id)).Nodup) (hrow : u.id ∈ s.templates.map (·.id))
    (htime : u.updatedAt = s.clock) : Wrote s u { s.replace u with clock := s.clock + 1 } where
  rows := map_replace_perm hids hrow
  time := Nat.le_of_eq htime.symm
  clock := by rw [htime]

/-- A row that is written twice counts as written the second time. -/
theorem Wrote.trans (h : Wrote s u t) (hv : Wrote t w v) (hid : w.id = u.id) : Wrote s w v where
  rows := by
    refine hv.rows.trans (List.Perm.cons w ?_)
    refine (h.rows.filter _).trans (List.Perm.of_eq ?_)
    simp [hid, List.filter_filter]
  time := by
    have hfirst := h.time
    have hsecond := hv.time
    rw [h.clock] at hsecond
    omega
  clock := hv.clock

/-! ## Saves -/

/-- A save that has not been carried out has changed no row, or added the row of a new template. -/
inductive Begun (s t : Store) : Prop
  | kept (h : Kept s t)
  | added (u : Template) (h : Added s u t)

/-- The row that a save is to write is there. -/
structure Ready (s : Store) (u : Template) (t : Store) : Prop where
  ids : (t.templates.map (·.id)).Nodup
  row : u.id ∈ t.templates.map (·.id)
  begun : Kept s t ∨ Added s u t

theorem Ready.failed (h : Ready s u t) : Begun s t :=
  h.begun.elim .kept (.added u)

theorem Ready.wrote (h : Ready s u t) (hid : w.id = u.id) (htime : w.updatedAt = t.clock) :
    Wrote s w { t.replace w with clock := t.clock + 1 } := by
  have hwrote := wrote_replace h.ids (hid ▸ h.row) htime
  rcases h.begun with hkept | hadded
  · refine ⟨?_, ?_, hwrote.clock⟩
    · rw [← hkept.rows]
      exact hwrote.rows
    · rw [← hkept.clock]
      exact hwrote.time
  · exact hadded.wrote.trans hwrote hid

theorem ready_templateToSave (hids : (s.templates.map (·.id)).Nodup) (r : SaveRequest)
    (type : DocumentType) :
    Ends (· = s) (templateToSave r type) (Ready s) (· = s) := by
  unfold templateToSave
  cases r.templateId with
  | none =>
    dsimp only
    unfold addTemplate
    cases r.name with
    | none => exact .fail fun _ hs => hs
    | some name =>
      rintro s rfl
      let u : Template := ⟨nextNumber (s.templates.map (·.id)), name, r.description, type, r.status, none,
        none, s.clock⟩
      have hadded : Added s u { s with templates := s.templates ++ [u], clock := s.clock + 1 } :=
        ⟨nextNumber_notMem _, rfl, rfl, rfl⟩
      exact ⟨hadded.wrote.nodup hids, by simp, .inr hadded⟩
  | some id =>
    refine (ends_findTemplate id).mono (fun _ hs => hs) fun u t ht => ?_
    obtain ⟨rfl, hmem, -⟩ := ht
    exact ⟨hids, List.mem_map_of_mem hmem, .inl ⟨rfl, rfl⟩⟩

theorem ready_addVersion (template : Nat) (layout : List Value) (r : SaveRequest) :
    Ends (Ready s u) (addVersion template layout r) (fun _ => Ready s u) (Begun s) := by
  unfold addVersion
  dsimp only
  split
  · exact .fail fun _ h => h.failed
  · rintro t h
    exact ⟨h.ids, h.row, h.begun.imp (fun h => ⟨h.rows, h.clock⟩)
      fun h => ⟨h.fresh, h.rows, h.time, h.clock⟩⟩

/-- A save that answers has written the row of the template that it answers with. -/
theorem wrote_save (hids : (s.templates.map (·.id)).Nodup) (r : SaveRequest) :
    Ends (· = s) (save r) (Wrote s) (Begun s) := by
  have hkept : Begun s s := .kept ⟨rfl, rfl⟩
  have hfail : ∀ t, t = s → Begun s t := fun _ h => h ▸ hkept
  rw [save_eq]
  refine ((ends_orFail _ _).fails hfail).bind fun type => ?_
  refine ((ends_layoutToSave r type).fails hfail).bind fun layout => ?_
  refine ((ready_templateToSave hids r type).fails hfail).bind fun u => ?_
  refine (ready_addVersion u.id layout r).bind fun version => ?_
  cases r.name with
  | none => exact .fail fun _ h => h.failed
  | some name => exact fun t h => h.wrote rfl rfl

theorem wrote_publish (hids : (s.templates.map (·.id)).Nodup) (template : Int) (version : Option Int) :
    Ends (· = s) (publish template version) (Wrote s) (· = s) := by
  unfold publish
  refine (ends_findTemplate template).bind fun u => ?_
  have hversion := (ends_versionToPublish (P := fun t => t = s ∧ u ∈ t.templates ∧ (u.id : Int) = template)
    template version).fails fun _ h => h.1
  refine hversion.bind fun current => ?_
  rintro t ⟨⟨rfl, hmem, -⟩, -⟩
  exact wrote_replace hids (List.mem_map.mpr ⟨u, hmem, rfl⟩) rfl

theorem removed_delete (template : Int) :
    Ends (· = s) (delete template) (fun _ => Removed s template.toNat) (· = s) := by
  refine (ends_findTemplate template).bind fun u => .modify ?_
  rintro t ⟨rfl, -, rfl⟩
  exact ⟨rfl, rfl⟩

/-! ## Events -/

theorem newNumber?_kept (h : Kept s t) : newNumber? s t = none := by
  rw [newNumber?, h.rows, List.find?_eq_none]
  intro id hid
  simp [hid]

theorem newNumber?_added (h : Added s u t) : newNumber? s t = some u.id := by
  have hold : (s.templates.map (·.id)).find? (fun id => id ∉ s.templates.map (·.id)) = none :=
    List.find?_eq_none.mpr fun id hid => by simp [hid]
  rw [newNumber?, h.rows, List.map_append, List.find?_append, hold, List.map_singleton,
    List.find?_singleton, if_pos (decide_eq_true h.fresh), Option.none_or]

theorem Wrote.change (h : Wrote s u t) : Change s t (some (.written u.id (t.clock - 1))) := by
  rw [h.clock, Nat.add_sub_cancel]
  exact .wrote u h

theorem Begun.change (h : Begun s t) :
    Change s t ((newNumber? s t).map (.written · (t.clock - 1))) := by
  cases h with
  | kept h =>
    rw [newNumber?_kept h]
    exact .kept h
  | added u h =>
    rw [newNumber?_added h]
    exact h.wrote.change

/-- A step ends with an answer or fails. -/
theorem run_ends {around : Surroundings} {step : Step} {Q : Reply → Store → Prop} {E : Store → Prop}
    (h : Ends (· = s) (step.access around) Q E) :
    (∃ reply, (step.run around s).1 = .ok reply ∧ Q reply (step.run around s).2) ∨
      ∃ e, (step.run around s).1 = .error e ∧ E (step.run around s).2 := by
  have hend := h s rfl
  change (∃ reply, ((step.access around).run.run s).1 = .ok reply ∧ Q reply ((step.access around).run.run s).2) ∨
    ∃ e, ((step.access around).run.run s).1 = .error e ∧ E ((step.access around).run.run s).2
  generalize (step.access around).run.run s = result at hend ⊢
  obtain ⟨e | reply, t⟩ := result
  · exact .inr ⟨e, rfl, hend⟩
  · exact .inl ⟨reply, rfl, hend⟩

theorem run_reading (around : Surroundings) {step : Step} (h : step.writes = false) : (step.run around s).2 = s := by
  rcases run_ends (ends_reading (P := (· = s)) around h) with ⟨_, -, h⟩ | ⟨_, -, h⟩
  · exact h
  · exact h

/-- A step that answers with a template has written its row. -/
theorem run_writing {around : Surroundings} {step : Step} {action : Access Template} {E : Store → Prop}
    (hstep : step.access around = (Reply.template ∘ some) <$> action) (h : Ends (· = s) action (Wrote s) E) :
    (∃ u, (step.run around s).1 = .ok (.template (some u)) ∧ Wrote s u (step.run around s).2) ∨
      ∃ e, (step.run around s).1 = .error e ∧ E (step.run around s).2 := by
  have hends : Ends (· = s) (step.access around) (fun reply t => ∃ u, reply = .template (some u) ∧ Wrote s u t)
      E := by
    rw [hstep]
    exact .map (h.mono (fun _ hs => hs) fun u _ hwrote => ⟨u, rfl, hwrote⟩)
  rcases run_ends hends with ⟨_, hreply, u, rfl, h⟩ | h
  · exact .inl ⟨u, hreply, h⟩
  · exact .inr h

theorem run_save (hids : (s.templates.map (·.id)).Nodup) (around : Surroundings) (r : SaveRequest) :
    (∃ u, ((Step.save r).run around s).1 = .ok (.template (some u)) ∧
        Wrote s u ((Step.save r).run around s).2) ∨
      ∃ e, ((Step.save r).run around s).1 = .error e ∧ Begun s ((Step.save r).run around s).2 :=
  run_writing rfl (wrote_save hids r)

theorem run_publish (hids : (s.templates.map (·.id)).Nodup) (around : Surroundings) (id : Int)
    (version : Option Int) :
    (∃ u, ((Step.publish id version).run around s).1 = .ok (.template (some u)) ∧
        Wrote s u ((Step.publish id version).run around s).2) ∨
      ∃ e, ((Step.publish id version).run around s).1 = .error e ∧
        ((Step.publish id version).run around s).2 = s :=
  run_writing rfl (wrote_publish hids id version)

theorem run_delete (around : Surroundings) (id : Int) :
    (((Step.delete id).run around s).1 = .ok .deleted ∧
        Removed s id.toNat ((Step.delete id).run around s).2) ∨
      ∃ e, ((Step.delete id).run around s).1 = .error e ∧ ((Step.delete id).run around s).2 = s := by
  have hends : Ends (· = s) ((Step.delete id).access around)
      (fun reply t => reply = .deleted ∧ Removed s id.toNat t) (· = s) :=
    (removed_delete id).bind fun _ => .pure fun _ h => ⟨rfl, h⟩
  rcases run_ends hends with ⟨_, hreply, rfl, h⟩ | h
  · exact .inl ⟨hreply, h⟩
  · exact .inr h

/-- A step changes rows as its event says, whether it fails or not. -/
theorem change_run (hids : (s.templates.map (·.id)).Nodup) (around : Surroundings) (step : Step) :
    Change s (step.run around s).2 (step.event? around s) := by
  have hkept : Change s s none := .kept ⟨rfl, rfl⟩
  cases step with
  | save r =>
    rcases run_save hids around r with ⟨u, hreply, h⟩ | ⟨e, hreply, h⟩
    · simp only [Step.event?, hreply]
      exact h.change
    · simp only [Step.event?, hreply]
      exact h.change
  | publish id version =>
    rcases run_publish hids around id version with ⟨u, hreply, h⟩ | ⟨e, hreply, h⟩
    · simp only [Step.event?, hreply]
      exact h.change
    · simp only [Step.event?, hreply, h]
      exact hkept
  | delete id =>
    rcases run_delete (s := s) around id with ⟨hreply, h⟩ | ⟨e, hreply, h⟩
    · simp only [Step.event?, hreply]
      exact .removed id.toNat h
    · simp only [Step.event?, hreply, h]
      exact hkept
  | _ =>
    rw [run_reading around rfl]
    exact hkept

/-! ## Runs -/

/-- The times in the rows are those of the last writes in a history, and earlier than now. -/
structure Dated (h : List Event) (s : Store) : Prop where
  ids : (s.templates.map (·.id)).Nodup
  last : ∀ id time, lastWrite? id h = some time ↔ ∃ t ∈ s.templates, t.id = id ∧ t.updatedAt = time
  past : ∀ t ∈ s.templates, t.updatedAt < s.clock
  times : (s.templates.map (·.updatedAt)).Nodup

variable {h : List Event}

theorem dated_empty : Dated [] empty where
  ids := .nil
  last _ _ := by simp [lastWrite?, empty]
  past := by simp [empty]
  times := .nil

theorem Dated.kept (hs : Dated h s) (ht : Kept s t) : Dated h t where
  ids := by rw [ht.rows]; exact hs.ids
  last := by rw [ht.rows]; exact hs.last
  past := by rw [ht.rows, ht.clock]; exact hs.past
  times := by rw [ht.rows]; exact hs.times

theorem Dated.wrote (hs : Dated h s) (ht : Wrote s u t) :
    Dated (h ++ [.written u.id u.updatedAt]) t where
  ids := ht.nodup hs.ids
  last id time := by
    rw [lastWrite?_written]
    simp only [ht.rows.mem_iff, List.mem_cons, List.mem_filter, bne_iff_ne]
    by_cases hid : u.id = id
    · rw [if_pos hid, Option.some_inj]
      constructor
      · exact fun htime => ⟨u, .inl rfl, hid, htime⟩
      · rintro ⟨w, rfl | ⟨-, hne⟩, hwid, htime⟩
        · exact htime
        · exact absurd (hwid.trans hid.symm) hne
    · rw [if_neg hid, hs.last]
      constructor
      · rintro ⟨w, hw, hwid, htime⟩
        exact ⟨w, .inr ⟨hw, fun hwu => hid (hwu.symm.trans hwid)⟩, hwid, htime⟩
      · rintro ⟨w, rfl | ⟨hw, -⟩, hwid, htime⟩
        · exact absurd hwid hid
        · exact ⟨w, hw, hwid, htime⟩
  past w hw := by
    rw [ht.clock]
    rcases List.mem_cons.mp (ht.rows.mem_iff.mp hw) with rfl | hw
    · exact Nat.lt_succ_self _
    · have hpast := hs.past w (List.mem_of_mem_filter hw)
      have htime := ht.time
      omega
  times := by
    rw [(ht.rows.map _).nodup_iff, List.map_cons, List.nodup_cons]
    refine ⟨fun hmem => ?_, hs.times.sublist (List.filter_sublist.map _)⟩
    obtain ⟨w, hw, hwtime⟩ := List.mem_map.mp hmem
    have hpast := hs.past w (List.mem_of_mem_filter hw)
    have htime := ht.time
    omega

theorem Dated.removed {id : Nat} (hs : Dated h s) (ht : Removed s id t) :
    Dated (h ++ [.deleted id]) t where
  ids := by
    rw [ht.rows]
    exact hs.ids.sublist (List.filter_sublist.map _)
  last other time := by
    rw [lastWrite?_deleted, ht.rows]
    simp only [List.mem_filter, bne_iff_ne]
    by_cases hid : id = other
    · rw [if_pos hid]
      refine ⟨nofun, ?_⟩
      rintro ⟨w, ⟨-, hne⟩, hwid, -⟩
      exact absurd (hwid.trans hid.symm) hne
    · rw [if_neg hid, hs.last]
      constructor
      · rintro ⟨w, hw, hwid, htime⟩
        exact ⟨w, ⟨hw, fun hwd => hid (hwd.symm.trans hwid)⟩, hwid, htime⟩
      · rintro ⟨w, ⟨hw, -⟩, hwid, htime⟩
        exact ⟨w, hw, hwid, htime⟩
  past w hw := by
    rw [ht.rows] at hw
    rw [ht.clock]
    exact hs.past w (List.mem_of_mem_filter hw)
  times := by
    rw [ht.rows]
    exact hs.times.sublist (List.filter_sublist.map _)

/-- Each step keeps the rows dated by the history that it goes on with. -/
theorem Dated.step (hs : Dated h s) (around : Surroundings) (step : Step) :
    Dated (h ++ (step.event? around s).toList) (step.run around s).2 := by
  have hchange := change_run hs.ids around step
  generalize step.event? around s = event? at hchange ⊢
  cases hchange with
  | kept ht =>
    rw [Option.toList_none, List.append_nil]
    exact hs.kept ht
  | wrote u ht => exact hs.wrote ht
  | removed id ht => exact hs.removed ht

theorem Dated.runAll (hs : Dated h s) (around : Surroundings) (steps : List Step) :
    Dated (h ++ history around steps s) (runAll around steps s) := by
  induction steps generalizing h s with
  | nil =>
    rw [history, List.append_nil]
    exact hs
  | cons step steps ih =>
    rw [history, ← List.append_assoc]
    exact ih (hs.step around step)

/-! ## Listings -/

/-- A list of templates as a history of writes has it: the rows that were written and not deleted since,
each once, and the one written last first. -/
structure IsListing (h : List Event) (s : Store) (ts : List Template) : Prop where
  rows : ts.Perm s.templates
  once : (ts.map (·.id)).Nodup
  written : ∀ id, id ∈ ts.map (·.id) ↔ (lastWrite? id h).isSome
  ordered : ts.Pairwise fun t u => ∃ later earlier, lastWrite? t.id h = some later ∧
    lastWrite? u.id h = some earlier ∧ earlier < later

theorem listed_perm (s : Store) : s.listed.Perm s.templates := List.mergeSort_perm _ _

theorem listed_pairwise (s : Store) : s.listed.Pairwise fun t u => u.updatedAt ≤ t.updatedAt := by
  have hsorted : s.listed.Pairwise fun t u => decide (u.updatedAt ≤ t.updatedAt) = true := by
    refine List.pairwise_mergeSort (fun t u v htu huv => ?_) (fun t u => ?_) s.templates
    · simp only [decide_eq_true_eq] at htu huv ⊢
      exact Nat.le_trans huv htu
    · simp only [Bool.or_eq_true, decide_eq_true_eq]
      exact Nat.le_total _ _
  exact hsorted.imp of_decide_eq_true

/-- There is only one order in which rows with times of their own can be listed. -/
theorem Dated.listed_eq (hs : Dated h s) {ts : List Template} (hperm : ts.Perm s.templates)
    (hsorted : ts.Pairwise fun t u => u.updatedAt ≤ t.updatedAt) : s.listed = ts := by
  refine List.Perm.eq_of_pairwise (fun t u ht hu htu hut => ?_) (listed_pairwise s) hsorted
    ((listed_perm s).trans hperm.symm)
  have ht := (listed_perm s).mem_iff.mp ht
  have hu := hperm.mem_iff.mp hu
  exact List.inj_on_of_nodup_map hs.times ht hu (Nat.le_antisymm hut htu)

theorem Dated.isListing (hs : Dated h s) : IsListing h s s.listed where
  rows := listed_perm s
  once := ((listed_perm s).map _).nodup_iff.mpr hs.ids
  written id := by
    rw [((listed_perm s).map _).mem_iff, Option.isSome_iff_exists, List.mem_map]
    constructor
    · rintro ⟨t, ht, hid⟩
      exact ⟨t.updatedAt, (hs.last id _).mpr ⟨t, ht, hid, rfl⟩⟩
    · rintro ⟨time, htime⟩
      obtain ⟨t, ht, hid, -⟩ := (hs.last id time).mp htime
      exact ⟨t, ht, hid⟩
  ordered := by
    have htimes : (s.listed.map (·.updatedAt)).Nodup :=
      ((listed_perm s).map _).nodup_iff.mpr hs.times
    have hne : s.listed.Pairwise fun t u => t.updatedAt ≠ u.updatedAt := List.pairwise_map.mp htimes
    have hlast {t : Template} (ht : t ∈ s.listed) : lastWrite? t.id h = some t.updatedAt :=
      (hs.last _ _).mpr ⟨t, (listed_perm s).mem_iff.mp ht, rfl, rfl⟩
    refine ((listed_pairwise s).and hne).imp_of_mem fun {t u} ht hu htu => ?_
    exact ⟨_, _, hlast ht, hlast hu, Nat.lt_of_le_of_ne htu.1 htu.2.symm⟩

/-- The template that was written stands first, and the other ones stay in order. -/
theorem Dated.listed_wrote (hs : Dated h s) (ht : Wrote s u t) :
    t.listed = u :: s.listed.filter fun w => w.id != u.id := by
  refine (hs.wrote ht).listed_eq ?_ ?_
  · exact (((listed_perm s).filter _).cons u).trans ht.rows.symm
  · refine List.pairwise_cons.mpr ⟨fun w hw => ?_, (listed_pairwise s).sublist List.filter_sublist⟩
    have hpast := hs.past w ((listed_perm s).mem_iff.mp (List.mem_of_mem_filter hw))
    have htime := ht.time
    omega

theorem Dated.listed_removed {id : Nat} (hs : Dated h s) (ht : Removed s id t) :
    t.listed = s.listed.filter fun w => w.id != id := by
  refine (hs.removed ht).listed_eq ?_ ((listed_pairwise s).sublist List.filter_sublist)
  rw [ht.rows]
  exact (listed_perm s).filter _

/-- After any steps, failing ones included, a listing shows the templates that were written and not deleted
since, each once, in the order of their last writes. The template that a save or a publish answers with is
listed first; a deletion takes its template out of the listing, and reading leaves the listing as it is. -/
theorem listing_follows_writes (around : Surroundings) (steps : List Step) :
    let s := runAll around steps empty
    Step.list.run around s = (.ok (.templates s.listed), s) ∧
    IsListing (history around steps empty) s s.listed ∧
    (∀ (step : Step) (t : Template), step.writes → (step.run around s).1 = .ok (.template (some t)) →
      (step.run around s).2.listed = t :: s.listed.filter fun u => u.id != t.id) ∧
    (∀ id, ((Step.delete id).run around s).2.listed =
      match ((Step.delete id).run around s).1 with
      | .ok _ => s.listed.filter fun u => u.id != id.toNat
      | .error _ => s.listed) ∧
    ∀ step : Step, step.writes = false → (step.run around s).2.listed = s.listed := by
  intro s
  have hs : Dated (history around steps empty) s := dated_empty.runAll around steps
  refine ⟨rfl, hs.isListing, fun step t hwrites hanswer => ?_, fun id => ?_, fun step hreads => ?_⟩
  · cases step with
    | save r =>
      rcases run_save hs.ids around r with ⟨u, hreply, h⟩ | ⟨e, hreply, -⟩
      · cases hreply.symm.trans hanswer
        exact hs.listed_wrote h
      · cases hreply.symm.trans hanswer
    | publish id version =>
      rcases run_publish hs.ids around id version with ⟨u, hreply, h⟩ | ⟨e, hreply, -⟩
      · cases hreply.symm.trans hanswer
        exact hs.listed_wrote h
      · cases hreply.symm.trans hanswer
    | delete id =>
      rcases run_delete (s := s) around id with ⟨hreply, -⟩ | ⟨e, hreply, -⟩
      · cases hreply.symm.trans hanswer
      · cases hreply.symm.trans hanswer
    | _ => cases hwrites
  · rcases run_delete (s := s) around id with ⟨hreply, h⟩ | ⟨e, hreply, h⟩
    · rw [hreply]
      exact hs.listed_removed h
    · rw [hreply, h]
  · rw [run_reading around hreads]

/-- Two quotes, the second of which goes; a third one takes its number, and the first one is saved again. -/
def quoteSteps : List Step :=
  [.save quoteRequest, .save quoteRequest, .delete 2, .save quoteRequest,
    .save { quoteRequest with templateId := some 1 }]

/-- The first quote, which was written last, is listed first until the third one is published. -/
theorem quotes_are_listed :
    IsListing (history quoteSurroundings quoteSteps empty) (runAll quoteSurroundings quoteSteps empty)
        (runAll quoteSurroundings quoteSteps empty).listed ∧
      history quoteSurroundings quoteSteps empty =
        [.written 1 1, .written 2 3, .deleted 2, .written 2 5, .written 1 6] ∧
      (Step.publish 2 none).writes ∧
      (∃ t, ((Step.publish 2 none).run quoteSurroundings (runAll quoteSurroundings quoteSteps empty)).1 =
          .ok (.template (some t)) ∧ t.id = 2 ∧
        ((Step.publish 2 none).run quoteSurroundings (runAll quoteSurroundings quoteSteps empty)).2.listed =
          t :: (runAll quoteSurroundings quoteSteps empty).listed.filter fun u => u.id != t.id) ∧
      Step.list.writes = false ∧
      (Step.list.run quoteSurroundings (runAll quoteSurroundings quoteSteps empty)).2.listed =
        (runAll quoteSurroundings quoteSteps empty).listed := by
  have ⟨_, hlisting, hfirst, _, hreading⟩ := listing_follows_writes quoteSurroundings quoteSteps
  have hpublish : ∃ t, ((Step.publish 2 none).run quoteSurroundings (runAll quoteSurroundings quoteSteps empty)).1 =
      .ok (.template (some t)) ∧ t.id = 2 := ⟨_, rfl, rfl⟩
  obtain ⟨t, ht, hid⟩ := hpublish
  exact ⟨hlisting, by decide +kernel, rfl, ⟨t, ht, hid, hfirst _ t rfl ht⟩, rfl, hreading .list rfl⟩

end DocTemplate.Store
