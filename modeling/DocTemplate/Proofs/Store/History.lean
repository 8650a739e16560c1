import DocTemplate.Proofs.Store.Atomic
import DocTemplate.Proofs.Store.Consistency
import DocTemplate.Proofs.Store.Keeping

/-!
# Histories of templates

The versions of a template are only ever added to, as long as the template is not deleted, and steps on
other templates do not touch its rows. Main statement: `history_only_grows`.
-/

namespace DocTemplate.Store

open DocTemplate.Calendar

/-- Steps that follow one another do not delete a template: those of them that are to do so fail. -/
def Remains (around : Surroundings) (id : Nat) : List Step → Store → Prop
  | [], _ => True
  | step :: steps, s => (step = .delete id → ∃ e, (step.run around s).1 = .error e) ∧
      Remains around id steps (step.run around s).2

/-- The versions of a template in the order in which they were added. -/
def historyOf (s : Store) (id : Nat) : List Version := s.versions.filter fun v => v.templateId == id

variable {around : Surroundings} {s t : Store} {id : Nat}

/-! ## Versions in order -/

/-- In a consistent store the versions of a template were added in the order of their numbers. -/
theorem Consistent.versionsOf_eq (h : Consistent s) (id : Nat) : s.versionsOf id = historyOf s id := by
  have hrows : (s.versions.filter fun v => (v.templateId : Int) == id) = historyOf s id := by
    refine List.filter_congr fun v _ => ?_
    rw [Bool.eq_iff_iff, beq_iff_eq, beq_iff_eq]
    exact Int.natCast_inj
  have hnumbers : (historyOf s id).Pairwise fun v w => v.number ≤ w.number := by
    have hrange : numbersOf s id = List.range' 1 (numbersOf s id).length := h.numbered id
    have hsorted : (numbersOf s id).Pairwise (· ≤ ·) := by
      rw [hrange]
      exact List.pairwise_le_range'
    exact List.pairwise_map.mp hsorted
  unfold versionsOf
  rw [hrows]
  exact List.mergeSort_of_pairwise (hnumbers.imp fun hle => decide_eq_true hle)

theorem historyOf_append (s : Store) (v : Version) (id : Nat) :
    historyOf { s with versions := s.versions ++ [v] } id =
      historyOf s id ++ if v.templateId = id then [v] else [] := by
  unfold historyOf
  rw [List.filter_append]
  by_cases h : v.templateId = id <;> simp [h]

theorem historyOf_delete (s : Store) {id other : Nat} (h : other ≠ id) :
    historyOf { s with templates := s.templates.filter fun t => t.id != other,
                       versions := s.versions.filter fun v => v.templateId != other } id =
      historyOf s id := by
  unfold historyOf
  rw [List.filter_filter]
  refine List.filter_congr fun v _ => ?_
  by_cases hv : v.templateId = id
  · simp [hv, Ne.symm h]
  · simp [hv]

/-! ## What is kept -/

/-- Versions that were there first stay there first, unless their template is deleted. -/
theorem keeps_versions (past : List Version) (id : Nat) :
    Keeps (fun s => past <+: historyOf s id) (fun _ => True) (fun _ => True) (· ≠ id) where
  addVersion s v h _ := by
    rw [historyOf_append]
    exact h.trans (List.prefix_append _ _)
  write _ _ _ h _ := h
  delete s other h hother := by rwa [historyOf_delete s hother]

theorem keepsNew_versions (past : List Version) (id : Nat) :
    KeepsNew (fun s => past <+: historyOf s id) (fun _ => True) (fun _ => True) where
  addTemplate _ _ _ h _ := h
  fresh _ _ := ⟨trivial, trivial⟩

/-- The row and the versions of a template are those of an earlier store. -/
structure Untouched (s : Store) (id : Nat) (t : Store) : Prop where
  row : t.template? id = s.template? id
  history : historyOf t id = historyOf s id

theorem cast_beq_eq_false {m n : Nat} (h : m ≠ n) : ((m : Int) == n) = false :=
  beq_eq_false_iff_ne.mpr fun hcast => h (Int.natCast_inj.mp hcast)

theorem template?_replace {u : Template} (h : u.id ≠ id) :
    (s.replace u).template? id = s.template? id := by
  unfold template? replace
  induction s.templates with
  | nil => rfl
  | cons w ws ih =>
    have hother := cast_beq_eq_false h
    rw [List.map_cons, List.find?_cons, List.find?_cons, ih]
    by_cases hw : w.id = u.id
    · rw [if_pos hw, hw, hother]
    · rw [if_neg hw]

theorem template?_filter (s : Store) {other : Nat} (h : other ≠ id) (vs : List Version) :
    ({ s with templates := s.templates.filter fun t => t.id != other, versions := vs } : Store).template? id =
      s.template? id := by
  unfold template?
  rw [List.find?_filter]
  congr 1
  funext u
  by_cases hu : u.id = id
  · simp [hu, Ne.symm h]
  · simp [cast_beq_eq_false hu]

theorem keeps_untouched (s : Store) (id : Nat) :
    Keeps (Untouched s id) (· ≠ id) (· ≠ id) (· ≠ id) where
  addVersion t v h hother := by
    refine ⟨h.row, ?_⟩
    rw [historyOf_append, if_neg hother, List.append_nil]
    exact h.history
  write t u clock h hother := ⟨(template?_replace hother).trans h.row, h.history⟩
  delete t other h hother :=
    ⟨(template?_filter t hother _).trans h.row, (historyOf_delete t hother).trans h.history⟩

/-- A template that is there is not touched when one is added: the new row takes another number. -/
theorem keepsNew_untouched {id : Nat} (hrow : s.template? id ≠ none) :
    KeepsNew (Untouched s id) (· ≠ id) (· ≠ id) where
  addTemplate t u clock h _ := by
    refine ⟨?_, h.history⟩
    have hsome : (t.template? id).isSome := by
      rw [h.row]
      exact Option.isSome_iff_ne_none.mpr hrow
    rw [← h.row]
    unfold template? at hsome ⊢
    rw [List.find?_append, Option.or_of_isSome hsome]
  fresh t h := by
    obtain ⟨u, hu⟩ := Option.ne_none_iff_exists'.mp (h.row ▸ hrow)
    obtain ⟨hmem, huid⟩ := mem_of_template? hu
    have hne : nextNumber (t.templates.map (·.id)) ≠ id := by
      intro hnext
      have hnumber : id ∈ t.templates.map (·.id) :=
        Int.ofNat.inj huid ▸ List.mem_map_of_mem hmem
      rw [← hnext] at hnumber
      exact nextNumber_notMem _ hnumber
    exact ⟨hne, hne⟩

/-! ## Steps -/

theorem prefix_run {past : List Version} {step : Step} (h : past <+: historyOf s id)
    (hremains : step = .delete id → ∃ e, (step.run around s).1 = .error e) :
    past <+: historyOf (step.run around s).2 id := by
  refine (keeps_versions past id).run (fun _ => keepsNew_versions past id) (fun _ _ => trivial)
    (fun hanswers => ⟨fun _ _ => trivial, ?_⟩) h
  rintro other hstep rfl
  exact absurd (hremains hstep) (not_exists.mpr hanswers)

/-- A whole run adds to the versions of a template that it does not delete. -/
theorem prefix_runAll {past : List Version} {steps : List Step} (h : past <+: historyOf s id)
    (hremains : Remains around id steps s) : past <+: historyOf (runAll around steps s) id := by
  induction steps generalizing s with
  | nil => exact h
  | cons step steps ih =>
    obtain ⟨hstep, hrest⟩ := hremains
    exact ih (prefix_run h hstep) hrest

theorem untouched_run {step : Step} (htarget : step.target? ≠ some (id : Int))
    (hnew : step.adds → s.template? id ≠ none) : Untouched s id (step.run around s).2 := by
  have hother : ∀ other : Nat, step.target? = some (other : Int) → other ≠ id := by
    rintro other hstep rfl
    exact htarget hstep
  refine (keeps_untouched s id).run (fun hadds => keepsNew_untouched (hnew hadds)) hother
    (fun _ => ⟨hother, ?_⟩) ⟨rfl, rfl⟩
  rintro other rfl
  exact hother other rfl

theorem runAll_append (before steps : List Step) (s : Store) :
    runAll around (before ++ steps) s = runAll around steps (runAll around before s) :=
  List.foldl_append ..

/-- The versions of a template are listed as they are, if its number is one that a row can have. -/
theorem run_versions (around : Surroundings) (id : Int) (s : Store) :
    (Step.versions id).run around s =
      (if -lastNumber - 1 ≤ id ∧ id ≤ lastNumber then .ok (.versions (s.versionsOf id))
        else .error .numberTooGreat, s) := by
  change (Reply.versions <$> lookVersions id).run.run s = _
  unfold lookVersions checkNumber
  split <;> rfl

/-- In a consistent store the history of a template is listed. -/
theorem run_versions_eq (h : Consistent s) (hid : (id : Int) ≤ lastNumber) :
    (Step.versions id).run around s = (.ok (.versions (historyOf s id)), s) := by
  have hnumber : -lastNumber - 1 ≤ (id : Int) := by
    unfold lastNumber
    omega
  rw [run_versions, if_pos ⟨hnumber, hid⟩, h.versionsOf_eq]

theorem versions_inj {vs ws : List Version} (h : ((.ok (.versions vs) : Except StoreFailure Reply), s) =
    (.ok (.versions ws), t)) : vs = ws := by
  cases h
  rfl

/-- The versions of a template that are listed at a time are listed first, and unchanged, at every later time,
unless the template is deleted. What is asked of other templates, and all that only reads, leaves the row and
the versions of the template as they are; so does adding a template, where the template is there. -/
theorem history_only_grows (around : Surroundings) (before : List Step) (id : Nat) :
    (∀ steps versions, Remains around id steps (runAll around before empty) →
      (Step.versions id).run around (runAll around before empty) =
        (.ok (.versions versions), runAll around before empty) →
      ∃ more, (Step.versions id).run around (runAll around (before ++ steps) empty) =
        (.ok (.versions (versions ++ more)), runAll around (before ++ steps) empty)) ∧
    ∀ step : Step, step.target? ≠ some (id : Int) →
      (step.adds → (runAll around before empty).template? id ≠ none) →
      (runAll around (before ++ [step]) empty).template? id = (runAll around before empty).template? id ∧
      (runAll around (before ++ [step]) empty).versionsOf id = (runAll around before empty).versionsOf id := by
  have hconsistent : ∀ steps, Consistent (runAll around steps empty) := consistent_runAll around
  refine ⟨fun steps versions hremains hlisted => ?_, fun step htarget hnew => ?_⟩
  · rw [run_versions] at hlisted ⊢
    split at hlisted
    · next hid =>
      obtain rfl := versions_inj hlisted
      have hprefix : historyOf (runAll around before empty) id <+:
          historyOf (runAll around (before ++ steps) empty) id := by
        rw [runAll_append]
        exact prefix_runAll (List.prefix_refl _) hremains
      obtain ⟨more, hmore⟩ := hprefix
      refine ⟨more, ?_⟩
      rw [if_pos hid, (hconsistent _).versionsOf_eq, (hconsistent _).versionsOf_eq, hmore]
    · cases (Prod.mk.inj hlisted).1
  · have h : Untouched (runAll around before empty) id (step.run around (runAll around before empty)).2 :=
      untouched_run htarget hnew
    rw [(hconsistent _).versionsOf_eq, (hconsistent _).versionsOf_eq, runAll_append]
    exact ⟨h.row, h.history⟩

/-- Two quotes. -/
def quotesBefore : List Step := [.save quoteRequest, .save quoteRequest]

/-- The second quote goes, a third one takes its number, and the first one is saved again. -/
def quotesAfter : List Step :=
  [.delete 2, .save quoteRequest, .save { quoteRequest with templateId := some 1 }]

/-- The first quote keeps its version and gets another one, and the third one does not touch it. -/
theorem quotes_keep_history :
    Remains quoteSurroundings 1 quotesAfter (runAll quoteSurroundings quotesBefore empty) ∧
      (∃ versions more,
        (Step.versions 1).run quoteSurroundings (runAll quoteSurroundings quotesBefore empty) =
          (.ok (.versions versions), runAll quoteSurroundings quotesBefore empty) ∧
        (Step.versions 1).run quoteSurroundings (runAll quoteSurroundings (quotesBefore ++ quotesAfter) empty) =
          (.ok (.versions (versions ++ more)), runAll quoteSurroundings (quotesBefore ++ quotesAfter) empty) ∧
        versions.length = 1 ∧ more.length = 1) ∧
      (Step.save quoteRequest).target? ≠ some 1 ∧
      (runAll quoteSurroundings (quotesBefore ++ [.delete 2]) empty).template? 1 ≠ none ∧
      (runAll quoteSurroundings (quotesBefore ++ [.delete 2] ++ [.save quoteRequest]) empty).template? 1 =
        (runAll quoteSurroundings (quotesBefore ++ [.delete 2]) empty).template? 1 := by
  have hremains : Remains quoteSurroundings 1 quotesAfter (runAll quoteSurroundings quotesBefore empty) :=
    ⟨nofun, nofun, nofun, trivial⟩
  have hlast : ((1 : Nat) : Int) ≤ lastNumber := by decide
  have hshown : ∀ steps, (Step.versions (1 : Nat)).run quoteSurroundings (runAll quoteSurroundings steps empty) =
      (.ok (.versions (historyOf (runAll quoteSurroundings steps empty) 1)), runAll quoteSurroundings steps empty) :=
    fun steps => run_versions_eq (consistent_runAll quoteSurroundings steps) hlast
  have hbefore := hshown quotesBefore
  have hafter := hshown (quotesBefore ++ quotesAfter)
  obtain ⟨more, hmore⟩ := (history_only_grows quoteSurroundings quotesBefore 1).1 quotesAfter _ hremains hbefore
  have hone : (historyOf (runAll quoteSurroundings quotesBefore empty) 1).length = 1 := by decide +kernel
  have htwo : (historyOf (runAll quoteSurroundings (quotesBefore ++ quotesAfter) empty) 1).length = 2 := by
    decide +kernel
  have hlength : historyOf (runAll quoteSurroundings (quotesBefore ++ quotesAfter) empty) 1 =
      historyOf (runAll quoteSurroundings quotesBefore empty) 1 ++ more :=
    versions_inj (hafter.symm.trans hmore)
  rw [hlength, List.length_append, hone] at htwo
  have hrow : (runAll quoteSurroundings (quotesBefore ++ [.delete 2]) empty).template? 1 ≠ none := by
    decide +kernel
  have htarget : (Step.save quoteRequest).target? ≠ some ((1 : Nat) : Int) := by decide
  exact ⟨hremains, ⟨_, more, hbefore, hmore, hone, by omega⟩, htarget, hrow,
    ((history_only_grows quoteSurroundings (quotesBefore ++ [.delete 2]) 1).2 (.save quoteRequest) htarget
      fun _ => hrow).1⟩

end DocTemplate.Store
