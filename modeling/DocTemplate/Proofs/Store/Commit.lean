import DocTemplate.Proofs.Action
import DocTemplate.Store.Step
import Mathlib.Logic.Relation

/-!
# Commits

All that a step can do to the rows of a store, failing steps included: it is a sequence of commits, each
of which adds a row, writes a row or deletes a template with its versions.
-/

namespace DocTemplate.Store

open DocTemplate.Catalog

/-- One change to the rows of a store. -/
inductive Commit : Store → Store → Prop
  | addTemplate (s : Store) (t : Template) (hid : t.id = nextNumber (s.templates.map (·.id)))
      (hcurrent : t.current = none) (htime : t.updatedAt = s.clock) :
      Commit s { s with templates := s.templates ++ [t], clock := s.clock + 1 }
  | addVersion (s : Store) (v : Version) (howner : ∃ t ∈ s.templates, t.id = v.templateId)
      (hid : v.id = nextNumber (s.versions.map (·.id)))
      (hnumber : v.number = nextNumber ((s.versionsOf v.templateId).map (·.number))) :
      Commit s { s with versions := s.versions ++ [v] }
  | write (s : Store) (t : Template) (hrow : ∃ u ∈ s.templates, u.id = t.id)
      (hcurrent : ∀ n, t.current = some n → ∃ v ∈ s.versions, v.id = n ∧ v.templateId = t.id)
      (htime : t.updatedAt = s.clock) :
      Commit s { s.replace t with clock := s.clock + 1 }
  | delete (s : Store) (id : Nat) :
      Commit s { s with templates := s.templates.filter fun t => t.id != id,
                        versions := s.versions.filter fun v => v.templateId != id }

/-- Commits one after the other. -/
abbrev Commits : Store → Store → Prop := Relation.ReflTransGen Commit

variable {P : Store → Prop}

/-! ## Reading -/

/-- Where another part answers, its answer is taken over. -/
theorem ends_orFail_ok {ε β : Type} (wrap : ε → StoreFailure) (r : Except ε β) :
    Ends P (orFail wrap r) (fun b s => P s ∧ r = .ok b) P := by
  cases r with
  | ok b => exact .pure fun _ h => ⟨h, rfl⟩
  | error e => exact .fail fun _ h => h

theorem ends_orFail {ε β : Type} (wrap : ε → StoreFailure) (r : Except ε β) :
    Ends P (orFail wrap r) (fun _ => P) P :=
  (ends_orFail_ok wrap r).mono (fun _ h => h) fun _ _ h => h.1

theorem ends_checkNumber (id : Int) : Ends P (checkNumber id) (fun _ => P) P := by
  unfold checkNumber
  split
  · exact .pure fun _ h => h
  · exact .fail fun _ h => h

theorem mem_of_template? {s : Store} {id : Int} {t : Template} (h : s.template? id = some t) :
    t ∈ s.templates ∧ (t.id : Int) = id :=
  ⟨List.mem_of_find?_eq_some h, by simpa using List.find?_some h⟩

theorem mem_of_version? {s : Store} {id : Int} {v : Version} (h : s.version? id = some v) :
    v ∈ s.versions ∧ (v.id : Int) = id :=
  ⟨List.mem_of_find?_eq_some h, by simpa using List.find?_some h⟩

theorem mem_versionsOf {s : Store} {template : Int} {v : Version} :
    v ∈ s.versionsOf template ↔ v ∈ s.versions ∧ (v.templateId : Int) = template := by
  simp [versionsOf]

theorem ends_findTemplate (id : Int) :
    Ends P (findTemplate id) (fun t s => P s ∧ t ∈ s.templates ∧ (t.id : Int) = id) P := by
  refine (ends_checkNumber id).bind fun _ => Ends.get.bind fun s => ?_
  cases h : s.template? id with
  | none => exact .fail fun _ hs => hs.1
  | some t =>
    refine .pure fun u hu => ?_
    obtain ⟨hu, rfl⟩ := hu
    exact ⟨hu, mem_of_template? h⟩

theorem ends_layoutToSave (r : SaveRequest) (type : DocumentType) :
    Ends P (layoutToSave r type) (fun _ => P) P := by
  unfold layoutToSave
  cases r.layout with
  | none => exact (Ends.pure fun _ h => h).bind fun _ => ends_orFail _ _
  | some raw => exact (ends_orFail _ _).bind fun _ => ends_orFail _ _

/-! ## Writing -/

variable {start : Store}

theorem ends_addTemplate (r : SaveRequest) (type : DocumentType) :
    Ends (Commits start) (addTemplate r type)
      (fun t s => Commits start s ∧ t ∈ s.templates) (Commits start) := by
  unfold addTemplate
  cases r.name with
  | none => exact .fail fun _ h => h
  | some name =>
    intro s hs
    let t : Template := ⟨nextNumber (s.templates.map (·.id)), name, r.description, type, r.status, none,
      none, s.clock⟩
    exact ⟨hs.tail (.addTemplate s t rfl rfl rfl), List.mem_append_right _ (List.mem_singleton_self t)⟩

/-- A version is added to a template that has a row; otherwise nothing is written. -/
theorem ends_addVersion (template : Nat) (layout : List Value) (r : SaveRequest) :
    Ends (fun s => Commits start s ∧ ∃ t ∈ s.templates, t.id = template)
      (addVersion template layout r)
      (fun n s => Commits start s ∧ (∃ t ∈ s.templates, t.id = template) ∧
        ∃ v ∈ s.versions, v.id = n ∧ v.templateId = template)
      (Commits start) := by
  unfold addVersion
  dsimp only
  split
  · exact .fail fun _ h => h.1
  · next layout parameters sampleData _ =>
    intro s hs
    obtain ⟨hs, howner⟩ := hs
    let v : Version := ⟨nextNumber (s.versions.map (·.id)), template,
      nextNumber ((s.versionsOf template).map (·.number)), layout, parameters, sampleData, r.notes⟩
    exact ⟨hs.tail (.addVersion s v howner rfl rfl), howner,
      v, List.mem_append_right _ (List.mem_singleton_self v), rfl, rfl⟩

/-- The row of a template is written at the time that it is. -/
theorem ends_write (change : Nat → Template) (id : Nat)
    (hid : ∀ time, (change time).id = id) (htime : ∀ time, (change time).updatedAt = time) :
    Ends (fun s => Commits start s ∧ (∃ u ∈ s.templates, u.id = id) ∧
        ∀ n, (change s.clock).current = some n → ∃ v ∈ s.versions, v.id = n ∧ v.templateId = id)
      (do
        let time ← tick
        modify (·.replace (change time))
        pure (change time))
      (fun _ => Commits start) (Commits start) := by
  intro s hs
  obtain ⟨hs, hrow, hcurrent⟩ := hs
  refine hs.tail (.write s (change s.clock) ?_ ?_ (htime _))
  · rwa [hid]
  · rwa [hid]

/-- The template that is saved: a new one, or one that is there. -/
def templateToSave (r : SaveRequest) (type : DocumentType) : Access Template :=
  match r.templateId with
  | none => addTemplate r type
  | some id => findTemplate id

theorem save_eq (r : SaveRequest) :
    save r = (do
      let type ← orFail .noMember (DocumentType.read r.type)
      let layout ← layoutToSave r type
      let t ← templateToSave r type
      let version ← addVersion t.id layout r
      match r.name with
      | none => throw .unnamed
      | some name =>
        let time ← tick
        let t := { t with name, description := r.description, type, status := r.status,
                          current := some version, updatedAt := time }
        modify (·.replace t)
        pure t) := by
  unfold save templateToSave
  cases r.templateId <;> rfl

theorem ends_templateToSave (r : SaveRequest) (type : DocumentType) :
    Ends (Commits start) (templateToSave r type)
      (fun t s => Commits start s ∧ ∃ u ∈ s.templates, u.id = t.id) (Commits start) := by
  unfold templateToSave
  cases r.templateId with
  | none => exact (ends_addTemplate r type).mono (fun _ h => h) fun t s h => ⟨h.1, t, h.2, rfl⟩
  | some id => exact (ends_findTemplate id).mono (fun _ h => h) fun t s h => ⟨h.1, t, h.2.1, rfl⟩

theorem ends_save (r : SaveRequest) :
    Ends (Commits start) (save r) (fun _ => Commits start) (Commits start) := by
  rw [save_eq]
  refine (ends_orFail _ _).bind fun type => (ends_layoutToSave r type).bind fun layout => ?_
  refine (ends_templateToSave r type).bind fun t => ?_
  refine (ends_addVersion t.id layout r).bind fun version => ?_
  cases r.name with
  | none => exact .fail fun _ h => h.1
  | some name =>
    let change (time : Nat) : Template :=
      { t with name, description := r.description, type, status := r.status, current := some version,
               updatedAt := time }
    refine (ends_write change t.id (fun _ => rfl) fun _ => rfl).mono ?_ fun _ _ h => h
    rintro s ⟨hs, hrow, hversion⟩
    refine ⟨hs, hrow, fun n hn => ?_⟩
    cases hn
    exact hversion

/-- A version that may be published belongs to the template. -/
theorem ends_versionToPublish (template : Int) (version : Option Int) :
    Ends P (versionToPublish template version)
      (fun current s => P s ∧ ∀ n, current = some n →
        ∃ v ∈ s.versions, v.id = n ∧ (v.templateId : Int) = template) P := by
  unfold versionToPublish
  cases version with
  | none =>
    refine Ends.get.bind fun s => .pure fun u hu => ?_
    obtain ⟨hu, rfl⟩ := hu
    refine ⟨hu, fun n hn => ?_⟩
    obtain ⟨v, hv, rfl⟩ := Option.map_eq_some_iff.mp hn
    obtain ⟨hv, howner⟩ := mem_versionsOf.mp (List.mem_of_getLast? hv)
    exact ⟨v, hv, rfl, howner⟩
  | some id =>
    refine (ends_checkNumber id).bind fun _ => Ends.get.bind fun s => ?_
    cases h : s.version? id with
    | none => exact .fail fun _ hu => hu.1
    | some v =>
      dsimp only
      split
      · next howner =>
        refine .pure fun u hu => ?_
        obtain ⟨hu, rfl⟩ := hu
        refine ⟨hu, fun n hn => ?_⟩
        cases hn
        exact ⟨v, (mem_of_version? h).1, rfl, howner⟩
      · exact .fail fun _ hu => hu.1

theorem ends_publish (template : Int) (version : Option Int) :
    Ends (Commits start) (publish template version) (fun _ => Commits start) (Commits start) := by
  unfold publish
  refine (ends_findTemplate template).bind fun t => ?_
  refine Ends.bind ((ends_versionToPublish template version).fails fun _ h => h.1) fun current => ?_
  let change (time : Nat) : Template :=
    { t with status := .published, publishedAt := some time, current, updatedAt := time }
  refine (ends_write change t.id (fun _ => rfl) fun _ => rfl).mono ?_ fun _ _ h => h
  rintro s ⟨⟨hs, ht, hid⟩, hcurrent⟩
  refine ⟨hs, ⟨t, ht, rfl⟩, fun n hn => ?_⟩
  obtain ⟨v, hv, hn, howner⟩ := hcurrent n hn
  exact ⟨v, hv, hn, by omega⟩

theorem ends_delete (template : Int) :
    Ends (Commits start) (delete template) (fun _ => Commits start) (Commits start) :=
  (ends_findTemplate template).bind fun t => .modify fun s hs => hs.1.tail (.delete s t.id)

/-! ## Showing -/

theorem ends_gather (around : Surroundings) (r : ShowRequest) : Ends P (gather around r) (fun _ => P) P := by
  unfold gather
  refine Ends.bind (Q := fun _ => P) ?_ fun t => ?_
  · unfold shownTemplate
    cases r.templateId with
    | none => exact .pure fun _ h => h
    | some id => exact .map ((ends_findTemplate id).mono (fun _ h => h) fun _ _ h => h.1)
  refine (Ends.get.mono (fun _ h => h) fun _ _ h => h.1).bind fun s => ?_
  refine Ends.bind (Q := fun _ => P) ?_ fun type => ?_
  · unfold shownType
    split
    · exact ends_orFail _ _
    · exact .pure fun _ h => h
  refine Ends.bind (Q := fun _ => P) ?_ fun layout => ?_
  · unfold shownLayout
    split
    · exact ends_orFail _ _
    · exact ends_orFail _ _
    · exact .pure fun _ h => h
  exact (ends_orFail _ _).bind fun data => .pure fun _ h => h

/-! ## Steps -/

/-- Whether a step is there to change rows. -/
def Step.writes : Step → Bool
  | .save _ | .publish .. | .delete _ => true
  | _ => false

/-- The other steps leave the store as it is. -/
theorem ends_reading (around : Surroundings) {step : Step} (h : step.writes = false) :
    Ends P (step.access around) (fun _ => P) P := by
  cases step with
  | save r => cases h
  | publish id version => cases h
  | get id =>
    exact .map ((ends_checkNumber id).bind fun _ => Ends.get.bind fun _ => .pure fun _ h => h.1)
  | version id =>
    exact .map ((ends_checkNumber id).bind fun _ => Ends.get.bind fun _ => .pure fun _ h => h.1)
  | versions id =>
    exact .map ((ends_checkNumber id).bind fun _ => Ends.get.bind fun _ => .pure fun _ h => h.1)
  | list => exact Ends.get.bind fun _ => .pure fun _ h => h.1
  | delete id => cases h
  | preview r =>
    exact .map ((ends_gather around r).bind fun _ => .pure fun _ h => h)
  | generate r =>
    exact .map ((ends_gather around r).bind fun _ => (ends_orFail _ _).bind fun _ => .pure fun _ h => h)

theorem ends_access (around : Surroundings) (step : Step) :
    Ends (Commits start) (step.access around) (fun _ => Commits start) (Commits start) := by
  cases step with
  | save r => exact .map (ends_save r)
  | publish id version => exact .map (ends_publish id version)
  | delete id => exact (ends_delete id).bind fun _ => .pure fun _ h => h
  | _ => exact ends_reading around rfl

/-- A step, whether it fails or not, is a sequence of commits. -/
theorem step_commits (around : Surroundings) (step : Step) (s : Store) :
    Commits s (step.run around s).2 := by
  have hends : Ends (Commits s) (step.access around) _ _ := ends_access around step
  have h := hends s .refl
  change Commits s ((step.access around).run.run s).2
  generalize (step.access around).run.run s = r at h ⊢
  obtain ⟨a | e, t⟩ := r
  · exact h
  · exact h

theorem runAll_commits (around : Surroundings) (steps : List Step) (s : Store) :
    Commits s (runAll around steps s) := by
  induction steps generalizing s with
  | nil => exact .refl
  | cons step steps ih => exact (step_commits around step s).trans (ih _)

end DocTemplate.Store
