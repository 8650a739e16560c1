import DocTemplate.Proofs.Store.Commit

/-!
# What steps keep

A step changes the rows of the template that it is about, or those of a new one. What holds of a store
before a step, and is kept when such rows are changed, holds after it, whether the step fails or not.
-/

namespace DocTemplate.Store

open DocTemplate.Calendar DocTemplate.Catalog

/-- The template that a step is to change or to take away. -/
def Step.target? : Step → Option Int
  | .save r => r.templateId
  | .publish id _ => some id
  | .delete id => some id
  | _ => none

/-- Whether a step is there to add a template. -/
def Step.adds : Step → Bool
  | .save r => r.templateId.isNone
  | _ => false

/-- What is kept when versions are added to templates in `V`, the rows of templates in `W` are written and
templates in `D` are deleted. -/
structure Keeps (P : Store → Prop) (V W D : Nat → Prop) : Prop where
  addVersion : ∀ s v, P s → V v.templateId → P { s with versions := s.versions ++ [v] }
  write : ∀ s t clock, P s → W t.id → P { s.replace t with clock }
  delete : ∀ s id, P s → D id →
    P { s with templates := s.templates.filter fun t => t.id != id,
               versions := s.versions.filter fun v => v.templateId != id }

/-- What is kept when a template is added, to which versions may be added then and whose row may be
written. -/
structure KeepsNew (P : Store → Prop) (V W : Nat → Prop) : Prop where
  addTemplate : ∀ s t clock, P s → t.id = nextNumber (s.templates.map (·.id)) →
    P { s with templates := s.templates ++ [t], clock }
  fresh : ∀ s, P s → V (nextNumber (s.templates.map (·.id))) ∧ W (nextNumber (s.templates.map (·.id)))

variable {P : Store → Prop} {V W D : Nat → Prop} {r : SaveRequest}

/-! ## Actions -/

theorem keeps_findTemplate (id : Int) :
    Ends P (findTemplate id) (fun t s => P s ∧ (t.id : Int) = id) P :=
  (ends_findTemplate id).mono (fun _ hs => hs) fun _ _ hs => ⟨hs.1, hs.2.2⟩

/-- The template that is saved is the one asked for, or a new one. -/
theorem keeps_templateToSave (hnew : r.templateId = none → KeepsNew P V W)
    (hV : ∀ id : Nat, r.templateId = some (id : Int) → V id) (type : DocumentType) :
    Ends P (templateToSave r type)
      (fun t s => P s ∧ V t.id ∧ ((∀ id : Nat, r.templateId = some (id : Int) → W id) → W t.id)) P := by
  unfold templateToSave
  cases hid : r.templateId with
  | none =>
    have hnew := hnew hid
    dsimp only
    unfold addTemplate
    cases r.name with
    | none => exact .fail fun _ hs => hs
    | some name =>
      intro s hs
      exact ⟨hnew.addTemplate s _ _ hs rfl, (hnew.fresh s hs).1, fun _ => (hnew.fresh s hs).2⟩
  | some id =>
    refine (keeps_findTemplate id).mono (fun _ hs => hs) fun t s hs => ?_
    obtain ⟨hs, rfl⟩ := hs
    exact ⟨hs, hV t.id hid, fun hW => hW t.id rfl⟩

theorem Keeps.addVersion_ends (h : Keeps P V W D) {template : Nat} (hV : V template)
    (layout : List Value) (r : SaveRequest) :
    Ends P (Store.addVersion template layout r) (fun _ => P) P := by
  unfold Store.addVersion
  dsimp only
  split
  · exact .fail fun _ hs => hs
  · exact fun s hs => h.addVersion s _ hs hV

theorem Keeps.write_ends (h : Keeps P V W D) (change : Nat → Template) {id : Nat}
    (hid : ∀ time, (change time).id = id) :
    Ends P
      (do
        let time ← tick
        modify (·.replace (change time))
        pure (change time))
      (fun _ s => W id → P s) P := by
  intro s hs hW
  exact h.write s (change s.clock) (s.clock + 1) hs (by rwa [hid s.clock])

theorem Keeps.save_ends (h : Keeps P V W D) (hnew : r.templateId = none → KeepsNew P V W)
    (hV : ∀ id : Nat, r.templateId = some (id : Int) → V id) :
    Ends P (save r) (fun _ s => (∀ id : Nat, r.templateId = some (id : Int) → W id) → P s) P := by
  rw [save_eq]
  refine (ends_orFail _ _).bind fun type => (ends_layoutToSave r type).bind fun layout => ?_
  refine (keeps_templateToSave hnew hV type).bind fun t => .given fun ht => ?_
  refine (h.addVersion_ends ht.1 layout r).bind fun version => ?_
  -- without a name the save fails, and the version that was added stays
  cases r.name with
  | none => exact .fail fun _ hs => hs
  | some name =>
    let change (time : Nat) : Template :=
      { t with name, description := r.description, type, status := r.status, current := some version,
               updatedAt := time }
    have hid : ∀ time, (change time).id = t.id := fun _ => rfl
    exact (h.write_ends change hid).mono (fun _ hs => hs) fun _ _ hs hW => hs (ht.2 hW)

theorem Keeps.publish_ends (h : Keeps P V W D) (template : Int) (version : Option Int) :
    Ends P (publish template version) (fun _ s => (∀ id : Nat, template = id → W id) → P s) P := by
  unfold publish
  refine (keeps_findTemplate template).bind fun t => .given fun ht => ?_
  have hversion : Ends P (versionToPublish template version) (fun _ => P) P :=
    (ends_versionToPublish template version).mono (fun _ hs => hs) fun _ _ hs => hs.1
  refine hversion.bind fun current => ?_
  let change (time : Nat) : Template :=
    { t with status := .published, publishedAt := some time, current, updatedAt := time }
  have hid : ∀ time, (change time).id = t.id := fun _ => rfl
  exact (h.write_ends change hid).mono (fun _ hs => hs) fun _ _ hs hW => hs (hW t.id ht.symm)

theorem Keeps.delete_ends (h : Keeps P V W D) (template : Int) :
    Ends P (Store.delete template) (fun _ s => (∀ id : Nat, template = id → D id) → P s) P :=
  (keeps_findTemplate template).bind fun t => .given fun ht =>
    .modify fun s hs hD => h.delete s t.id hs (hD t.id ht.symm)

/-! ## Steps -/

/-- A step keeps what is kept when the rows of its template are changed. A step that fails keeps also what
only the versions of its template may be added to. -/
theorem Keeps.access (h : Keeps P V W D) {step : Step} (hnew : step.adds → KeepsNew P V W)
    (hV : ∀ id : Nat, step.target? = some (id : Int) → V id) (around : Surroundings) :
    Ends P (step.access around)
      (fun _ s => (∀ id : Nat, step.target? = some (id : Int) → W id) →
        (∀ id : Nat, step = .delete id → D id) → P s) P := by
  cases step with
  | save r =>
    have hnone : r.templateId = none → KeepsNew P V W := fun hid => hnew (by rw [Step.adds, hid]; rfl)
    exact .map ((h.save_ends hnone hV).mono (fun _ hs => hs) fun _ _ hs hW _ => hs hW)
  | publish id version =>
    refine .map ((h.publish_ends id version).mono (fun _ hs => hs) fun _ _ hs hW _ => hs fun n hn => ?_)
    exact hW n (by rw [Step.target?, hn])
  | delete id =>
    refine (h.delete_ends id).bind fun _ => .pure fun _ hs _ hD => hs fun n hn => ?_
    exact hD n (by rw [hn])
  | _ => exact (ends_reading around rfl).mono (fun _ hs => hs) fun _ _ hs _ _ => hs

/-- A step that may change the rows of its template, or that fails, keeps what is kept. -/
theorem Keeps.run (h : Keeps P V W D) {step : Step} {around : Surroundings} {s : Store}
    (hnew : step.adds → KeepsNew P V W) (hV : ∀ id : Nat, step.target? = some (id : Int) → V id)
    (hchange : (∀ e, (step.run around s).1 ≠ .error e) →
      (∀ id : Nat, step.target? = some (id : Int) → W id) ∧ ∀ id : Nat, step = .delete id → D id)
    (hs : P s) : P (step.run around s).2 := by
  have hend := h.access hnew hV around s hs
  change (∀ e, ((step.access around).run.run s).1 ≠ .error e) → _ at hchange
  change P ((step.access around).run.run s).2
  generalize (step.access around).run.run s = result at hend hchange ⊢
  obtain ⟨e | reply, t⟩ := result
  · exact hend
  · obtain ⟨hW, hD⟩ := hchange fun e he => by cases he
    exact hend hW hD

end DocTemplate.Store
