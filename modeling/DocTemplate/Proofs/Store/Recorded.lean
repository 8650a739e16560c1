import DocTemplate.Proofs.Layout.RoundTrip
import DocTemplate.Proofs.Layout.Written
import DocTemplate.Proofs.Store.Consistency

/-!
# What a save records

A template that was saved has a row, and so has its version in use: they hold what was asked to be saved,
and from them it can be shown.
-/

namespace DocTemplate.Store

open DocTemplate.Calendar DocTemplate.Catalog

/-! ## Columns -/

mutual

/-- A column keeps plain data as they are, if it can keep them. -/
theorem kept?_eq_self : ∀ {v w : Value}, v.isPlain → kept? v = some w → w = v
  | .null, _, _, h | .bool _, _, _, h | .float _, _, _, h | .text _, _, _, h => (Option.some.inj h).symm
  | .int _, _, _, h => by
    obtain ⟨_, _, rfl⟩ := Option.map_eq_some_iff.mp h
    rfl
  | .list items, _, hplain, h => by
    rw [kept?] at h
    obtain ⟨ws, hws, rfl⟩ := Option.map_eq_some_iff.mp h
    rw [keptItems?_eq_self (Value.isPlain_list.mp hplain) hws]
  | .record fields, _, hplain, h => by
    rw [kept?] at h
    obtain ⟨own, hown, rfl⟩ := Option.map_eq_some_iff.mp h
    rw [keptFields?_eq_self (Value.isPlain_record.mp hplain) hown]
  | .decimal _, _, hplain, _ | .bytes _, _, hplain, _ | .date _, _, hplain, _ => by cases hplain
  | .moment _, _, hplain, _ | .tuple _, _, hplain, _ => by cases hplain

theorem keptItems?_eq_self : ∀ {vs ws : List Value}, (∀ v ∈ vs, v.isPlain) →
    keptItems? vs = some ws → ws = vs
  | [], _, _, h => (Option.some.inj h).symm
  | v :: vs, _, hplain, h => by
    rw [keptItems?] at h
    obtain ⟨w, hw, h⟩ := Option.bind_eq_some_iff.mp h
    obtain ⟨ws, hws, h⟩ := Option.bind_eq_some_iff.mp h
    obtain ⟨hfirst, hrest⟩ := List.forall_mem_cons.mp hplain
    rw [← Option.some.inj h, kept?_eq_self hfirst hw, keptItems?_eq_self hrest hws]

theorem keptFields?_eq_self : ∀ {fields own : List (String × Value)}, (∀ f ∈ fields, f.2.isPlain) →
    keptFields? fields = some own → own = fields
  | [], _, _, h => (Option.some.inj h).symm
  | (key, v) :: fields, _, hplain, h => by
    rw [keptFields?] at h
    obtain ⟨w, hw, h⟩ := Option.bind_eq_some_iff.mp h
    obtain ⟨own, hown, h⟩ := Option.bind_eq_some_iff.mp h
    obtain ⟨hfirst, hrest⟩ := List.forall_mem_cons.mp hplain
    rw [← Option.some.inj h, kept?_eq_self hfirst hw, keptFields?_eq_self hrest hown]

end

/-! ## Rows -/

/-- A template and its version in use have rows. -/
structure Held (t : Template) (v : Version) (s : Store) : Prop where
  row : t ∈ s.templates
  version : v ∈ s.versions
  owner : v.templateId = t.id
  current : t.current = some v.id

/-- The data that a request gives, or none. -/
def SaveRequest.sample (r : SaveRequest) : Value :=
  if r.sampleData.isTruthy then r.sampleData else .record []

/-- A template and its version are as they were asked to be saved. -/
structure SavedFrom (r : SaveRequest) (t : Template) (v : Version) : Prop where
  name : r.name = some t.name
  type : DocumentType.read r.type = .ok t.type
  layout : ∀ source, r.layout = some source → ∃ layout dump, loadLayout source = .ok layout ∧
    dumpLayout layout = .ok dump ∧ keptItems? dump = some v.layout
  sampleData : kept? r.sample = some v.sampleData

variable {s s' : Store} {r : SaveRequest} {t : Template} {v : Version}

theorem run_orFail_ok {ε β : Type} {wrap : ε → StoreFailure} {x : Except ε β} {b : β}
    (h : (orFail wrap x).run.run s = (.ok b, s')) : x = .ok b := by
  cases x with
  | ok a =>
    cases h
    rfl
  | error e => cases h

theorem run_layoutToSave_ok {type : DocumentType} {dump : List Value}
    (h : (layoutToSave r type).run.run s = (.ok dump, s')) {source : Value}
    (hsource : r.layout = some source) :
    ∃ layout, loadLayout source = .ok layout ∧ dumpLayout layout = .ok dump := by
  unfold layoutToSave at h
  rw [hsource] at h
  obtain ⟨layout, s₁, hload, hdump⟩ := run_bind_ok h
  exact ⟨layout, run_orFail_ok hload, run_orFail_ok hdump⟩

/-- A version that was added has a row of its own. -/
theorem run_addVersion_ok {template n : Nat} {layout : List Value}
    (h : (addVersion template layout r).run.run s = (.ok n, s')) :
    s'.templates = s.templates ∧ ∃ v ∈ s'.versions, v.id = n ∧ v.templateId = template ∧
      keptItems? layout = some v.layout ∧ kept? r.sample = some v.sampleData := by
  unfold addVersion at h
  dsimp only at h
  split at h
  · cases h
  · next layout' parameters sampleData hcolumns =>
    obtain ⟨kept, hlayout, hcolumns⟩ := Option.bind_eq_some_iff.mp hcolumns
    obtain ⟨_, _, hcolumns⟩ := Option.bind_eq_some_iff.mp hcolumns
    obtain ⟨sample, hsample, hcolumns⟩ := Option.bind_eq_some_iff.mp hcolumns
    cases hcolumns
    cases h
    exact ⟨rfl, _, List.mem_append_right _ (List.mem_singleton_self _), rfl, rfl, hlayout, hsample⟩

theorem mem_replace_self (h : ∃ u ∈ s.templates, u.id = t.id) : t ∈ (s.replace t).templates := by
  obtain ⟨u, hu, hid⟩ := h
  exact List.mem_map.mpr ⟨u, hu, if_pos hid⟩

/-- A save that answers leaves the rows of what was asked to be saved. -/
theorem held_of_save (h : (save r).run.run s = (.ok t, s')) : ∃ v, SavedFrom r t v ∧ Held t v s' := by
  rw [save_eq] at h
  obtain ⟨type, s₂, htype, h⟩ := run_bind_ok h
  obtain ⟨dump, s₃, hdump, h⟩ := run_bind_ok h
  obtain ⟨u, s₄, hu, h⟩ := run_bind_ok h
  obtain ⟨n, s₅, hn, h⟩ := run_bind_ok h
  obtain ⟨-, hrow⟩ := (ends_templateToSave r type).ok .refl hu
  obtain ⟨htemplates, v, hv, hvid, howner, hlayout, hsample⟩ := run_addVersion_ok hn
  cases hname : r.name with
  | none =>
    rw [hname] at h
    cases h
  | some name =>
    rw [hname] at h
    cases h
    refine ⟨v, ⟨hname, run_orFail_ok htype, fun source hsource => ?_, hsample⟩, ?_⟩
    · obtain ⟨layout, hload, hwrite⟩ := run_layoutToSave_ok hdump hsource
      exact ⟨layout, dump, hload, hwrite, hlayout⟩
    · refine ⟨mem_replace_self ?_, hv, howner, by rw [hvid]⟩
      rwa [← htemplates] at hrow

/-- A step that saves answers with the template of the rows that it leaves. -/
theorem held_of_run_save {around : Surroundings} {reply : Reply}
    (h : ((Step.save r).run around s).1 = .ok reply) :
    ∃ t v, reply = .template (some t) ∧ SavedFrom r t v ∧ Held t v ((Step.save r).run around s).2 := by
  generalize hstore : ((Step.save r).run around s).2 = s'
  have hrun : ((Step.save r).access around).run.run s = (.ok reply, s') := Prod.ext h hstore
  rw [Step.access, map_eq_pure_bind] at hrun
  obtain ⟨t, s₁, hsave, hanswer⟩ := run_bind_ok hrun
  cases hanswer
  obtain ⟨v, hsaved, hheld⟩ := held_of_save hsave
  exact ⟨t, v, rfl, hsaved, hheld⟩

end DocTemplate.Store
