import DocTemplate.Proofs.Store.Commit

/-!
# Failing steps

What a step that fails leaves of the rows. Publishing and deleting write all or nothing. A save writes row
after row: it leaves part of them where a new template has data that no column keeps, or where a template
that is there is saved without a name. Main statement: `rows_after_failure`.
-/

namespace DocTemplate.Store

open DocTemplate.Catalog

/-- Two stores have the same rows. -/
structure SameRows (s t : Store) : Prop where
  templates : t.templates = s.templates
  versions : t.versions = s.versions

/-- A layout as it is written that a request saves: the one that is given, or a standard one. -/
inductive SaveRequest.Dumps (r : SaveRequest) (dump : List Value) : Prop
  | given (raw : Value) (layout : Layout) (hraw : r.layout = some raw)
      (hload : loadLayout raw = .ok layout) (hdump : dumpLayout layout = .ok dump)
  | standard (type : DocumentType) (hnone : r.layout = none)
      (hdump : dumpLayout (defaultLayout type) = .ok dump)

/-- What columns keep of a layout and of the data of a request, if they can keep all of it. -/
def SaveRequest.columns? (r : SaveRequest) (layout : List Value) : Option (List Value × Value × Value) := do
  let layout ← keptItems? layout
  let parameters ← kept? (if r.parameters.isTruthy then r.parameters else .record [])
  let sampleData ← kept? (if r.sampleData.isTruthy then r.sampleData else .record [])
  some (layout, parameters, sampleData)

/-- A request whose rows can all be written once one of them is: a new template has data that columns keep,
and a template that is there keeps a name. -/
structure SaveRequest.Writable (r : SaveRequest) : Prop where
  kept : r.templateId = none → ∀ dump, r.Dumps dump → r.columns? dump ≠ none
  named : r.templateId ≠ none → r.name ≠ none

variable {P Q : Store → Prop} {r : SaveRequest}

/-! ## Parts of a save -/

theorem ends_layoutToSave_dumps (type : DocumentType) :
    Ends P (layoutToSave r type) (fun dump s => P s ∧ r.Dumps dump) P := by
  have hdump {layout : Layout} (h : ∀ dump, dumpLayout layout = .ok dump → r.Dumps dump) :
      Ends P (orFail .failed (dumpLayout layout)) (fun dump s => P s ∧ r.Dumps dump) P :=
    (ends_orFail_ok _ _).mono (fun _ hs => hs) fun dump _ hs => ⟨hs.1, h dump hs.2⟩
  unfold layoutToSave
  cases hlayout : r.layout with
  | none => exact hdump fun dump hd => .standard type hlayout hd
  | some raw =>
    refine (ends_orFail_ok _ _).bind fun layout => Ends.given fun hload => ?_
    exact hdump fun dump hd => .given raw layout hlayout hload hd

/-- A version that cannot be written leaves the rows as they are. -/
theorem ends_addVersion_of_columns? (template : Nat) (layout : List Value)
    (h : r.columns? layout = none → ∀ s, Q s → P s) :
    Ends Q (addVersion template layout r) (fun _ _ => True) P := by
  unfold addVersion
  dsimp only
  split
  · next hcolumns => exact .fail (h hcolumns)
  · exact fun _ _ => trivial

/-- A template is found or added, or nothing is written. Where it is found the rows are as they were, and
where it is added it has a name. -/
theorem ends_templateToSave_rows (type : DocumentType) :
    Ends P (templateToSave r type)
      (fun _ s => (r.templateId ≠ none → P s) ∧ (r.templateId = none → r.name ≠ none)) P := by
  unfold templateToSave
  cases hid : r.templateId with
  | none =>
    unfold addTemplate
    cases r.name with
    | none => exact .fail fun _ hs => hs
    | some name => exact fun _ _ => ⟨fun hne => absurd rfl hne, fun _ => Option.some_ne_none name⟩
  | some id =>
    refine (ends_findTemplate id).mono (fun _ hs => hs) fun _ _ hs => ⟨fun _ => hs.1, ?_⟩
    intro hnone
    cases hnone

/-! ## Steps -/

/-- A save that fails leaves what held before, if its rows can be written. -/
theorem ends_save_of_writable (h : r.Writable) : Ends P (save r) (fun _ _ => True) P := by
  rw [save_eq]
  refine (ends_orFail _ _).bind fun type => (ends_layoutToSave_dumps type).bind fun dump =>
    Ends.given fun hdump => (ends_templateToSave_rows type).bind fun t => ?_
  by_cases hnamed : r.name = none
  · -- A template without a name is not added, and one that is there is not saved without a name.
    intro s hs
    by_cases hid : r.templateId = none
    · exact absurd hnamed (hs.2 hid)
    · exact absurd hnamed (h.named hid)
  · obtain ⟨name, hname⟩ := Option.ne_none_iff_exists'.mp hnamed
    rw [hname]
    refine Ends.bind (ends_addVersion_of_columns? t.id dump ?_) fun version _ _ => trivial
    intro hcolumns s hs
    exact hs.1 fun hid => h.kept hid dump hdump hcolumns

theorem ends_publish_rows (template : Int) (version : Option Int) :
    Ends P (publish template version) (fun _ _ => True) P := by
  refine (ends_findTemplate template).bind fun t => ?_
  refine Ends.bind ((ends_versionToPublish template version).fails fun _ hs => hs.1) fun current => ?_
  exact fun _ _ => trivial

theorem ends_delete_rows (template : Int) : Ends P (delete template) (fun _ _ => True) P :=
  (ends_findTemplate template).bind fun _ _ _ => trivial

/-- A step that fails leaves all rows as they are, unless it is a save that can write only some of its
rows. -/
theorem rows_after_failure (around : Surroundings) (step : Step) (s t : Store) (e : StoreFailure)
    (hsave : ∀ r, step = .save r → r.Writable) (hfails : step.run around s = (.error e, t)) :
    SameRows s t := by
  have hstep : Ends (SameRows s) (step.access around) (fun _ _ => True) (SameRows s) := by
    cases step with
    | save r => exact .map (ends_save_of_writable (hsave r rfl))
    | publish id version => exact .map (ends_publish_rows id version)
    | delete id => exact (ends_delete_rows id).bind fun _ _ _ => trivial
    | get | version | versions | list | preview | generate =>
      exact (ends_reading around rfl).mono (fun _ hs => hs) fun _ _ _ => trivial
  have hrun : (step.access around).run.run s = (.error e, t) := hfails
  have hend := hstep s ⟨rfl, rfl⟩
  rw [hrun] at hend
  exact hend

/-! ## A quote -/

/-- A template with an empty layout. -/
def quoteRequest : SaveRequest :=
  ⟨some "Quote", .text "invoice", some (.list []), none, none, .null, .null, none, .draft⟩

/-- Where quotes are saved. -/
def quoteSurroundings : Surroundings := .plain ⟨2024, 3, 9, rfl⟩

/-- A store that holds a quote. -/
def quoteStore : Store := ((Step.save quoteRequest).run quoteSurroundings .empty).2

/-- Sample data with a date, which no column keeps, for the quote that is there. -/
def datedUpdate : SaveRequest :=
  { quoteRequest with
    templateId := some 1
    sampleData := .record [("issued", .date quoteSurroundings.today)] }

/-- A quote that is there is left alone by a date. -/
theorem dated_update_leaves_rows :
    (∀ r, Step.save datedUpdate = .save r → r.Writable) ∧
      ∃ t, (Step.save datedUpdate).run quoteSurroundings quoteStore = (.error .unwritable, t) ∧
        SameRows quoteStore t := by
  have hwritable : ∀ r, Step.save datedUpdate = .save r → r.Writable := by
    rintro r ⟨⟩
    constructor
    · intro hid
      cases hid
    · intro _ hname
      cases hname
  exact ⟨hwritable, _, rfl, rows_after_failure quoteSurroundings _ quoteStore _ .unwritable hwritable rfl⟩

/-- The quote that is there, without a name. -/
def namelessUpdate : SaveRequest := { quoteRequest with name := none, templateId := some 1 }

/-- A quote that is saved without a name fails, and keeps a version that no template uses. A new quote with a date
fails, and its template stays without a version. -/
theorem nameless_update_leaves_version :
    (∃ t, (Step.save namelessUpdate).run quoteSurroundings quoteStore = (.error .unnamed, t) ∧
      quoteStore.versions.length = 1 ∧ t.versions.length = 2 ∧ ¬SameRows quoteStore t) ∧
    ∃ t, (Step.save { datedUpdate with templateId := none }).run quoteSurroundings .empty =
      (.error .unwritable, t) ∧ ¬SameRows .empty t := by
  refine ⟨⟨_, rfl, rfl, rfl, fun h => ?_⟩, _, rfl, fun h => ?_⟩
  · exact absurd (congrArg List.length h.versions) (by decide)
  · exact absurd h.templates (List.cons_ne_nil _ _)

end DocTemplate.Store
