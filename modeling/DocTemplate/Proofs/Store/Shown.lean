import DocTemplate.Proofs.Layout.Reloaded
import DocTemplate.Proofs.Page.Course
import DocTemplate.Proofs.Store.Spared
import Mathlib.Data.List.Nodup

/-!
# Templates are shown as they were saved

Going through the rows of a store changes nothing that is shown: a template that was saved is shown like the
layout and the data that were given, whatever happened since then to other templates. Main statement:
`shown_as_saved`.
-/

namespace DocTemplate.Store

open DocTemplate.Calendar DocTemplate.Catalog DocTemplate.Page

/-- What asks for a template as it is stored. -/
def ShowRequest.stored (id : Int) : ShowRequest := ⟨some id, none, .null, .null⟩

/-- A template is shown as the documents that are made of a layout with the data and the title of some inputs,
and showing it changes nothing. -/
structure Shows (around : Surroundings) (s : Store) (id : Int) (layout : Layout) (inputs : Inputs) : Prop where
  preview : (Step.preview (.stored id)).run around s = (.ok (.preview
    ⟨Html.document layout (.record inputs.data) (some inputs.title), inputs⟩), s)
  generate : ∃ pages, drawDocument .standard .standard none around.pictures layout (.record inputs.data)
      (some inputs.title) = .ok pages ∧
    (Step.generate (.stored id)).run around s = (.ok (.generated ⟨pages, inputs⟩), s)

variable {around : Surroundings} {s : Store} {t : Template} {v : Version}

/-! ## Rows -/

/-- Where rows have numbers of their own, a row is the first one with its number. -/
theorem find?_eq_some_of_nodup {α : Type} {number : α → Nat} {rows : List α}
    (h : (rows.map number).Nodup) {a : α} (ha : a ∈ rows) :
    (rows.find? fun b => (number b : Int) == (number a : Int)) = some a := by
  cases hfind : rows.find? fun b => (number b : Int) == (number a : Int) with
  | none => simpa using List.find?_eq_none.mp hfind a ha
  | some b =>
    have hnumber : number b = number a := Int.ofNat.inj (by simpa using List.find?_some hfind)
    rw [List.inj_on_of_nodup_map h (List.mem_of_find?_eq_some hfind) ha hnumber]

theorem run_findTemplate (hs : Consistent s) (ht : t ∈ s.templates) (hid : (t.id : Int) ≤ lastNumber) :
    (findTemplate t.id).run.run s = (.ok t, s) := by
  have hfirst : -lastNumber - 1 ≤ (t.id : Int) := by
    unfold lastNumber
    omega
  have hrow : s.template? t.id = some t := find?_eq_some_of_nodup hs.templateIds ht
  have hcheck : checkNumber t.id = pure () := if_pos ⟨hfirst, hid⟩
  have hget : (get : Access Store).run.run s = (.ok s, s) := rfl
  unfold findTemplate
  rw [hcheck, pure_bind, run_bind, hget]
  dsimp only
  rw [hrow]
  rfl

/-! ## Inputs -/

/-- What is shown of a template is made of its rows. -/
theorem run_gather (hs : Consistent s) (h : Held t v s) (hid : (t.id : Int) ≤ lastNumber)
    {layout : Layout} (hload : loadLayout (.list v.layout) = .ok layout) {data : Fields}
    (hdata : documentRecord around.providers around.today t.type v.sampleData = .ok data) :
    (gather around (.stored t.id)).run.run s = (.ok ⟨layout, t.type, data, t.name⟩, s) := by
  have htemplate : (shownTemplate (some (t.id : Int))).run.run s = (.ok (some t), s) := by
    rw [shownTemplate, map_eq_pure_bind, run_bind, run_findTemplate hs h.row hid]
    rfl
  have hcurrent : (((some t).bind fun t => t.current).bind fun id => s.version? (id : Int)) = some v := by
    rw [Option.bind_some, h.current, Option.bind_some]
    exact find?_eq_some_of_nodup hs.versionIds h.version
  have htype : shownType (.stored t.id) (some t) = pure t.type := rfl
  have hlayout : shownLayout (.stored t.id) (some v) t.type = orFail .unreadable (.ok layout) := by
    rw [← hload]
    rfl
  have hpayload : shownPayload (.stored t.id) (some v) = v.sampleData := rfl
  have hstored : (ShowRequest.stored t.id).templateId = some (t.id : Int) := rfl
  have hget : (get : Access Store).run.run s = (.ok s, s) := rfl
  unfold gather
  rw [run_bind, hstored, htemplate]
  dsimp only
  rw [run_bind, hget]
  dsimp only
  rw [hcurrent, htype, pure_bind, hlayout, hpayload, hdata]
  rfl

/-- On standard pages every layout can be drawn. -/
theorem exists_pages (pictures : Pictures Float) (layout : Layout) (context : Value) (title : Option String) :
    ∃ pages : Drawn Float, drawDocument .standard .standard none pictures layout context title = .ok pages := by
  let d : Setup Float :=
    ⟨.standard, .standard, context, (given? title).getD defaultTitle, frameHook .standard .standard, pictures⟩
  have hreturns : d.hook.Returns d.title := returns_standardFrame d.title
  obtain ⟨drawn, -, hdrawn⟩ := document_eq_ok hreturns layout
  exact ⟨_, hdrawn⟩

theorem run_preview {q : ShowRequest} {inputs : Inputs} {s' : Store}
    (h : (gather around q).run.run s = (.ok inputs, s')) : (Step.preview q).run around s =
      (.ok (.preview ⟨Html.document inputs.layout (.record inputs.data) (some inputs.title), inputs⟩),
        s') := by
  change (Reply.preview <$> Store.preview around q).run.run s = _
  rw [map_eq_pure_bind, Store.preview, bind_assoc, run_bind, h]
  rfl

/-- The documents of a template are those of what is gathered for it, and of each layout that differs from that
in what is hidden. -/
theorem shows_of_run_gather {id : Int} {inputs : Inputs} {layout : Layout}
    (hlayout : ∀ context, Retouched context layout inputs.layout)
    (h : (gather around (.stored id)).run.run s = (.ok inputs, s)) : Shows around s id layout inputs := by
  obtain ⟨hhtml, hpages⟩ := hidden_leaves_no_trace (hlayout (.record inputs.data)) (some inputs.title)
    .standard .standard none around.pictures
  obtain ⟨pages, hdrawn⟩ := exists_pages around.pictures inputs.layout (.record inputs.data) (some inputs.title)
  refine ⟨by rw [hhtml, run_preview h], pages, hpages.trans hdrawn, ?_⟩
  change (Reply.generated <$> Store.generate around (.stored id)).run.run s = _
  rw [map_eq_pure_bind, Store.generate, bind_assoc, run_bind, h]
  dsimp only
  rw [hdrawn]
  rfl

/-! ## What was saved -/

variable {r : SaveRequest} {source : Value} {layout : Layout} {fields : Fields}

/-- The version in use has a layout with the documents of the one that was given. -/
theorem SavedFrom.exists_loadLayout (h : SavedFrom r t v) (hlayout : r.layout = some source)
    (hplain : source.isPlain) (hload : loadLayout source = .ok layout)
    (hfinite : ∀ v ∈ layout.compared, v.isFiniteData) :
    ∃ reloaded, loadLayout (.list v.layout) = .ok reloaded ∧
      (∀ context, Retouched context layout reloaded) ∧
      ((∀ v ∈ layout.loose, v.isFiniteData) → reloaded = layout) := by
  obtain ⟨saved, dump, hsaved, hdump, hkept⟩ := h.layout source hlayout
  obtain rfl := Except.ok.inj (hload.symm.trans hsaved)
  rw [keptItems?_eq_self (isPlain_dumpComponents hdump) hkept]
  exact retouched_of_dumpLayout hplain hload hfinite hdump

/-- The version in use has the data that were given. -/
theorem SavedFrom.sampleData_eq (h : SavedFrom r t v) (hdata : r.sampleData = .record fields)
    (hplain : (Value.record fields).isPlain) : v.sampleData = .record fields := by
  have hsample : r.sample = .record fields := by
    rw [SaveRequest.sample, hdata]
    cases fields <;> rfl
  have hkept := h.sampleData
  rw [hsample] at hkept
  exact kept?_eq_self hplain hkept

/-- Data that are a record always give a record for a document. -/
theorem exists_documentRecord (providers : Providers) (today : Date) (type : DocumentType) (fields : Fields) :
    ∃ data, documentRecord providers today type (.record fields) = .ok data := by
  unfold documentRecord
  cases fields <;> cases providers type <;> exact ⟨_, rfl⟩

/-- A template, with a number that a row can have, that was saved with a layout and data that are plain, and
with no infinity among the values that known components of the layout are compared with, is shown as the
documents of this layout, these data and its name, whatever was done before, and whatever was done since then
that spared it. The layout that is read for this is the one that was given, if there is no infinity among its
loose values. -/
theorem shown_as_saved (around later : Surroundings) (before after : List Step) (hlayout : r.layout = some source)
    (hsource : source.isPlain) (hload : loadLayout source = .ok layout)
    (hfinite : ∀ v ∈ layout.compared, v.isFiniteData) (hdata : r.sampleData = .record fields)
    (hfields : (Value.record fields).isPlain)
    (hsave : ((Step.save r).run around (runAll around before empty)).1 = .ok (.template (some t)))
    (hid : (t.id : Int) ≤ lastNumber)
    (hspared : Spared around t.id after ((Step.save r).run around (runAll around before empty)).2) :
    ∃ name type data reloaded, r.name = some name ∧ DocumentType.read r.type = .ok type ∧
      documentRecord later.providers later.today type r.sampleData = .ok data ∧
      ((∀ v ∈ layout.loose, v.isFiniteData) → reloaded = layout) ∧
      Shows later (runAll around (before ++ .save r :: after) empty) t.id layout
        ⟨reloaded, type, data, name⟩ := by
  obtain ⟨_, v, hreply, hsaved, hheld⟩ := held_of_run_save hsave
  cases hreply
  have hrun : runAll around (before ++ .save r :: after) empty =
      runAll around after ((Step.save r).run around (runAll around before empty)).2 := by
    simp only [runAll, List.foldl_append, List.foldl_cons]
  have hconsistent : Consistent (runAll around (before ++ .save r :: after) empty) :=
    consistent_empty.commits (runAll_commits ..)
  have hrows : Held t v (runAll around (before ++ .save r :: after) empty) := by
    rw [hrun]
    exact hheld.runAll hspared
  obtain ⟨reloaded, hreload, hretouched, hsame⟩ := hsaved.exists_loadLayout hlayout hsource hload hfinite
  obtain ⟨data, hrecord⟩ := exists_documentRecord later.providers later.today t.type fields
  refine ⟨t.name, t.type, data, reloaded, hsaved.name, hsaved.type, hdata ▸ hrecord, hsame,
    shows_of_run_gather hretouched (run_gather hconsistent hrows hid hreload ?_)⟩
  rw [hsaved.sampleData_eq hdata hfields]
  exact hrecord

def winterDay : Surroundings := .plain ⟨2024, 2, 4, rfl⟩

def summerDay : Surroundings := .plain ⟨2024, 7, 1, rfl⟩

/-- A delivery docket without components. -/
def docketRequest : SaveRequest where
  name := some "Docket"
  type := .text "delivery_docket"
  layout := some (.list [])
  templateId := none
  description := none
  parameters := .null
  sampleData := .null
  notes := none
  status := .draft

/-- An invoice with a gauge, and data for it. -/
def gaugeRequest : SaveRequest :=
  { docketRequest with
    name := some "Gauge", type := .text "invoice", layout := some gaugeSource
    sampleData := .record [("child", .record [("level", .int 3)])] }

def gaugeTemplate : Template := ⟨2, "Gauge", none, .invoice, .draft, some 2, none, 3⟩

/-- A template takes the number of one that was deleted, the first one is published, and the invoice is
neither saved without a name nor published with a version that there is not. -/
def laterSteps : List Step :=
  [.save docketRequest, .delete 3, .save docketRequest, .publish 1 none,
    .save { gaugeRequest with templateId := some 2, name := none }, .publish 2 (some 9), .list]

theorem gauge_shown_as_saved :
    ((Step.save gaugeRequest).run winterDay (runAll winterDay [.save docketRequest] empty)).1 =
        .ok (.template (some gaugeTemplate)) ∧
      Spared winterDay 2 laterSteps
        ((Step.save gaugeRequest).run winterDay (runAll winterDay [.save docketRequest] empty)).2 ∧
      ∃ name type data reloaded, gaugeRequest.name = some name ∧
        DocumentType.read gaugeRequest.type = .ok type ∧
        documentRecord summerDay.providers summerDay.today type gaugeRequest.sampleData = .ok data ∧
        ((∀ v ∈ gaugeLayout.loose, v.isFiniteData) → reloaded = gaugeLayout) ∧
        Shows summerDay
          (runAll winterDay ([.save docketRequest] ++ .save gaugeRequest :: laterSteps) empty) 2 gaugeLayout
          ⟨reloaded, type, data, name⟩ := by
  have hfinite : ∀ v ∈ gaugeLayout.compared, v.isFiniteData := by decide +kernel
  have hsave : ((Step.save gaugeRequest).run winterDay
      (runAll winterDay [.save docketRequest] empty)).1 = .ok (.template (some gaugeTemplate)) := rfl
  have hspared : Spared winterDay 2 laterSteps
      ((Step.save gaugeRequest).run winterDay (runAll winterDay [.save docketRequest] empty)).2 :=
    ⟨nofun, nofun, nofun, nofun, fun _ => ⟨_, rfl⟩, fun _ => ⟨_, rfl⟩, nofun, trivial⟩
  exact ⟨hsave, hspared, shown_as_saved winterDay summerDay _ _ rfl (by decide +kernel) rfl hfinite rfl
    (by decide +kernel) hsave (by decide) hspared⟩

/-! ## Infinities -/

/-- A template is not shown as a document with its title whose elements are printed as other ones. -/
theorem exists_preview_ne {id : Int} {inputs : Inputs}
    (h : ((gather around (.stored id)).run.run s).1 = .ok inputs) {layout : Layout} {context : Value}
    (hbody : Html.printNodes (Html.body inputs.layout (.record inputs.data)) ≠
      Html.printNodes (Html.body layout context)) :
    ∃ shown, ((Step.preview (.stored id)).run around s).1 = .ok (.preview shown) ∧
      shown.html ≠ Html.document layout context (some inputs.title) := by
  refine ⟨_, congrArg Prod.fst (run_preview (Prod.ext h rfl)), fun heq => hbody ?_⟩
  have hchars := String.ofList_injective heq
  rwa [List.append_left_inj, List.append_right_inj] at hchars

/-- An invoice with text that is shown where a value is infinite, and no data. -/
def overflowRequest : SaveRequest :=
  { docketRequest with
    name := some "Overflow", type := .text "invoice", layout := some overflowSource
    sampleData := .record [] }

/-- The store in which it was saved. -/
def overflowStore : Store := ((Step.save overflowRequest).run winterDay empty).2

/-- A template with an infinity among the loose values of its layout is not shown as it was saved: it is
saved with a null there. -/
theorem infinity_is_not_shown : overflowSource.isPlain ∧ ∃ layout data t shown,
    loadLayout overflowSource = .ok layout ∧ sameLayout layout layout ∧
      documentRecord winterDay.providers winterDay.today .invoice overflowRequest.sampleData = .ok data ∧
      ((Step.save overflowRequest).run winterDay empty).1 = .ok (.template (some t)) ∧
      ((Step.preview (.stored t.id)).run winterDay overflowStore).1 = .ok (.preview shown) ∧
      shown.html ≠ Html.document layout (.record data) (some "Overflow") := by
  refine ⟨by decide +kernel, ?_⟩
  let data : Fields := baseFields winterDay.today .invoice
  have hload : (loadLayout overflowSource).toOption.any fun layout =>
      sameLayout layout layout && (Html.printNodes (Html.body layout (.record data))).isEmpty := by
    decide +kernel
  have hsave : ((Step.save overflowRequest).run winterDay empty).1.toOption.any fun _ => true := by
    decide +kernel
  have hids : overflowStore.templates.map (·.id) = [1] := by decide +kernel
  have hgather : ((gather winterDay (.stored 1)).run.run overflowStore).1.toOption.any fun inputs =>
      inputs.title == "Overflow" &&
        !(Html.printNodes (Html.body inputs.layout (.record inputs.data))).isEmpty := by
    decide +kernel
  obtain ⟨layout, hload, hempty⟩ := exists_ok_of_any hload
  obtain ⟨hsame, hempty⟩ := Bool.and_eq_true_iff.mp hempty
  obtain ⟨reply, hsave, -⟩ := exists_ok_of_any hsave
  obtain ⟨inputs, hgather, hshown⟩ := exists_ok_of_any hgather
  obtain ⟨htitle, hshown⟩ := Bool.and_eq_true_iff.mp hshown
  obtain ⟨t, v, rfl, -, hheld⟩ := held_of_run_save hsave
  have hstore : overflowStore = ((Step.save overflowRequest).run winterDay empty).2 := by
    rw [overflowStore]
  rw [← hstore] at hheld
  have hid : t.id ∈ overflowStore.templates.map (·.id) := List.mem_map_of_mem hheld.row
  rw [hids, List.mem_singleton] at hid
  have hbody : Html.printNodes (Html.body inputs.layout (.record inputs.data)) ≠
      Html.printNodes (Html.body layout (.record data)) := by
    intro heq
    rw [heq, hempty] at hshown
    cases hshown
  obtain ⟨shown, hpreview, hne⟩ := exists_preview_ne hgather hbody
  rw [beq_iff_eq.mp htitle] at hne
  refine ⟨layout, data, t, shown, hload, hsame, rfl, hsave, ?_, hne⟩
  rw [hid]
  exact hpreview

end DocTemplate.Store
