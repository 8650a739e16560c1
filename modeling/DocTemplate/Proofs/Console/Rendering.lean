import DocTemplate.Proofs.Artifact.Placing
import DocTemplate.Proofs.Store.Shown

/-!
# Rendering files

A command to render writes both files of a document or changes nothing on the disk, if its title is a text and no
surrogate stands alone in what it reads. It renders whenever the layout and the data can be read. Main statement:
`render_is_all_or_nothing`.
-/

namespace DocTemplate.Console

open DocTemplate.Artifact DocTemplate.Page DocTemplate.Text

/-! ## Disks -/

namespace Disk

variable {d : Disk} {p q : Place} {c : Content}

theorem lookup_map_of_ne {files : List (Place × Content)} (h : q ≠ p) :
    (files.map fun f => if f.1 = p then (p, c) else f).lookup q = files.lookup q := by
  have hbeq : (q == p) = false := beq_eq_false_iff_ne.mpr h
  induction files with
  | nil => rfl
  | cons f files ih =>
    obtain ⟨place, content⟩ := f
    by_cases hplace : place = p
    · simp [List.lookup_cons, hplace, hbeq, ih]
    · simp [List.lookup_cons, hplace, ih]

/-- Writing a file leaves what is at other places. -/
theorem content?_write_of_ne (h : resolved q ≠ resolved p) : (d.write p c).content? q = d.content? q := by
  have hbeq : (resolved q == resolved p) = false := beq_eq_false_iff_ne.mpr h
  unfold content? write
  by_cases hany : d.files.any (·.1 = resolved p)
  · simp only [hany, if_true]
    exact lookup_map_of_ne h
  · simp [hany, List.lookup_append, List.lookup_cons, hbeq]

theorem hasFile_write_of_ne (h : resolved q ≠ resolved p) : (d.write p c).hasFile q = d.hasFile q := by
  rw [hasFile, content?_write_of_ne h, hasFile]

theorem mem_pathTo_self (p : Place) : p ∈ pathTo p :=
  List.mem_map.mpr ⟨p.names.length, by simp, by simp⟩

/-- A directory can be made exactly if no file is on the way to it and all names are short. -/
theorem obstacle?_eq_none_iff :
    d.obstacle? p = none ↔ (∀ q ∈ pathTo p, d.hasFile q = false) ∧ hasShortNames p := by
  unfold obstacle?
  by_cases hfile : d.hasFile p
  · have hsome : ¬∀ q ∈ pathTo p, d.hasFile q = false := fun h => by simp [h p (mem_pathTo_self p)] at hfile
    simp [hfile, hsome]
  · by_cases hpath : (pathTo p).any d.hasFile
    · have hsome : ¬∀ q ∈ pathTo p, d.hasFile q = false := by
        obtain ⟨q, hq, hfile⟩ := List.any_eq_true.mp hpath
        exact fun h => by simp [h q hq] at hfile
      simp [hfile, hpath, hsome]
    · have hall : ∀ q ∈ pathTo p, d.hasFile q = false := by simpa using hpath
      by_cases hshort : hasShortNames p
      · simpa [hfile, hpath, hshort] using hall
      · simp [hfile, hpath, hshort]

theorem obstacle?_makeDirectory : (d.makeDirectory q).obstacle? p = d.obstacle? p := by
  unfold makeDirectory
  split <;> rfl

/-- The directory above a file can be made again once the file is written, if there is no directory in the
place of the file. -/
theorem obstacle?_write (h : d.obstacle? p = none) (hne : ∀ r ∈ pathTo p, resolved r ≠ resolved q) :
    (d.write q c).obstacle? p = none := by
  obtain ⟨hfiles, hshort⟩ := obstacle?_eq_none_iff.mp h
  refine obstacle?_eq_none_iff.mpr ⟨fun r hr => ?_, hshort⟩
  rw [hasFile_write_of_ne (hne r hr)]
  exact hfiles r hr

/-- A directory that was made is where its path leads, step by step. -/
theorem hasDirectory_of_made {r : Place} (hmade : p ∈ d.made) (hr : r ∈ pathTo p)
    (h : resolved r = resolved q) : d.hasDirectory q := by
  unfold hasDirectory
  simp only [Bool.or_eq_true, List.any_eq_true, decide_eq_true_eq]
  exact .inr ⟨p, hmade, r, hr, h⟩

theorem mem_made_makeDirectory (d : Disk) (p : Place) : p ∈ (d.makeDirectory p).made := by
  unfold makeDirectory
  split
  · assumption
  · exact List.mem_cons_self

theorem makeDirectory_of_mem (h : p ∈ d.made) : d.makeDirectory p = d := if_pos h

theorem mem_files_write {f : Place × Content} (h : f ∈ (d.write p c).files) :
    f ∈ d.files ∨ f = (resolved p, c) := by
  unfold write at h
  by_cases hany : d.files.any (·.1 = resolved p)
  · simp only [hany, if_true, List.mem_map] at h
    obtain ⟨g, hg, rfl⟩ := h
    by_cases hplace : g.1 = resolved p
    · exact .inr (if_pos hplace)
    · exact .inl (by rwa [if_neg hplace])
  · simpa [hany] using h

/-- No directory is made at a place when a file is written that is not below it. -/
theorem hasDirectory_write (h : d.hasDirectory q = false)
    (hbelow : (resolved p).names.length ≤ (resolved q).names.length) :
    (d.write p c).hasDirectory q = false := by
  unfold hasDirectory at h ⊢
  simp only [Bool.or_eq_false_iff, List.any_eq_false, Bool.and_eq_true, decide_eq_true_eq] at h ⊢
  obtain ⟨⟨hroot, hfiles⟩, hmade⟩ := h
  refine ⟨⟨hroot, fun f hf => ?_⟩, hmade⟩
  rcases mem_files_write hf with hf | rfl
  · exact hfiles f hf
  · exact fun habove => Nat.not_lt.mpr hbelow habove.2

end Disk

/-! ## Files of documents -/

/-- A disk takes the files of a document with a slug: its directory can be made, and no directory is where
one of its files is to be. -/
structure Takes (d : Disk) (base : Place) (slug : String) : Prop where
  free : d.obstacle? (documentDirectory base slug true) = none
  places : ∀ kind, (d.makeDirectory (documentDirectory base slug true)).hasDirectory
    (filePlace base slug kind true) = false

/-- A disk on which the files of a document were written. -/
def withDocument (d : Disk) (base : Place) (slug html : String) (pages : Drawn Float) : Disk :=
  ((d.makeDirectory (documentDirectory base slug true)).write (filePlace base slug .html true)
    (.text html)).write (filePlace base slug .pdf true) (.pages pages)

variable {s : Session} {d : Disk} {base : Place} {slug : List Char} {c : Content}

/-- The directory of a document can be made again once its first file is written. -/
theorem Takes.obstacle?_write (h : Takes d base (String.ofList slug)) (kind : FileKind) :
    ((d.makeDirectory (documentDirectory base (String.ofList slug) true)).write
      (filePlace base (String.ofList slug) kind true) c).obstacle?
        (documentDirectory base (String.ofList slug) true) = none := by
  refine Disk.obstacle?_write (Disk.obstacle?_makeDirectory.trans h.free) fun r hr heq => ?_
  have hdirectory := Disk.hasDirectory_of_made (d.mem_made_makeDirectory _) hr heq
  rw [h.places kind] at hdirectory
  cases hdirectory

/-- The place of a file of a document stays free when the other file is written. -/
theorem Takes.hasDirectory_write (h : Takes d base (String.ofList slug)) (hslug : IsSlug slug)
    (kind other : FileKind) :
    ((d.makeDirectory (documentDirectory base (String.ofList slug) true)).write
      (filePlace base (String.ofList slug) other true) c).hasDirectory
        (filePlace base (String.ofList slug) kind true) = false := by
  refine Disk.hasDirectory_write (h.places kind) ?_
  simp [hslug.resolved_filePlace]

/-! ## Parts of a command -/

/-- The session that a command has come to. -/
def At (s : Session) (p : Progress) : Prop := p.session = s

def Session.onDisk (s : Session) (change : Disk → Disk) : Session := { s with disk := change s.disk }

/-- What a file of JSON holds. -/
def Disk.Holds (d : Disk) (path : String) (v : Value) : Prop :=
  ∃ text, d.content? (Place.read path) = some (.text text) ∧ Json.read text.toList = .ok v

theorem Disk.Holds.unique {path : String} {v w : Value} (hv : d.Holds path v) (hw : d.Holds path w) :
    v = w := by
  obtain ⟨text, htext, hv⟩ := hv
  obtain ⟨other, hother, hw⟩ := hw
  rw [htext] at hother
  cases hother
  exact Except.ok.inj (hv.symm.trans hw)

variable {E : Progress → Prop}

theorem ends_say (line : String) : Ends (At s) (say line) (fun _ => At s) E :=
  .modify fun _ h => h

theorem ends_parseJson (text : String) :
    Ends (At s) (parseJson text) (fun v p => At s p ∧ Json.read text.toList = .ok v)
      (fun p => At s p ∧ ∀ v, Json.read text.toList ≠ .ok v) := by
  unfold parseJson
  cases hread : Json.read text.toList with
  | ok v => exact .pure fun _ h => ⟨h, rfl⟩
  | error e =>
    rcases e with ⟨fault, _⟩ | _ | _
    · cases fault <;> exact .fail fun _ h => ⟨h, nofun⟩
    · exact .fail fun _ h => ⟨h, nofun⟩
    · exact .fail fun _ h => ⟨h, nofun⟩

theorem ends_readFile (path : String) :
    Ends (At s) (readFile path) (fun v p => At s p ∧ s.disk.Holds path v)
      (fun p => At s p ∧ ∀ v, ¬s.disk.Holds path v) := by
  unfold readFile
  refine Ends.get.bind fun p => ?_
  have hfails (hnone : ∀ text, p.session.disk.content? (Place.read path) ≠ some (.text text)) (q : Progress)
      (hq : At s q ∧ p = q) : At s q ∧ ∀ v, ¬s.disk.Holds path v := by
    obtain ⟨rfl, rfl⟩ := hq
    exact ⟨rfl, fun v hv => hnone _ hv.choose_spec.1⟩
  cases hcontent : p.session.disk.content? (Place.read path) with
  | none =>
    have hfails := hfails fun text => by simp [hcontent]
    simp only [hcontent]
    split
    · exact .fail hfails
    · split
      · exact .fail hfails
      · exact .fail hfails
  | some content =>
    simp only [hcontent]
    cases content with
    | text text =>
      rintro _ ⟨rfl, rfl⟩
      have hholds (v : Value) : p.session.disk.Holds path v ↔ Json.read text.toList = .ok v := by
        constructor
        · rintro ⟨other, hother, hread⟩
          rw [hcontent] at hother
          cases hother
          exact hread
        · exact fun hread => ⟨text, hcontent, hread⟩
      simp only [hholds]
      exact ends_parseJson text p rfl
    | _ => exact .fail (hfails fun text => by simp [hcontent])

theorem ends_refuse {β : Type} {Q : β → Progress → Prop} (reasons : List String) :
    Ends (At s) (refuse reasons) Q (At s) := by
  refine Ends.bind (Q := fun _ => At s) ?_ fun _ => .fail fun _ h => h
  induction reasons with
  | nil => exact .pure fun _ h => h
  | cons reason reasons ih => exact Ends.bind (Q := fun _ => At s) (.modify fun _ h => h) fun _ => ih

theorem ends_readLayout (raw : Value) :
    Ends (At s) (readLayout raw) (fun l p => At s p ∧ loadLayout raw = .ok l)
      (fun p => At s p ∧ ∀ l, loadLayout raw ≠ .ok l) := by
  unfold readLayout
  cases hload : loadLayout raw with
  | ok l => exact .pure fun _ h => ⟨h, rfl⟩
  | error e =>
    cases e with
    | refused r => exact (ends_refuse r.reports).fails fun _ h => ⟨h, nofun⟩
    | _ => exact .fail fun _ h => ⟨h, nofun⟩

/-- The place of a file is given in a directory that can be made. -/
theorem ends_placeFor (hslug : IsSlug slug) (kind : FileKind)
    (hfree : s.disk.obstacle? (documentDirectory s.outDirectory (String.ofList slug) true) = none) :
    Ends (At s) (placeFor (String.ofList slug) kind)
      (fun place p =>
        At (s.onDisk (·.makeDirectory (documentDirectory s.outDirectory (String.ofList slug) true))) p ∧
          place = filePlace s.outDirectory (String.ofList slug) kind true)
      E := by
  rintro p rfl
  rw [hslug.run_placeFor, ← hslug.documentDirectory_eq, hfree]
  exact ⟨rfl, rfl⟩

theorem ends_writeFile {place : Place} (h : s.disk.hasDirectory place = false) :
    Ends (At s) (writeFile place c) (fun _ => At (s.onDisk (·.write place c))) E := by
  unfold writeFile
  refine Ends.get.bind fun p => ?_
  rintro _ ⟨rfl, rfl⟩
  rw [h]
  exact rfl

/-- What the file of the data holds, or nothing where no file is named. -/
def Disk.HoldsData (d : Disk) (data : Option String) (v : Value) : Prop :=
  match data with
  | some path => d.Holds path v
  | none => v = .record []

theorem ends_readFile? (data : Option String) :
    Ends (At s) (readFile? data) (fun v p => At s p ∧ s.disk.HoldsData data (v.getD (.record [])))
      (fun p => At s p ∧ ∀ v, ¬s.disk.HoldsData data v) := by
  cases data with
  | none => exact .pure fun _ h => ⟨h, rfl⟩
  | some path => exact .map (ends_readFile path)

/-! ## The command -/

/-- Every title that is a text has a slug, whatever its words are found to be. -/
theorem exists_slugOf (words : Words) (title : String) :
    ∃ slug, slugOf words (pointsOf title) = .ok (String.ofList slug) ∧ IsSlug slug := by
  rcases slugFrom_cases (words (pointsOf title)) (pointsOf title) with ⟨-, hnone, -⟩ | ⟨slug, hfrom, hslug⟩
  · rw [textOf?_pointsOf] at hnone
    cases hnone
  · exact ⟨slug, by rw [slugOf, hfrom]; rfl, hslug⟩

/-- What a command to render shows. -/
structure Renderable (d : Disk) (layout : String) (data : Option String) (l : Layout) (context : Value) :
    Prop where
  layout : ∃ raw, d.Holds layout raw ∧ loadLayout raw = .ok l
  data : d.HoldsData data context

/-- The pages of a document are written in a directory that was made for it. -/
theorem ends_writePages (hslug : IsSlug slug) (pages : Drawn Float)
    (hmade : documentDirectory s.outDirectory (String.ofList slug) true ∈ s.disk.made)
    (hfree : s.disk.obstacle? (documentDirectory s.outDirectory (String.ofList slug) true) = none)
    (hplace : s.disk.hasDirectory (filePlace s.outDirectory (String.ofList slug) .pdf true) = false) :
    Ends (At s) (writePages (String.ofList slug) pages)
      (fun _ => At (s.onDisk
        (·.write (filePlace s.outDirectory (String.ofList slug) .pdf true) (.pages pages)))) E := by
  have hsame : s.onDisk (·.makeDirectory (documentDirectory s.outDirectory (String.ofList slug) true)) =
      s := by
    rw [Session.onDisk, Disk.makeDirectory_of_mem hmade]
  have hput := ends_placeFor (E := E) hslug .pdf hfree
  rw [hsame] at hput
  unfold writePages
  refine hput.bind fun place => .given ?_
  rintro rfl
  exact (ends_writeFile hplace).bind fun _ => (ends_say _).bind fun _ => .pure fun _ h => h

theorem writePreviews_zero (directory : Place) (pages : Drawn Float) :
    writePreviews directory pages 0 = pure () := by
  have hnames : previewNames pages.pageCount 0 = [] := by simp [previewNames]
  rw [writePreviews, hnames]
  rfl

/-- The files of a document are written in its directory, which was made, and nothing else. -/
theorem ends_writeDocument (around : Surroundings) (hslug : IsSlug slug)
    (h : Takes s.disk s.outDirectory (String.ofList slug)) (l : Layout) (context : Value) (title : String)
    {pages : Drawn Float}
    (hpages : drawDocument .standard .standard none around.pictures l context (some title) = .ok pages) :
    Ends
      (At (s.onDisk (·.makeDirectory (documentDirectory s.outDirectory (String.ofList slug) true))))
      (writeDocument around (String.ofList slug) (filePlace s.outDirectory (String.ofList slug) .html true) l
        context title 0)
      (fun _ => At (s.onDisk (withDocument · s.outDirectory (String.ofList slug)
        (Html.document l context (some title)) pages))) E := by
  have hdrawn : orCrash (drawDocument .standard .standard none around.pictures l context (some title)) =
      pure pages := by
    rw [hpages]
    rfl
  unfold writeDocument
  refine Ends.bind (ends_writeFile (h.places .html)) fun _ => ?_
  rw [hdrawn, pure_bind]
  refine (ends_say _).bind fun _ => (Ends.get.mono (fun _ hp => hp) fun _ _ hp => hp.1).bind fun p => ?_
  refine Ends.bind (ends_writePages hslug pages (Disk.mem_made_makeDirectory ..) (h.obstacle?_write .html)
    (h.hasDirectory_write hslug .pdf .html)) fun _ => ?_
  rw [writePreviews_zero]
  exact .pure fun _ hp => hp

/-- A command to render writes both files of a document, or stops where it cannot be rendered and changes
nothing. -/
theorem ends_render (around : Surroundings) (layout : String) (data : Option String) (title : String)
    (hname : slugOf around.words (pointsOf title) = .ok (String.ofList slug)) (hslug : IsSlug slug)
    (htakes : Takes s.disk s.outDirectory (String.ofList slug)) :
    Ends (At s) (render around layout data (pointsOf title) 0)
      (fun _ p => ∃ l context pages, Renderable s.disk layout data l context ∧
        drawDocument .standard .standard none around.pictures l context (some title) = .ok pages ∧
        At (s.onDisk (withDocument · s.outDirectory (String.ofList slug)
          (Html.document l context (some title)) pages)) p)
      (fun p => At s p ∧ ∀ l context, ¬Renderable s.disk layout data l context) := by
  unfold render
  refine Ends.bind ((ends_readFile layout).fails fun p hp => ⟨hp.1, ?_⟩) fun raw => .given fun hraw => ?_
  · rintro l context ⟨⟨raw, hraw, -⟩, -⟩
    exact hp.2 raw hraw
  refine Ends.bind ((ends_readLayout raw).fails fun p hp => ⟨hp.1, ?_⟩) fun l => .given fun hload => ?_
  · rintro l context ⟨⟨other, hother, hload⟩, -⟩
    rw [hother.unique hraw] at hload
    exact hp.2 l hload
  refine Ends.bind ((ends_readFile? data).fails fun p hp => ⟨hp.1, ?_⟩) fun context =>
    .given fun hdata => ?_
  · rintro l context ⟨-, hdata⟩
    exact hp.2 context hdata
  have hslugged : (orCrash (.ok (String.ofList slug)) : Act String) = pure (String.ofList slug) := rfl
  rw [hname, textOf?_pointsOf, hslugged, pure_bind]
  refine Ends.bind (ends_placeFor hslug .html htakes.free) fun place => ?_
  obtain ⟨pages, hpages⟩ := Store.exists_pages around.pictures l (context.getD (.record [])) (some title)
  refine .given ?_
  rintro rfl
  refine (ends_writeDocument around hslug htakes l _ title hpages).mono (fun _ hp => hp) fun _ p hp => ?_
  exact ⟨l, _, pages, ⟨⟨raw, hraw, hload⟩, hdata⟩, hpages, hp⟩

theorem exitCode_eq_zero_iff {o : Outcome} : o.exitCode = 0 ↔ o.stop = none := by
  unfold Outcome.exitCode
  split
  · next h => simp [h]
  · next h => simp [h]
  · next stop h => simp [h]

/-- The session that a command with a directory for files begins with. -/
def Session.withOut (s : Session) (out : Option String) : Session :=
  { s with outDirectory := (out.map Place.read).getD s.outDirectory }

theorem ends_useOut (out : Option String) :
    Ends (At s) (useOut out) (fun _ => At (s.withOut out)) E := by
  cases out with
  | none => exact .pure fun _ h => h
  | some out =>
    refine .modify ?_
    rintro p rfl
    exact rfl

/-- How a command to render ends on a disk that takes its files. -/
theorem render_ends (around : Surroundings) (s : Session) (layout : String) (data out : Option String)
    (title : String)
    (htakes : ∀ name, slugOf around.words (pointsOf title) = .ok name →
      Takes s.disk (s.withOut out).outDirectory name) :
    let run := runCommand around s (.render layout data out (pointsOf title) 0)
    (run.1.stop = none ∧ ∃ l context name pages, Renderable s.disk layout data l context ∧
      slugOf around.words (pointsOf title) = .ok name ∧
      drawDocument .standard .standard none around.pictures l context (some title) = .ok pages ∧
      run.2.disk = withDocument s.disk (s.withOut out).outDirectory name
        (Html.document l context (some title)) pages) ∨
    (run.1.stop ≠ none ∧ run.2.disk = s.disk ∧ ∀ l context, ¬Renderable s.disk layout data l context) := by
  obtain ⟨slug, hname, hslug⟩ := exists_slugOf around.words title
  have hends : Ends (At s) (Command.act around (.render layout data out (pointsOf title) 0)) _ _ :=
    (ends_useOut out).bind fun _ => ends_render around layout data title hname hslug (htakes _ hname)
  have hend := hends ⟨s, [], []⟩ rfl
  unfold runCommand
  generalize (Command.act around (.render layout data out (pointsOf title) 0)).run.run ⟨s, [], []⟩ = result at hend ⊢
  obtain ⟨stop | ⟨⟩, p⟩ := result
  · obtain ⟨hsession, hnone⟩ := hend
    have hdisk : p.session.disk = s.disk := by
      rw [hsession]
      rfl
    exact .inr ⟨nofun, hdisk, hnone⟩
  · obtain ⟨l, context, pages, h, hpages, hsession⟩ := hend
    have hdisk : p.session.disk = withDocument s.disk (s.withOut out).outDirectory (String.ofList slug)
        (Html.document l context (some title)) pages := by
      rw [hsession]
      rfl
    exact .inl ⟨rfl, l, context, _, pages, h, hname, hpages, hdisk⟩

/-- On a disk that takes its files, a document with a title that is a text is rendered exactly if its layout and
its data can be read. Both of its files are written then, and otherwise nothing on the disk changes. Of a command
that stops at a lone surrogate in a file nothing is said: what the file holds is not made of characters alone. -/
theorem render_is_all_or_nothing (around : Surroundings) (s : Session) (layout : String)
    (data out : Option String) (title : String)
    (htakes : ∀ name, slugOf around.words (pointsOf title) = .ok name →
      Takes s.disk (s.withOut out).outDirectory name) :
    let run := runCommand around s (.render layout data out (pointsOf title) 0)
    run.1.stop ≠ some (.crashed .loneSurrogate) →
    (run.1.exitCode = 0 ↔ ∃ l context, Renderable s.disk layout data l context) ∧
    (run.1.exitCode = 0 → ∃ l context name pages, Renderable s.disk layout data l context ∧
      slugOf around.words (pointsOf title) = .ok name ∧
      drawDocument .standard .standard none around.pictures l context (some title) = .ok pages ∧
      run.2.disk = withDocument s.disk (s.withOut out).outDirectory name
        (Html.document l context (some title)) pages) ∧
    (run.1.exitCode ≠ 0 → run.2.disk = s.disk) := by
  intro run _
  rcases render_ends around s layout data out title htakes with ⟨hstop, hwritten⟩ | ⟨hstop, hdisk, hnone⟩
  · have hcode : run.1.exitCode = 0 := exitCode_eq_zero_iff.mpr hstop
    obtain ⟨l, context, -, -, h, -⟩ := id hwritten
    exact ⟨⟨fun _ => ⟨l, context, h⟩, fun _ => hcode⟩, fun _ => hwritten, fun hne => absurd hcode hne⟩
  · have hcode : run.1.exitCode ≠ 0 := fun hzero => hstop (exitCode_eq_zero_iff.mp hzero)
    refine ⟨⟨fun hzero => absurd hzero hcode, ?_⟩, fun hzero => absurd hzero hcode, fun _ => hdisk⟩
    rintro ⟨l, context, h⟩
    exact absurd h (hnone l context)

/-! ## An empty layout -/

/-- A disk with the file of an empty layout. -/
def emptyLayoutDisk : Disk := .ofFiles [(Place.read "layout.json", .text "[]")]

theorem holds_emptyLayout : emptyLayoutDisk.Holds "layout.json" (.list []) := ⟨"[]", rfl, rfl⟩

theorem renderable_emptyLayout : Renderable emptyLayoutDisk "layout.json" none [] (.record []) :=
  ⟨⟨.list [], holds_emptyLayout, rfl⟩, rfl⟩

theorem invoice_is_rendered :
    (∀ name, slugOf Store.winterDay.words (pointsOf "Invoice") = .ok name →
        Takes emptyLayoutDisk ((Session.initial emptyLayoutDisk).withOut none).outDirectory name) ∧
      let run := runCommand Store.winterDay (.initial emptyLayoutDisk)
        (.render "layout.json" none none (pointsOf "Invoice") 0)
      run.1.stop ≠ some (.crashed .loneSurrogate) ∧ run.1.exitCode = 0 := by
  have hslug : slugOf Store.winterDay.words (pointsOf "Invoice") = .ok "invoice" := rfl
  have htakes : ∀ name, slugOf Store.winterDay.words (pointsOf "Invoice") = .ok name →
      Takes emptyLayoutDisk ((Session.initial emptyLayoutDisk).withOut none).outDirectory name := by
    intro name hname
    rw [hslug] at hname
    cases hname
    refine ⟨by decide +kernel, fun kind => ?_⟩
    cases kind <;> decide +kernel
  have hstop : (runCommand Store.winterDay (.initial emptyLayoutDisk)
      (.render "layout.json" none none (pointsOf "Invoice") 0)).1.stop ≠ some (.crashed .loneSurrogate) := by
    rcases render_ends Store.winterDay (.initial emptyLayoutDisk) "layout.json" none none "Invoice" htakes with
      ⟨hstop, -⟩ | ⟨-, -, hnone⟩
    · exact fun h => nomatch hstop.symm.trans h
    · exact absurd renderable_emptyLayout (hnone _ _)
  have h := render_is_all_or_nothing Store.winterDay (.initial emptyLayoutDisk) "layout.json" none none
    "Invoice" htakes hstop
  exact ⟨htakes, hstop, h.1.mpr ⟨_, _, renderable_emptyLayout⟩⟩

/-- A title with letters and a lone surrogate. -/
def strayTitle : Points := pointsOf "Tree" ++ [0xDCFF]

/-- A title with a lone surrogate is not rendered, and an empty file is left of it. -/
theorem lone_surrogate_leaves_empty_file :
    emptyLayoutDisk.Holds "layout.json" (.list []) ∧ loadLayout (.list []) = .ok [] ∧
      emptyLayoutDisk.content? (Place.read "out/tree/document.html") = none ∧
      let run := runCommand Store.winterDay (.initial emptyLayoutDisk)
        (.render "layout.json" none none strayTitle 0)
      run.1.exitCode = 1 ∧ run.2.disk.content? (Place.read "out/tree/document.html") = some (.text "") :=
  ⟨holds_emptyLayout, rfl, rfl, rfl, rfl⟩

end DocTemplate.Console
