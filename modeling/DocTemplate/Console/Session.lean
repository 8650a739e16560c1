import DocTemplate.Console.Arguments
import DocTemplate.Console.Disk
import DocTemplate.Page.Preview
import DocTemplate.Store.Step

/-!
# Running commands

A command reads files, writes files and says what it has done. The directory that files are written to
stays the one named last.
-/

namespace DocTemplate.Console

open DocTemplate.Artifact DocTemplate.Catalog DocTemplate.Page DocTemplate.Text

/-- What commands leave to those after them. -/
structure Session where
  disk : Disk
  outDirectory : Place

/-- The session before any command. -/
def Session.initial (disk : Disk) : Session := ⟨disk, Place.read "out"⟩

/-- What breaks a command off. -/
inductive Crash where
  | notJson
  /-- The file names a surrogate that stands alone, and what it holds is made of more than characters. -/
  | loneSurrogate
  | integerTooLong
  | tooDeep
  | isDirectory
  | undecodable
  /-- A file is where the rows of the store should be. -/
  | noRows
  | obstacle (o : Obstacle)
  | store (f : StoreFailure)
  | failed (f : Failure)

/-- What is said of a command that breaks off. -/
def Crash.message : Crash → String
  | .notJson => "The file is not JSON."
  | .loneSurrogate => "The file names a lone surrogate."
  | .integerTooLong => "The file holds a whole number of too many digits."
  | .tooDeep => "The file is nested too deeply."
  | .isDirectory => "The file is a directory."
  | .undecodable => "The file is not text."
  | .noRows => "The store cannot be read."
  | .obstacle .taken => "A file is where a directory should be."
  | .obstacle .blocked => "A file is among the directories of a path."
  | .obstacle .nameTooLong => "A name is too long."
  | .store f => f.message
  | .failed f => f.message

/-- Why a command ends before it is done. -/
inductive Stop where
  /-- The command has said why. -/
  | refused
  /-- The command was called wrongly. -/
  | misused
  | crashed (c : Crash)

/-- A session and the lines that a command has said, as output and as errors. -/
structure Progress where
  session : Session
  output : List String
  errors : List String

def Progress.onDisk (p : Progress) (change : Disk → Disk) : Progress :=
  { p with session := { p.session with disk := change p.session.disk } }

/-- The doings of a command. -/
abbrev Act := ExceptT Stop (StateM Progress)

def say (line : String) : Act Unit := modify fun p => { p with output := p.output ++ [line] }

def complain (line : String) : Act Unit :=
  modify fun p => { p with errors := p.errors ++ ["ERROR: " ++ line] }

/-- The command ends, for reasons that it says. -/
def refuse {β : Type} (reasons : List String) : Act β := do
  reasons.forM complain
  throw .refused

/-- The command breaks off. -/
def crash {β : Type} (c : Crash) : Act β := throw (.crashed c)

/-- What was made, unless making it has failed. -/
def orCrash {β : Type} (r : Except Failure β) : Act β :=
  match r with
  | .ok b => pure b
  | .error f => crash (.failed f)

/-- The directory for files, from now on. -/
def useOut (out : Option String) : Act Unit :=
  match out with
  | some s => modify fun p => { p with session := { p.session with outDirectory := Place.read s } }
  | none => pure ()

/-- What a text of JSON holds. -/
def parseJson (s : String) : Act Value :=
  match Json.read s.toList with
  | .ok v => pure v
  | .error (.malformed .loneSurrogate _) => crash .loneSurrogate
  | .error (.malformed ..) => crash .notJson
  | .error (.integerTooLong _) => crash .integerTooLong
  | .error .tooDeep => crash .tooDeep

/-- What a file of JSON holds. A file that is not there is a wrong call. -/
def readFile (path : String) : Act Value := do
  let p ← get
  let place := Place.read path
  match p.session.disk.content? place with
  | some (.text s) => parseJson s
  | some .directory => crash .isDirectory
  | some _ => crash .undecodable
  | none =>
    if p.session.disk.hasDirectory place then crash .isDirectory
    else if hasShortNames place then throw .misused
    else crash (.obstacle .nameTooLong)

/-- What a file of JSON holds, if one is named. -/
def readFile? (path : Option String) : Act (Option Value) :=
  match path with
  | some path => some <$> readFile path
  | none => pure none

/-- The layout that a file holds. -/
def readLayout (raw : Value) : Act Layout :=
  match loadLayout raw with
  | .ok layout => pure layout
  | .error (.refused r) => refuse r.reports
  | .error .undecodable => crash .undecodable
  | .error (.integerTooLong _) => crash .integerTooLong
  | .error .tooDeep => crash .tooDeep

def changeDisk (change : Disk → Disk) : Act Unit := modify (·.onDisk change)

def makeDirectory (place : Place) : Act Unit := do
  match (← get).session.disk.obstacle? place with
  | some o => crash (.obstacle o)
  | none => changeDisk (·.makeDirectory place)

def writeFile (place : Place) (c : Content) : Act Unit := do
  if (← get).session.disk.hasDirectory place then crash .isDirectory
  else changeDisk (·.write place c)

/-- The place of a file of a document, whose directory is made. -/
def placeFor (slug : String) (kind : FileKind) : Act Place := do
  let base := (← get).session.outDirectory
  makeDirectory (documentDirectory base slug true)
  pure (filePlace base slug kind true)

/-- The file of the pages of a document is written. -/
def writePages (slug : String) (pages : Drawn Float) : Act Place := do
  let place ← placeFor slug .pdf
  writeFile place (.pages pages)
  say ("PDF: " ++ place.text ++ " (" ++ toString pages.pageCount ++ " pages)")
  pure place

def rowsPlace (out : Place) : Place := out.join "documents.db"

/-- The rows at a place; where there is nothing yet, the store is empty. -/
def Disk.rows? (d : Disk) (place : Place) : Option Store :=
  match d.content? place with
  | some (.rows s) => some s
  | some (.text "") => some .empty
  | some _ => none
  | none => some .empty

def withStore {β : Type} (action : Access β) : Act (Except StoreFailure β) := do
  let p ← get
  let out := p.session.outDirectory
  makeDirectory out
  match p.session.disk.rows? (rowsPlace out) with
  | none => crash .noRows
  | some s =>
    let (reply, after) := Store.run action s
    writeFile (rowsPlace out) (.rows after)
    pure reply

/-- The answer of a store, unless there is none. -/
def answerOr {β : Type} (reply : Except StoreFailure β) : Act β :=
  match reply with
  | .ok b => pure b
  | .error f =>
    match f with
    | .noTemplate _ | .foreignVersion .. | .unreadable (.refused _) => refuse [f.message]
    | f => crash (.store f)

/-- A layout file is checked. -/
def validate (layout : String) : Act Unit := do
  let raw ← readFile layout
  let layout ← readLayout raw
  say ("OK: " ++ toString layout.length ++ " components")

/-- Previews of the pages of a document are written beside it. -/
def writePreviews (directory : Place) (pages : Drawn Float) (limit : Int) : Act Unit :=
  (previewNames pages.pageCount limit).zipIdx.forM fun (name, i) => do
    writeFile (directory.join name) (.picture pages (i + 1))
    say ("PREVIEW: " ++ (directory.join name).text)

/-- The files of a document are written. -/
def writeDocument (around : Surroundings) (slug : String) (html : Place) (layout : Layout) (context : Value)
    (title : String) (previews : Int) : Act Unit := do
  writeFile html (.text (Html.document layout context (some title)))
  let pages ← orCrash
    (drawDocument .standard .standard none around.pictures layout context (some title))
  say ("HTML: " ++ html.text)
  let base := (← get).session.outDirectory
  let _ ← writePages slug pages
  writePreviews (documentDirectory base slug true) pages previews

/-- A layout file is rendered, with the data of another file if one is named. If the title is no text, that is
noticed while the first file is written, which is left empty. -/
def render (around : Surroundings) (layout : String) (data : Option String) (title : Points)
    (previews : Int) : Act Unit := do
  let raw ← readFile layout
  let layout ← readLayout raw
  let context ← readFile? data
  let slug ← orCrash (slugOf around.words title)
  let html ← placeFor slug .html
  match textOf? title with
  | some title => writeDocument around slug html layout (context.getD (.record [])) title previews
  | none =>
    writeFile html (.text "")
    crash (.failed .loneSurrogate)

def saveTemplate (name : String) (type : DocumentType) (layout : Option String) (id : Option Int)
    (notes : Option String) : Act Unit := do
  let raw ← readFile? layout
  let raw := raw.filter (! ·.isNull)
  let _ ← raw.mapM readLayout
  let reply ← withStore (Store.save
    ⟨some name, .text type.name, raw, id, none, .null, .null, notes, .draft⟩)
  let t ← answerOr reply
  say ("SAVED: " ++ toString t.id ++ " (version id " ++ currentText t.current ++ ")")
where
  /-- The version in use, as it is said. -/
  currentText (current : Option Nat) : String := (current.map toString).getD "None"

def publish (template : Int) (version : Option Int) : Act Unit := do
  let reply ← withStore (Store.publish template version)
  let t ← answerOr reply
  say ("PUBLISHED: " ++ toString t.id ++ " (version id " ++ saveTemplate.currentText t.current ++ ")")

def listTemplates : Act Unit := do
  let reply ← withStore (do pure (← get).listed)
  let templates ← answerOr reply
  if templates.isEmpty then say "No templates"
  templates.forM fun t =>
    say ("\t".intercalate [toString t.id, t.type.name, t.status.name, t.name])

def templateSlug (template : Int) : String := "template-" ++ toString template

/-- The pages of a template are written. -/
def generate (around : Surroundings) (template : Int) (data : Option String) : Act Unit := do
  let payload ← readFile? data
  let reply ← withStore (Store.generate around ⟨some template, none, .null, payload.getD .null⟩)
  let g ← answerOr reply
  let _ ← writePages (templateSlug template) g.pages

/-- A command is carried out. -/
def Command.act (around : Surroundings) : Command → Act Unit
  | .validate layout => Console.validate layout
  | .render layout data out title previews => do
    useOut out
    Console.render around layout data title previews
  | .saveTemplate name type layout id notes out => do
    useOut out
    Console.saveTemplate name type layout id notes
  | .publish template version out => do
    useOut out
    Console.publish template version
  | .listTemplates out => do
    useOut out
    Console.listTemplates
  | .generate template data out => do
    useOut out
    Console.generate around template data

/-- What a command said, and why it stopped before it was done, if it did. -/
structure Outcome where
  output : List String
  errors : List String
  stop : Option Stop

def Outcome.exitCode (o : Outcome) : Nat :=
  match o.stop with
  | none => 0
  | some .misused => 2
  | some _ => 1

def runCommand (around : Surroundings) (s : Session) (c : Command) : Outcome × Session :=
  let (result, p) := ((c.act around).run.run ⟨s, [], []⟩)
  let stop := match result with
    | .ok () => none
    | .error stop => some stop
  (⟨p.output, p.errors, stop⟩, p.session)

def runArguments (around : Surroundings) (s : Session) (arguments : List String) : Outcome × Session :=
  match readArguments arguments with
  | .run c => runCommand around s c
  | .help => (⟨[], [], none⟩, s)
  | .misuse => (⟨[], [], some .misused⟩, s)

end DocTemplate.Console
