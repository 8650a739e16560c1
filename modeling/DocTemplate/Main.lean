import DocTemplate.Console.Session
import DocTemplate.Json.Printer
import DocTemplate.Page.Sketch
import DocTemplate.Store.File
import Std.Time.Zoned

/-!
# The command line

The files that a command may read are read, the command is run on them, and what it wrote is written.
-/

namespace DocTemplate.Console

open DocTemplate.Artifact DocTemplate.Calendar DocTemplate.Page

def Command.files : Command → List String
  | .validate layout => [layout]
  | .render layout data _ _ _ => layout :: data.toList
  | .saveTemplate _ _ layout _ _ _ => layout.toList
  | .generate _ data _ => data.toList
  | _ => []

/-- The directory that a command names for files. -/
def Command.out? : Command → Option String
  | .validate _ => none
  | .render _ _ out _ _ => out
  | .saveTemplate _ _ _ _ _ out => out
  | .publish _ _ out => out
  | .listTemplates out => out
  | .generate _ _ out => out

/-- The documents that a command writes. -/
def Command.slugs (around : Surroundings) : Command → List String
  | .render _ _ _ title _ => (slugOf around.words title).toOption.toList
  | .generate template _ _ => [templateSlug template]
  | _ => []

/-- A place and the directories that lead to it. -/
def pathTo (p : Place) : List Place :=
  (List.range p.names.length).map fun n => ⟨p.absolute, p.names.take (n + 1)⟩

def Command.outDirectory (c : Command) : Place :=
  (c.out?.map Place.read).getD (Session.initial (.ofFiles [])).outDirectory

def Command.places (around : Surroundings) (c : Command) : List Place :=
  c.files.map Place.read ++ pathTo (rowsPlace c.outDirectory)
    ++ (c.slugs around).flatMap fun slug => pathTo (documentDirectory c.outDirectory slug true)

/-- The content of a file, which may be one that keeps rows. -/
def contentOf (keepsRows : Bool) (bytes : ByteArray) : Content :=
  match Text.decodeUtf8? bytes.toList with
  | none => .bytes
  | some cs =>
    match if keepsRows then (Json.read cs).toOption.bind Store.ofValue? else none with
    | some s => .rows s
    | none => .text (String.ofList cs)

def Content.toBytes : Content → ByteArray
  | .text s => s.toUTF8
  | .pages d => (pageFile .standard d).toUTF8
  | .picture d page => sketchFile .standard (((pagesOfCalls (callsOf d.log))[page - 1]?).getD [])
  | .rows s => (Json.print s.toValue).toUTF8
  | .bytes | .directory => .empty

/-- What the arguments of the program look like. -/
def usage : String := "\n".intercalate
  ["Usage: [-v] COMMAND",
   "  validate LAYOUT",
   "  render LAYOUT [--data FILE] [--out DIRECTORY] [--title TEXT] [--previews COUNT]",
   "  save-template --name TEXT [--type TYPE] [--layout FILE] [--id NUMBER] [--notes TEXT] [--out DIRECTORY]",
   "  publish TEMPLATE [--version NUMBER] [--out DIRECTORY]",
   "  list-templates [--out DIRECTORY]",
   "  generate TEMPLATE [--data FILE] [--out DIRECTORY]"]

def readPlace (keepsRows : Bool) (p : Place) : IO (Option Content) := do
  try
    let bytes ← IO.FS.readBinFile p.text
    pure (some (contentOf keepsRows bytes))
  catch e =>
    match e with
    | .inappropriateType _ 21 _ => pure (some .directory)
    | _ => pure none

def readDisk (around : Surroundings) (c : Command) : IO Disk := do
  let files ← (c.places around).eraseDups.filterMapM fun p => do
    let content ← readPlace (p == rowsPlace c.outDirectory) p
    pure (content.map fun content => (p, content))
  pure (.ofFiles files)

/-- Writes the files that a command has written. -/
def writeDisk (d : Disk) : IO Unit := do
  for p in d.written.reverse.eraseDups do
    match d.content? p with
    | none => pure ()
    | some content =>
      IO.FS.createDirAll (Place.text { p with names := p.names.dropLast })
      IO.FS.writeBinFile p.text content.toBytes

def readToday : IO Date := do
  let d ← Std.Time.PlainDate.now
  match Date.ofNumbers? d.year.toInt.toNat d.month.toNat d.day.toNat with
  | some date => pure date
  | none => throw (IO.userError "the clock shows no date")

/-- Says what a command has said. -/
def report (o : Outcome) : IO Unit := do
  o.output.forM (IO.println ·)
  o.errors.forM (IO.eprintln ·)
  match o.stop with
  | some (.crashed c) => IO.eprintln c.message
  | some .misused => IO.eprintln usage
  | _ => pure ()

def runProgram (arguments : List String) : IO UInt32 := do
  match readArguments arguments with
  | .help =>
    IO.println usage
    pure 0
  | .misuse =>
    IO.eprintln usage
    pure 2
  | .run c =>
    let around := Surroundings.plain (← readToday)
    let (outcome, after) := runCommand around (.initial (← readDisk around c)) c
    writeDisk after.disk
    report outcome
    pure outcome.exitCode.toUInt32

end DocTemplate.Console

def main (arguments : List String) : IO UInt32 := DocTemplate.Console.runProgram arguments
