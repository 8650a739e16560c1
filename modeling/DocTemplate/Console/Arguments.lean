import DocTemplate.Catalog.DocumentType
import DocTemplate.Html.Document
import DocTemplate.Number.Numeral
import DocTemplate.Text.Encoding

/-!
# Arguments

The commands and how they are written: the name of a command, its options, which are followed by their
values or joined to them by an equals sign, and its arguments, among the options or after them. Two
dashes end the options. Of an option that is given twice the last value counts.
-/

namespace DocTemplate.Console

open DocTemplate.Catalog DocTemplate.Number DocTemplate.Text

inductive Command where
  | validate (layout : String)
  | render (layout : String) (data out : Option String) (title : Points) (previews : Int)
  | saveTemplate (name : String) (type : DocumentType) (layout : Option String) (id : Option Int)
      (notes out : Option String)
  | publish (template : Int) (version : Option Int) (out : Option String)
  | listTemplates (out : Option String)
  | generate (template : Int) (data out : Option String)
deriving DecidableEq, Repr

/-- What arguments ask for. -/
inductive Request where
  | run (c : Command)
  | help
  | misuse
deriving DecidableEq, Repr

/-- Options with their values, arguments, and whether help is asked for. -/
structure Given where
  options : List (String × String)
  arguments : List String
  help : Bool

namespace Given

/-- What is given, with one more option before it. -/
def withOption (name value : String) (g : Given) : Given :=
  { g with options := (name, value) :: g.options }

/-- What is given, with one more argument before it. -/
def withArgument (s : String) (g : Given) : Given := { g with arguments := s :: g.arguments }

/-- The value of an option: the last one given. -/
def value? (g : Given) (name : String) : Option String := g.options.reverse.lookup name

def number? (g : Given) (name : String) : Option (Option Int) :=
  match g.value? name with
  | none => some none
  | some s => (readInteger? s.toList).map some

end Given

/-- Whether an argument is written like an option. -/
def isOption (s : String) : Bool := s.toList.head? == some '-' && 1 < s.length

/-- An option and the value joined to it, if there is one. -/
def splitOption (s : String) : String × Option String :=
  let cs := s.toList
  match cs.dropWhile (· != '=') with
  | [] => (s, none)
  | _ :: value => (String.ofList (cs.takeWhile (· != '=')), some (String.ofList value))

/-- The options and arguments of a command that knows some options. -/
def readGiven? (known : List String) : List String → Option Given
  | [] => some ⟨[], [], false⟩
  | s :: rest =>
    if s = "--" then some ⟨[], rest, false⟩
    else if s = "--help" then (readGiven? known rest).map fun g => { g with help := true }
    else if isOption s then
      match splitOption s with
      | (name, some value) =>
        if name ∈ known then (readGiven? known rest).map (·.withOption name value) else none
      | (name, none) =>
        match rest with
        | value :: rest =>
          if name ∈ known then (readGiven? known rest).map (·.withOption name value) else none
        | [] => none
    else (readGiven? known rest).map (·.withArgument s)

/-- The options of a command that is named. -/
def knownOptions? : String → Option (List String)
  | "validate" => some []
  | "render" => some ["--data", "--out", "--title", "--previews"]
  | "save-template" => some ["--name", "--type", "--layout", "--id", "--notes", "--out"]
  | "publish" => some ["--version", "--out"]
  | "list-templates" => some ["--out"]
  | "generate" => some ["--data", "--out"]
  | _ => none

/-- A command, given its name, options and arguments. -/
def commandOf? (name : String) (g : Given) : Option Command :=
  let out := g.value? "--out"
  match name, g.arguments with
  | "validate", [layout] => some (.validate layout)
  | "render", [layout] => do
    let previews ← g.number? "--previews"
    some (.render layout (g.value? "--data") out
      (pointsOf ((g.value? "--title").getD Html.defaultTitle)) (previews.getD 0))
  | "save-template", [] => do
    let template ← g.value? "--name"
    let type ← DocumentType.named? ((g.value? "--type").getD DocumentType.invoice.name)
    let id ← g.number? "--id"
    some (.saveTemplate template type (g.value? "--layout") id (g.value? "--notes") out)
  | "publish", [id] => do
    let template ← readInteger? id.toList
    let version ← g.number? "--version"
    some (.publish template version out)
  | "list-templates", [] => some (.listTemplates out)
  | "generate", [id] => do
    let template ← readInteger? id.toList
    some (.generate template (g.value? "--data") out)
  | _, _ => none

/-- What the arguments after the general options ask for. -/
def readCommand : List String → Request
  | [] => .misuse
  | name :: rest =>
    match (knownOptions? name).bind fun known => readGiven? known rest with
    | none => .misuse
    | some g =>
      if g.help then .help
      else match commandOf? name g with
        | some c => .run c
        | none => .misuse

/-- Whether an argument asks for more messages, which change nothing else. -/
def isVerbose (s : String) : Bool :=
  s == "--verbose" || (isOption s && s.toList.tail.all (· == 'v'))

/-- What arguments ask for. General options come before the command. -/
def readArguments : List String → Request
  | [] => .misuse
  | s :: rest =>
    if s = "--" then readCommand rest
    else if isVerbose s then readArguments rest
    else if s = "--help" then .help
    else if isOption s then .misuse
    else readCommand (s :: rest)

example : readArguments ["-v", "publish", "--", "-1"] = .run (.publish (-1) none none) := by
  decide +kernel

end DocTemplate.Console
