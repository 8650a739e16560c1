import DocTemplate.Catalog.DocumentType
import DocTemplate.Layout.Load

/-!
# Templates and versions

A template has a name, a type of document and a history of versions, each of which holds a layout. The
store holds the rows of both. A new row takes the number after the greatest one in use, and time is
counted in ticks that never stand still.
-/

namespace DocTemplate

open DocTemplate.Catalog

/-- Whether a template is in use. -/
inductive Status
  | draft
  | published
  | archived
deriving DecidableEq, Repr

namespace Status

/-- All states. -/
def all : List Status := [draft, published, archived]

def name : Status → String
  | draft => "draft"
  | published => "published"
  | archived => "archived"

/-- The state that a value names. -/
def read (v : Value) : Except NoMember Status :=
  match v.text?.bind fun s => all.find? (·.name == s) with
  | some s => .ok s
  | none => .error ⟨v, "TemplateStatus"⟩

end Status

/-- A template: its row. -/
structure Template where
  id : Nat
  name : String
  description : Option String
  type : DocumentType
  status : Status
  /-- The version in use. -/
  current : Option Nat
  publishedAt : Option Nat
  updatedAt : Nat
deriving DecidableEq, Repr

/-- A version of a template: its row. -/
structure Version where
  id : Nat
  templateId : Nat
  number : Nat
  layout : List Value
  parameters : Value
  sampleData : Value
  notes : Option String

/-- The rows of all templates and versions, in the order in which they were added, and the time. -/
structure Store where
  templates : List Template
  versions : List Version
  clock : Nat

/-- Why a store refuses what is asked of it. -/
inductive StoreFailure where
  | noTemplate (id : Int)
  | foreignVersion (version template : Int)
  | noMember (e : NoMember)
  | unreadable (e : LoadFailure)
  | failed (e : Failure)
  /-- Data that cannot be written as JSON. -/
  | unwritable
  /-- A template without a name. -/
  | unnamed
  /-- A number that no row can have. -/
  | numberTooGreat

/-- What is said of a layout that cannot be read. -/
def unreadableText : LoadFailure → String
  | .refused r => "Invalid layout: " ++ "; ".intercalate r.reports
  | .undecodable => "The layout is not text."
  | .integerTooLong digits => (Failure.indexTooLong digits).message
  | .tooDeep => "The layout is nested too deeply."

def StoreFailure.message : StoreFailure → String
  | noTemplate id => "Template not found: " ++ toString id
  | foreignVersion version template =>
    "Version " ++ toString version ++ " does not belong to template " ++ toString template
  | noMember e => e.message
  | unreadable e => unreadableText e
  | failed e => e.message
  | unwritable => "The data cannot be written as JSON."
  | unnamed => "The template has no name."
  | numberTooGreat => "The number is too great."

/-- An action on a store. What is done before a failure stays done. -/
abbrev Access := ExceptT StoreFailure (StateM Store)

namespace Store

/-- A store without rows. -/
def empty : Store := ⟨[], [], 0⟩

def template? (s : Store) (id : Int) : Option Template := s.templates.find? fun t => t.id == id

def version? (s : Store) (id : Int) : Option Version := s.versions.find? fun v => v.id == id

/-- The versions of a template, the oldest first. -/
def versionsOf (s : Store) (template : Int) : List Version :=
  (s.versions.filter fun v => v.templateId == template).mergeSort fun v w => v.number ≤ w.number

/-- The templates, the one written last first. -/
def listed (s : Store) : List Template :=
  s.templates.mergeSort fun t u => u.updatedAt ≤ t.updatedAt

/-- The number after the greatest one. -/
def nextNumber (numbers : List Nat) : Nat := numbers.foldl max 0 + 1

def replace (s : Store) (t : Template) : Store :=
  { s with templates := s.templates.map fun u => if u.id = t.id then t else u }

end Store

end DocTemplate
