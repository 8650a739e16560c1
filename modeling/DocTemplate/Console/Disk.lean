import DocTemplate.Artifact.Place
import DocTemplate.Page.Document
import DocTemplate.Store.Basic

/-!
# Disks

The files that commands read and write, each at its place. A directory is there when a file is below it, or
when it was made.
-/

namespace DocTemplate.Console

open DocTemplate.Artifact DocTemplate.Page

/-- What is at a place. -/
inductive Content where
  | text (s : String)
  | pages (d : Drawn Float)
  /-- The picture of a page. -/
  | picture (d : Drawn Float) (page : Nat)
  /-- The rows of a store. -/
  | rows (s : Store)
  /-- Bytes that are no text. -/
  | bytes
  /-- A directory that has no other trace. -/
  | directory

/-- A place without the steps to the directory above that undo the step before them. -/
def resolved (p : Place) : Place :=
  { p with names := (p.names.foldl step []).reverse }
where
  /-- The names so far, the last one first, and one more name. -/
  step (names : List String) (name : String) : List String :=
    match names with
    | last :: before => if name = ".." ∧ last ≠ ".." then before else name :: names
    | [] => if name = ".." ∧ p.absolute then [] else [name]

/-- Files at their places, which are resolved, and the directories made and the places written to, the last
one first. With a directory those that its path goes through are made. -/
structure Disk where
  files : List (Place × Content)
  made : List Place
  written : List Place

/-- Why a place cannot be written to. -/
inductive Obstacle
  /-- A file is where a directory should be. -/
  | taken
  /-- A file is where the place goes on. -/
  | blocked
  | nameTooLong
deriving DecidableEq, Repr

/-- How many bytes a name has at most. -/
def longestName : Nat := 255

def hasShortNames (p : Place) : Bool := p.names.all fun name => name.utf8ByteSize ≤ longestName

namespace Disk

def ofFiles (files : List (Place × Content)) : Disk := ⟨files.map fun f => (resolved f.1, f.2), [], []⟩

def content? (d : Disk) (p : Place) : Option Content := d.files.lookup (resolved p)

def hasFile (d : Disk) (p : Place) : Bool :=
  match d.content? p with
  | none => false
  | some .directory => false
  | some _ => true

/-- A place and those that its path goes through. -/
def pathTo (p : Place) : List Place :=
  (List.range (p.names.length + 1)).map fun n => ⟨p.absolute, p.names.take n⟩

def hasDirectory (d : Disk) (p : Place) : Bool :=
  let ⟨absolute, names⟩ := resolved p
  let isAbove (f : Place × Content) : Bool :=
    f.1.absolute == absolute && names.isPrefixOf f.1.names && names.length < f.1.names.length
  let isMade (q : Place) : Bool := (pathTo q).any fun r => resolved r = resolved p
  names.all (· == "..") || d.files.any isAbove || d.made.any isMade

def write (d : Disk) (p : Place) (c : Content) : Disk :=
  let p := resolved p
  let files :=
    if d.files.any (·.1 = p) then d.files.map fun f => if f.1 = p then (p, c) else f
    else d.files ++ [(p, c)]
  { d with files, written := p :: d.written }

def makeDirectory (d : Disk) (p : Place) : Disk :=
  if p ∈ d.made then d else { d with made := p :: d.made }

/-- Why a directory cannot be made, if it cannot. -/
def obstacle? (d : Disk) (p : Place) : Option Obstacle :=
  if d.hasFile p then some .taken
  else if (pathTo p).any d.hasFile then some .blocked
  else if hasShortNames p then none
  else some .nameTooLong

end Disk

end DocTemplate.Console
