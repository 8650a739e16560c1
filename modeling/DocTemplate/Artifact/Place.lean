import DocTemplate.Text.Blank

/-!
# Places of files

Where the files of a document are: in a directory named by its slug, under a fixed name for each kind of
file.
-/

namespace DocTemplate.Artifact

open DocTemplate.Text

/-- A path: whether it begins at the root, and the names that lead to its end. -/
structure Place where
  absolute : Bool
  names : List String
deriving DecidableEq, Repr

namespace Place

/-- The names in a path text; empty names and names for the same directory say nothing. -/
def namesOf (s : String) : List String :=
  ((pieces '/' s.toList).map String.ofList).filter fun name => name != "" && name != "."

def read (s : String) : Place := ⟨s.toList.head? == some '/', namesOf s⟩

/-- A place named from another one; a text that begins at the root stands for itself. -/
def join (p : Place) (s : String) : Place :=
  let q := read s
  if q.absolute then q else ⟨p.absolute, p.names ++ q.names⟩

def text (p : Place) : String :=
  if p.absolute then "/" ++ "/".intercalate p.names
  else if p.names.isEmpty then "."
  else "/".intercalate p.names

end Place

/-- The kinds of files that documents have. -/
inductive FileKind
  | html
  | pdf
deriving DecidableEq, Repr

namespace FileKind

def name : FileKind → String
  | html => "html"
  | pdf => "pdf"

def named? (s : String) : Option FileKind := [html, pdf].find? (·.name == s)

def fileName : FileKind → String
  | html => "document.html"
  | pdf => "document.pdf"

end FileKind

def documentDirectory (base : Place) (slug : String) (includeSlug : Bool) : Place :=
  if includeSlug then base.join slug else base

def filePlace (base : Place) (slug : String) (kind : FileKind) (includeSlug : Bool) : Place :=
  (documentDirectory base slug includeSlug).join kind.fileName

end DocTemplate.Artifact
