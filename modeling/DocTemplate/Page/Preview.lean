/-!
# Previews

Pictures of the first pages of a document are files in a directory, one for each page.
-/

namespace DocTemplate.Page

/-- How many pages are shown in previews. -/
def previewLimit : Int := 3

def previewName (page : Nat) : String := "preview_" ++ toString page ++ ".png"

/-- The files of the previews of a document; there is none of a page beyond the limit. -/
def previewNames (pageCount : Nat) (limit : Int) : List String :=
  (List.range (min pageCount limit.toNat)).map fun i => previewName (i + 1)

end DocTemplate.Page
