import DocTemplate.Artifact.Slug
import DocTemplate.Catalog.Record
import DocTemplate.Page.Picture

/-!
# Surroundings

What the store and the commands find where they run: the day, the providers of records, a way to find the words
of titles, and a reader of pictures.
-/

namespace DocTemplate

open DocTemplate.Artifact DocTemplate.Calendar DocTemplate.Catalog DocTemplate.Page

structure Surroundings where
  today : Date
  providers : Providers
  words : Words
  pictures : Pictures Float

/-- Surroundings without providers, for titles in Latin letters and pictures in PNG. -/
def Surroundings.plain (today : Date) : Surroundings := ⟨today, noProviders, latinWords, pngPictures⟩

end DocTemplate
