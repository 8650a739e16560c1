import DocTemplate.Html.Document
import DocTemplate.Page.Document
import DocTemplate.Store.Access
import DocTemplate.Surroundings

/-!
# Showing templates

A template is shown with the layout of its version in use and the sample data of that version, unless
other ones are given.
-/

namespace DocTemplate.Store

open DocTemplate.Catalog DocTemplate.Page

/-- What is to be shown. -/
structure ShowRequest where
  templateId : Option Int
  layout : Option Value
  type : Value
  data : Value

/-- What a document is made of. -/
structure Inputs where
  layout : Layout
  type : DocumentType
  data : Fields
  title : String

/-- The template that is shown, if one is asked for. -/
def shownTemplate (id : Option Int) : Access (Option Template) :=
  match id with
  | some id => some <$> findTemplate id
  | none => pure none

/-- The type of the document that is shown: the one given, the template's, or an invoice. -/
def shownType (r : ShowRequest) (t : Option Template) : Access DocumentType :=
  if r.type.isTruthy then orFail .noMember (DocumentType.read r.type)
  else pure ((t.map (·.type)).getD .invoice)

/-- The layout that is shown: the one given, the version's, or the one that the type begins with. -/
def shownLayout (r : ShowRequest) (v : Option Version) (type : DocumentType) : Access Layout :=
  match r.layout, v with
  | some raw, _ => orFail .unreadable (loadLayout raw)
  | none, some v => orFail .unreadable (loadLayout (.list v.layout))
  | none, none => pure (defaultLayout type)

/-- The payload that is shown: the one given, or the sample data of the version. -/
def shownPayload (r : ShowRequest) (v : Option Version) : Value :=
  if r.data.isNull then (v.map (·.sampleData)).getD (.record []) else r.data

def gather (around : Surroundings) (r : ShowRequest) : Access Inputs := do
  let t ← shownTemplate r.templateId
  let s ← get
  let v := (t.bind (·.current)).bind fun id => s.version? id
  let type ← shownType r t
  let layout ← shownLayout r v type
  let data ← orFail .failed (documentRecord around.providers around.today type (shownPayload r v))
  pure ⟨layout, type, data, (t.map (·.name)).getD type.label⟩

/-- A document as HTML, and what it was made of. -/
structure Preview where
  html : String
  inputs : Inputs

/-- A document on pages, and what it was made of. -/
structure Generated where
  pages : Drawn Float
  inputs : Inputs

/-- The HTML of a template. -/
def preview (around : Surroundings) (r : ShowRequest) : Access Preview := do
  let inputs ← gather around r
  pure ⟨Html.document inputs.layout (.record inputs.data) (some inputs.title), inputs⟩

/-- The pages of a template. -/
def generate (around : Surroundings) (r : ShowRequest) : Access Generated := do
  let inputs ← gather around r
  let pages ← orFail .failed
    (drawDocument .standard .standard none around.pictures inputs.layout (.record inputs.data) (some inputs.title))
  pure ⟨pages, inputs⟩

end DocTemplate.Store
