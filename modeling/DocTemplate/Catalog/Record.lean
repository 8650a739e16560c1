import DocTemplate.Catalog.DocumentType

/-!
# Document records

The record that a layout is filled from: a title and the day, with the fields of a payload laid over
them. A type of document may have a provider that reshapes its payloads.
-/

namespace DocTemplate.Catalog

open DocTemplate.Calendar

/-- A way to reshape the payload of a document. -/
abbrev Provider := Fields → Fields

abbrev Providers := DocumentType → Option Provider

/-- No type of document has a provider. -/
def noProviders : Providers := fun _ => none

def baseFields (today : Date) (t : DocumentType) : Fields :=
  [("title", .text t.label), ("generatedAt", .text (String.ofList today.text))]

/-- The record of a document. A payload that is null or empty has no fields; any other has to be a
record. -/
def documentRecord (providers : Providers) (today : Date) (t : DocumentType) (payload : Value) :
    Except Failure Fields :=
  let payload := if payload.isTruthy then payload else .record []
  match payload, providers t with
  | .record fields, some provider => .ok ((baseFields today t).overlay (provider fields))
  | .record fields, none => .ok ((baseFields today t).overlay fields)
  | _, some _ => .error .missingMember
  | _, none => .error .wrongKind

end DocTemplate.Catalog
