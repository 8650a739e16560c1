import DocTemplate.Catalog.Starter
import DocTemplate.Layout.Dump
import DocTemplate.Store.Basic
import DocTemplate.Store.Column

/-!
# Changes to a store

Saving a template adds a version to it, publishing makes a version the one in use, and deleting takes a
template away with its versions. A layout is read before anything is written.
-/

namespace DocTemplate.Store

open DocTemplate.Catalog

/-- A failure of another part, as one of the store. -/
def orFail {ε β : Type} (wrap : ε → StoreFailure) (r : Except ε β) : Access β :=
  match r with
  | .ok b => pure b
  | .error e => throw (wrap e)

/-- The time, which goes on. -/
def tick : Access Nat := modifyGet fun s => (s.clock, { s with clock := s.clock + 1 })

/-- The greatest number that a row can have. -/
def lastNumber : Int := 0x7FFFFFFFFFFFFFFF

/-- A number that a row can have. -/
def checkNumber (id : Int) : Access Unit :=
  if -lastNumber - 1 ≤ id ∧ id ≤ lastNumber then pure () else throw .numberTooGreat

/-- The template of a number, which has to be there. -/
def findTemplate (id : Int) : Access Template := do
  checkNumber id
  match (← get).template? id with
  | some t => pure t
  | none => throw (.noTemplate id)

/-- What a template is saved with. -/
structure SaveRequest where
  name : Option String
  type : Value
  layout : Option Value
  templateId : Option Int
  description : Option String
  parameters : Value
  sampleData : Value
  notes : Option String
  status : Status

/-- A template is added, without a version. -/
def addTemplate (r : SaveRequest) (type : DocumentType) : Access Template := do
  match r.name with
  | none => throw .unnamed
  | some name =>
    let time ← tick
    let s ← get
    let t : Template :=
      ⟨nextNumber (s.templates.map (·.id)), name, r.description, type, r.status, none, none, time⟩
    set { s with templates := s.templates ++ [t] }
    pure t

/-- A version is added to a template, after those it has. -/
def addVersion (template : Nat) (layout : List Value) (r : SaveRequest) : Access Nat := do
  let columns : Option (List Value × Value × Value) := do
    let layout ← keptItems? layout
    let parameters ← kept? (if r.parameters.isTruthy then r.parameters else .record [])
    let sampleData ← kept? (if r.sampleData.isTruthy then r.sampleData else .record [])
    some (layout, parameters, sampleData)
  match columns with
  | none => throw .unwritable
  | some (layout, parameters, sampleData) =>
    let s ← get
    let id := nextNumber (s.versions.map (·.id))
    let number := nextNumber ((s.versionsOf template).map (·.number))
    let v : Version := ⟨id, template, number, layout, parameters, sampleData, r.notes⟩
    set { s with versions := s.versions ++ [v] }
    pure id

/-- The layout that is saved: the one given, or else the one that the type of document begins with. -/
def layoutToSave (r : SaveRequest) (type : DocumentType) : Access (List Value) := do
  let layout ← match r.layout with
    | some raw => orFail .unreadable (loadLayout raw)
    | none => pure (defaultLayout type)
  orFail .failed (dumpLayout layout)

/-- A template is saved: a new one, or a new version of one that is there. -/
def save (r : SaveRequest) : Access Template := do
  let type ← orFail .noMember (DocumentType.read r.type)
  let layout ← layoutToSave r type
  let t ← match r.templateId with
    | none => addTemplate r type
    | some id => findTemplate id
  let version ← addVersion t.id layout r
  match r.name with
  | none => throw .unnamed
  | some name =>
    let time ← tick
    let t := { t with name, description := r.description, type, status := r.status,
                      current := some version, updatedAt := time }
    modify (·.replace t)
    pure t

/-- The version that is published: the one asked for, which has to belong to the template, or else the
newest one. -/
def versionToPublish (template : Int) (version : Option Int) : Access (Option Nat) := do
  match version with
  | none =>
    let s ← get
    pure ((s.versionsOf template).getLast?.map (·.id))
  | some id =>
    checkNumber id
    match (← get).version? id with
    | some v =>
      if v.templateId = template then pure (some v.id) else throw (.foreignVersion id template)
    | none => throw (.foreignVersion id template)

def publish (template : Int) (version : Option Int) : Access Template := do
  let t ← findTemplate template
  let current ← versionToPublish template version
  let time ← tick
  let t := { t with status := .published, publishedAt := some time, current, updatedAt := time }
  modify (·.replace t)
  pure t

/-- A template is taken away, and its versions with it. -/
def delete (template : Int) : Access Unit := do
  let t ← findTemplate template
  modify fun s => { s with
    templates := s.templates.filter fun u => u.id != t.id,
    versions := s.versions.filter fun v => v.templateId != t.id }

/-- The template of a number, if there is one. -/
def lookTemplate (id : Int) : Access (Option Template) := do
  checkNumber id
  pure ((← get).template? id)

/-- The version of a number, if there is one. -/
def lookVersion (id : Int) : Access (Option Version) := do
  checkNumber id
  pure ((← get).version? id)

def lookVersions (template : Int) : Access (List Version) := do
  checkNumber template
  pure ((← get).versionsOf template)

end DocTemplate.Store
