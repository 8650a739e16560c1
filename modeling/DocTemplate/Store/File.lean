import DocTemplate.Store.Basic

/-!
# Rows in a file

A store is kept between commands as one record of its rows. Main statement: what is written reads back.
-/

namespace DocTemplate

open DocTemplate.Catalog

def numberValue (n : Nat) : Value := .int n

def number? : Value → Option Nat
  | .int (.ofNat n) => some n
  | _ => none

/-- A part of a row that may be missing. -/
def optionValue {β : Type} (toValue : β → Value) : Option β → Value
  | none => .null
  | some b => toValue b

/-- The part of a row that may be missing. -/
def option? {β : Type} (ofValue? : Value → Option β) (v : Value) : Option (Option β) :=
  match v with
  | .null => some none
  | v => (ofValue? v).map some

def Template.toValue (t : Template) : Value :=
  .list [numberValue t.id, .text t.name, optionValue .text t.description, .text t.type.name,
    .text t.status.name, optionValue numberValue t.current, optionValue numberValue t.publishedAt,
    numberValue t.updatedAt]

def Template.ofValue? (v : Value) : Option Template :=
  match v with
  | .list [id, name, description, type, status, current, publishedAt, updatedAt] => do
    some ⟨← number? id, ← name.text?, ← option? Value.text? description,
      ← type.text?.bind DocumentType.named?, ← (Status.read status).toOption, ← option? number? current,
      ← option? number? publishedAt, ← number? updatedAt⟩
  | _ => none

def Version.toValue (v : Version) : Value :=
  .list [numberValue v.id, numberValue v.templateId, numberValue v.number, .list v.layout, v.parameters,
    v.sampleData, optionValue .text v.notes]

def Version.ofValue? (v : Value) : Option Version :=
  match v with
  | .list [id, templateId, number, .list layout, parameters, sampleData, notes] => do
    some ⟨← number? id, ← number? templateId, ← number? number, layout, parameters, sampleData,
      ← option? Value.text? notes⟩
  | _ => none

def Store.toValue (s : Store) : Value :=
  .list [.list (s.templates.map Template.toValue), .list (s.versions.map Version.toValue),
    numberValue s.clock]

def Store.ofValue? (v : Value) : Option Store :=
  match v with
  | .list [.list templates, .list versions, clock] => do
    some ⟨← templates.mapM Template.ofValue?, ← versions.mapM Version.ofValue?, ← number? clock⟩
  | _ => none

theorem number?_numberValue (n : Nat) : number? (numberValue n) = some n := rfl

theorem option?_number (o : Option Nat) : option? number? (optionValue numberValue o) = some o := by
  cases o <;> rfl

theorem option?_text (o : Option String) : option? Value.text? (optionValue .text o) = some o := by
  cases o <;> rfl

theorem Status.read_name (s : Status) : (Status.read (.text s.name)).toOption = some s := by
  cases s <;> decide

theorem Template.ofValue?_toValue (t : Template) : Template.ofValue? t.toValue = some t := by
  simp [toValue, ofValue?, number?_numberValue, option?_number, option?_text, Value.text?,
    DocumentType.named?_name, Status.read_name]

theorem Version.ofValue?_toValue (v : Version) : Version.ofValue? v.toValue = some v := by
  simp [toValue, ofValue?, number?_numberValue, option?_text]

/-- Rows that are written read back. -/
theorem mapM_ofValue?_map_toValue {β : Type} {toValue : β → Value} {ofValue? : Value → Option β}
    (h : ∀ b, ofValue? (toValue b) = some b) (bs : List β) :
    (bs.map toValue).mapM ofValue? = some bs := by
  induction bs with
  | nil => rfl
  | cons b bs ih => simp [List.mapM_cons, h, ih]

theorem Store.ofValue?_toValue (s : Store) : Store.ofValue? s.toValue = some s := by
  simp [toValue, ofValue?, number?_numberValue,
    mapM_ofValue?_map_toValue Template.ofValue?_toValue,
    mapM_ofValue?_map_toValue Version.ofValue?_toValue]

end DocTemplate
