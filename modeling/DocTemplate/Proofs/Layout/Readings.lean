import DocTemplate.Proofs.Layout.ReadBack

/-!
# Readings that agree

Two readings agree when they accept the same value, or find the same problems at the same places up to the
spelling of names. Agreement is carried from the readings of fields and items to the reading of the whole.
-/

namespace DocTemplate

/-- A problem, with the names that lead to it spelled another way. -/
def Problem.respell (spell : String → String) (p : Problem) : Problem := { p with path := p.path.map spell }

namespace Checked

variable {α β : Type} (spell : String → String)

/-- A reading, with the names that lead to its problems spelled another way. -/
def respell : Checked α → Checked α
  | accepted a => accepted a
  | rejected p ps => rejected (p.respell spell) (ps.map (Problem.respell spell))

@[simp] theorem respell_accepted (a : α) : (accepted a).respell spell = accepted a := rfl

@[simp] theorem respell_id (a : Checked α) : a.respell id = a := by
  cases a with
  | accepted a => rfl
  | rejected p ps =>
    have hid : Problem.respell id = id := funext fun p => by simp [Problem.respell]
    simp [respell, hid]

@[simp] theorem respell_inside (name : String) (a : Checked α) :
    (a.inside name).respell spell = (a.respell spell).inside (spell name) := by
  cases a with
  | accepted a => rfl
  | rejected p ps => simp [respell, inside, Problem.respell]

@[simp] theorem respell_seq (f : Checked (α → β)) (a : Checked α) :
    (f <*> a).respell spell = f.respell spell <*> a.respell spell := by
  cases f with
  | accepted f => cases a <;> rfl
  | rejected p ps =>
    cases a with
    | accepted a => rfl
    | rejected q qs =>
      change respell spell (rejected p (ps ++ q :: qs)) = rejected _ (_ ++ _ :: _)
      simp [respell]

@[simp] theorem respell_map (f : α → β) (a : Checked α) :
    (f <$> a).respell spell = f <$> a.respell spell := by
  cases a <;> rfl

/-- Two readings are the same up to the spelling of names. -/
def Agree (a b : Checked α) : Prop := a.respell spell = b.respell spell

theorem agree_id_iff {a b : Checked α} : Agree id a b ↔ a = b := by
  rw [Agree, respell_id, respell_id]

variable {spell}

theorem Agree.accepted_iff {a b : Checked α} (h : Agree spell a b) (x : α) :
    a = accepted x ↔ b = accepted x := by
  cases a <;> cases b <;> simp_all [Agree, respell]

namespace Agree

variable {a b : Checked α}

theorem refl (a : Checked α) : Agree spell a a := rfl

theorem inside {name other : String} (hname : spell name = spell other) (h : Agree spell a b) :
    Agree spell (a.inside name) (b.inside other) := by
  rw [Agree, respell_inside, respell_inside, hname, h]

theorem map (f : α → β) (h : Agree spell a b) : Agree spell (f <$> a) (f <$> b) := by
  rw [Agree, respell_map, respell_map, h]

theorem seq {f g : Checked (α → β)} (hf : Agree spell f g) (h : Agree spell a b) :
    Agree spell (f <*> a) (g <*> b) := by
  rw [Agree, respell_seq, respell_seq, hf, h]

/-- Sequences agree if the items agree in which they differ. -/
theorem itemsFrom (before after : List (Checked α)) (h : Agree spell a b) (index : Nat) :
    Agree spell (Checked.itemsFrom index (before ++ a :: after))
      (Checked.itemsFrom index (before ++ b :: after)) := by
  induction before generalizing index with
  | nil => exact ((h.inside rfl).map _).seq (refl _)
  | cons c before ih => exact ((refl _).map _).seq (ih (index + 1))

end Agree

end Checked

open Checked

/-! ## Fields -/

section

variable {α : Type} {spell : String → String} {read : Value → Checked α} {fs gs : Fields} {name : FieldName}

/-- What is found of a field in two records: nothing in either, or values that are read alike under names that
are spelled alike. -/
inductive FoundAlike (spell : String → String) (read : Value → Checked α) :
    Option (String × Value) → Option (String × Value) → Prop
  | missing : FoundAlike spell read none none
  | found {key other : String} {v w : Value} (hkey : spell key = spell other)
    (h : Agree spell (read v) (read w)) : FoundAlike spell read (some (key, v)) (some (other, w))

theorem FoundAlike.of_eq {found other : Option (String × Value)} (h : found = other) :
    FoundAlike spell read found other := by
  subst h
  cases found with
  | none => exact .missing
  | some f => exact .found rfl (.refl _)

theorem FoundAlike.spelled_eq {found other : Option (String × Value)} (h : FoundAlike spell read found other) :
    found.map (spell ·.1) = other.map (spell ·.1) := by
  cases h with
  | missing => rfl
  | found hkey _ => simp [hkey]

theorem FoundAlike.some {found other : Option (String × Value)} (h : FoundAlike spell read found other) :
    FoundAlike spell (fun v => Option.some <$> read v) found other := by
  cases h with
  | missing => exact .missing
  | found hkey h => exact .found hkey (h.map Option.some)

/-- A field of two records that is read alike. -/
def FieldAlike (spell : String → String) (read : Value → Checked α) (fs gs : Fields) (name : FieldName) :
    Prop := FoundAlike spell read (name.find? fs) (name.find? gs)

namespace FieldAlike

theorem required (h : FieldAlike spell read fs gs name) :
    Agree spell (required fs name read) (required gs name read) := by
  unfold DocTemplate.required
  unfold FieldAlike at h
  generalize name.find? fs = found, name.find? gs = other at h ⊢
  cases h with
  | missing => exact .refl _
  | found hkey h => exact h.inside hkey

theorem withDefault (h : FieldAlike spell read fs gs name) (default : α) :
    Agree spell (withDefault fs name default read) (withDefault gs name default read) := by
  unfold DocTemplate.withDefault
  unfold FieldAlike at h
  generalize name.find? fs = found, name.find? gs = other at h ⊢
  cases h with
  | missing => exact .refl _
  | found hkey h => exact h.inside hkey

theorem optional (h : FieldAlike spell read fs gs name) :
    Agree spell (optional fs name read) (optional gs name read) :=
  withDefault (FoundAlike.some h) none

end FieldAlike

end

end DocTemplate
