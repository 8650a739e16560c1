import DocTemplate.Proofs.Store.Keeping
import DocTemplate.Proofs.Store.Recorded

/-!
# Templates that are spared

The rows of a template stay as they are while steps read, are about other templates or fail, also when
numbers that a deletion has freed are used again.
-/

namespace DocTemplate.Store

open DocTemplate.Calendar DocTemplate.Catalog

/-- Steps that follow one another spare a template: those of them that are about it fail. -/
def Spared (around : Surroundings) (id : Nat) : List Step → Store → Prop
  | [], _ => True
  | step :: steps, s => (step.target? = some (id : Int) → ∃ e, (step.run around s).1 = .error e) ∧
      Spared around id steps (step.run around s).2

variable {t : Template} {v : Version} {s : Store}

/-! ## Rows -/

/-- A new row takes a number that the template does not have. -/
theorem Held.ne_nextNumber (h : Held t v s) : nextNumber (s.templates.map (·.id)) ≠ t.id := by
  intro hid
  have hmem : t.id ∈ s.templates.map (·.id) := List.mem_map_of_mem h.row
  rw [← hid] at hmem
  exact nextNumber_notMem _ hmem

theorem Held.addTemplate (h : Held t v s) (u : Template) (clock : Nat) :
    Held t v { s with templates := s.templates ++ [u], clock } :=
  { h with row := List.mem_append_left _ h.row }

theorem Held.addVersion (h : Held t v s) (w : Version) :
    Held t v { s with versions := s.versions ++ [w] } :=
  { h with version := List.mem_append_left _ h.version }

theorem Held.write (h : Held t v s) {u : Template} (hid : u.id ≠ t.id) (clock : Nat) :
    Held t v { s.replace u with clock } :=
  { h with row := List.mem_map.mpr ⟨t, h.row, if_neg (Ne.symm hid)⟩ }

theorem Held.delete (h : Held t v s) {id : Nat} (hid : id ≠ t.id) :
    Held t v { s with templates := s.templates.filter fun u => u.id != id,
                      versions := s.versions.filter fun w => w.templateId != id } :=
  { h with
    row := List.mem_filter.mpr ⟨h.row, by simpa using Ne.symm hid⟩
    version := List.mem_filter.mpr ⟨h.version, by simpa [h.owner] using Ne.symm hid⟩ }

theorem keeps_held : Keeps (Held t v) (fun _ => True) (· ≠ t.id) (· ≠ t.id) where
  addVersion _ w h _ := h.addVersion w
  write _ _ clock h hid := h.write hid clock
  delete _ _ h hid := h.delete hid

theorem keepsNew_held : KeepsNew (Held t v) (fun _ => True) (· ≠ t.id) where
  addTemplate _ u clock h _ := h.addTemplate u clock
  fresh _ h := ⟨trivial, h.ne_nextNumber⟩

/-! ## Steps -/

/-- A step keeps the rows of a template, unless it is about the template and does not fail. -/
theorem Held.run (h : Held t v s) {around : Surroundings} {step : Step}
    (hspared : step.target? = some (t.id : Int) → ∃ e, (step.run around s).1 = .error e) :
    Held t v (step.run around s).2 := by
  refine keeps_held.run (fun _ => keepsNew_held) (fun _ _ => trivial) (fun hanswers => ?_) h
  have hother : step.target? ≠ some (t.id : Int) := fun htarget =>
    absurd (hspared htarget) (not_exists.mpr hanswers)
  refine ⟨?_, ?_⟩
  · rintro id hid rfl
    exact hother hid
  · rintro id rfl rfl
    exact hother rfl

/-- Steps that spare a template keep its rows. -/
theorem Held.runAll {around : Surroundings} {steps : List Step} (h : Held t v s)
    (hspared : Spared around t.id steps s) : Held t v (runAll around steps s) := by
  induction steps generalizing s with
  | nil => exact h
  | cons step steps ih =>
    obtain ⟨hstep, hrest⟩ := hspared
    exact ih (h.run hstep) hrest

end DocTemplate.Store
