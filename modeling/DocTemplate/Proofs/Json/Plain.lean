import DocTemplate.Json.Reader
import DocTemplate.Proofs.Value.Plain

/-!
# Values that JSON text writes

Whatever is read from JSON text is plain data.
-/

namespace DocTemplate.Json

open DocTemplate.Text

theorem isPlain_of_mem_words {w : List Char × Value} (h : w ∈ words) : w.2.isPlain := by
  simp only [words, List.mem_cons, List.not_mem_nil, or_false] at h
  rcases h with rfl | rfl | rfl | rfl | rfl | rfl <;> rfl

theorem readWord?_isPlain {cs : List Char} {v : Value} {n : Nat} (h : readWord? cs = some (v, n)) :
    v.isPlain := by
  obtain ⟨w, hw, heq⟩ := Option.map_eq_some_iff.mp h
  obtain ⟨rfl, -⟩ := Prod.mk.inj heq
  exact isPlain_of_mem_words (List.mem_of_find?_eq_some hw)

theorem readNumber?_isPlain {cs : List Char} {v : Value} {n : Nat}
    (h : readNumber? cs = some (.ok v, n)) : v.isPlain := by
  unfold readNumber? at h
  split at h
  dsimp only at h
  split at h
  · cases h
  · obtain ⟨hv, -⟩ := Prod.mk.inj (Option.some.inj h)
    split at hv
    · split at hv
      · cases hv
      · obtain rfl := Except.ok.inj hv
        rfl
    · split at hv <;>
      · obtain rfl := Except.ok.inj hv
        rfl

theorem isPlain_set {fields : Fields} (h : ∀ f ∈ fields, f.2.isPlain) (key : String) {v : Value}
    (hv : v.isPlain) : ∀ f ∈ Fields.set fields key v, f.2.isPlain := by
  intro f hf
  rw [Fields.set] at hf
  split at hf
  · obtain ⟨g, hg, rfl⟩ := List.mem_map.mp hf
    split
    · exact hv
    · exact h g hg
  · rcases List.mem_append.mp hf with hf | hf
    · exact h f hf
    · obtain rfl := List.mem_singleton.mp hf
      exact hv

/-! ## Lists and records -/

/-- What is read with some fuel is plain: a value, the items of a list and the fields of a record. -/
structure ReadsPlain (fuel : Nat) : Prop where
  value : ∀ {depth : Nat} {c rest : Cursor} {v : Value},
    readValue fuel depth c = .ok (v, rest) → v.isPlain
  items : ∀ {depth : Nat} {done : List Value} {c rest : Cursor} {v : Value},
    (∀ w ∈ done, w.isPlain) → readItems fuel depth done c = .ok (v, rest) → v.isPlain
  fields : ∀ {depth : Nat} {done : Fields} {c rest : Cursor} {v : Value},
    (∀ f ∈ done, f.2.isPlain) → readFields fuel depth done c = .ok (v, rest) → v.isPlain

namespace ReadsPlain

variable {fuel : Nat} (ih : ReadsPlain fuel)

include ih

theorem value_succ {depth : Nat} {c rest : Cursor} {v : Value}
    (h : readValue (fuel + 1) depth c = .ok (v, rest)) : v.isPlain := by
  rw [readValue] at h
  split at h
  · obtain ⟨⟨cs, c⟩, -, h⟩ := bind_eq_ok_iff.mp h
    cases h
    rfl
  · split at h
    · cases h
    · dsimp only at h
      split at h
      · cases h
        rfl
      · exact ih.items (by simp) h
  · split at h
    · cases h
    · dsimp only at h
      split at h
      · cases h
        rfl
      · exact ih.fields (by simp) h
  · split at h
    · next hword =>
      cases h
      exact readWord?_isPlain hword
    · split at h
      · next hnumber =>
        cases h
        exact readNumber?_isPlain hnumber
      · cases h
      · cases h

theorem items_succ {depth : Nat} {done : List Value} {c rest : Cursor} {v : Value}
    (hdone : ∀ w ∈ done, w.isPlain) (h : readItems (fuel + 1) depth done c = .ok (v, rest)) :
    v.isPlain := by
  rw [readItems] at h
  obtain ⟨⟨w, c⟩, hw, h⟩ := bind_eq_ok_iff.mp h
  have hitems : ∀ x ∈ w :: done, x.isPlain := List.forall_mem_cons.mpr ⟨ih.value hw, hdone⟩
  dsimp only at h
  split at h
  · cases h
    exact Value.isPlain_list.mpr fun x hx => hitems x (List.mem_reverse.mp hx)
  · exact ih.items hitems h
  · cases h

theorem fields_succ {depth : Nat} {done : Fields} {c rest : Cursor} {v : Value}
    (hdone : ∀ f ∈ done, f.2.isPlain) (h : readFields (fuel + 1) depth done c = .ok (v, rest)) :
    v.isPlain := by
  rw [readFields] at h
  split at h
  · obtain ⟨⟨key, c⟩, -, h⟩ := bind_eq_ok_iff.mp h
    dsimp only at h
    split at h
    · obtain ⟨⟨w, c⟩, hw, h⟩ := bind_eq_ok_iff.mp h
      have hfields := isPlain_set hdone (String.ofList key) (ih.value hw)
      dsimp only at h
      split at h
      · cases h
        exact Value.isPlain_record.mpr hfields
      · exact ih.fields hfields h
      · cases h
    · cases h
  · cases h

end ReadsPlain

theorem readsPlain (fuel : Nat) : ReadsPlain fuel := by
  induction fuel with
  | zero =>
    refine ⟨fun h => ?_, fun _ h => ?_, fun _ h => ?_⟩
    · cases h
    · cases h
    · cases h
  | succ fuel ih => exact ⟨ih.value_succ, ih.items_succ, ih.fields_succ⟩

/-- JSON text writes plain data. -/
theorem read_isPlain {cs : List Char} {v : Value} (h : read cs = .ok v) : v.isPlain := by
  unfold read at h
  split at h
  · cases h
  · obtain ⟨⟨w, c⟩, hw, hend⟩ := bind_eq_ok_iff.mp h
    dsimp only at hend
    split at hend
    · obtain rfl := Except.ok.inj hend
      exact (readsPlain _).value hw
    · cases hend

end DocTemplate.Json
