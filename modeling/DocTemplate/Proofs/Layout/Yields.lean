import DocTemplate.Layout.Load
import DocTemplate.Proofs.Value.Plain

/-!
# What readings yield

Properties that whatever is accepted has, carried from the readings of parts to the reading of the whole.
-/

namespace DocTemplate

/-! ## Readings -/

namespace Checked

variable {α β : Type}

/-- What is accepted has a property. -/
def Yields (a : Checked α) (Q : α → Prop) : Prop := ∀ x, a = .accepted x → Q x

theorem inside_eq_accepted_iff {name : String} {a : Checked α} {x : α} :
    a.inside name = .accepted x ↔ a = .accepted x := by
  cases a <;> simp [inside]

namespace Yields

variable {Q R : α → Prop} {S : β → Prop}

theorem any {a : Checked α} : Yields a fun _ => True := fun _ _ => trivial

theorem accepted {x : α} (h : Q x) : Yields (.accepted x) Q := fun _ hx => Checked.accepted.inj hx ▸ h

theorem reject {reason : Reason} : Yields (Checked.reject reason : Checked α) Q := fun _ hx => nomatch hx

theorem inside {name : String} {a : Checked α} (h : Yields a Q) : Yields (a.inside name) Q :=
  fun x hx => h x (inside_eq_accepted_iff.mp hx)

theorem map {f : α → β} {a : Checked α} (ha : Yields a R) (h : ∀ x, R x → S (f x)) :
    Yields (f <$> a) S := by
  intro y hy
  cases a with
  | rejected p ps => cases hy
  | accepted x => exact Checked.accepted.inj hy ▸ h x (ha x rfl)

theorem seq {f : Checked (α → β)} {a : Checked α} (hf : Yields f fun g => ∀ x, R x → S (g x))
    (ha : Yields a R) : Yields (f <*> a) S := by
  intro y hy
  cases f with
  | rejected p ps => cases a <;> cases hy
  | accepted g =>
    cases a with
    | rejected p ps => cases hy
    | accepted x => exact Checked.accepted.inj hy ▸ hf g rfl x (ha x rfl)

theorem andThen {f : α → Checked β} {a : Checked α} (hf : ∀ x, Yields (f x) S) :
    Yields (a.andThen f) S := by
  intro y hy
  cases a with
  | rejected p ps => cases hy
  | accepted x => exact hf x y hy

theorem itemsFrom {readings : List (Checked α)} (h : ∀ r ∈ readings, Yields r Q) (index : Nat) :
    Yields (Checked.itemsFrom index readings) fun xs => ∀ x ∈ xs, Q x := by
  induction readings generalizing index with
  | nil => exact accepted (by simp)
  | cons r rs ih =>
    refine seq (map (inside (h r List.mem_cons_self)) fun x hx xs hxs => ?_)
      (ih (fun s hs => h s (List.mem_cons_of_mem r hs)) (index + 1))
    exact List.forall_mem_cons.mpr ⟨hx, hxs⟩

end Yields

end Checked

open Checked

section

variable {α : Type} {Q : α → Prop} {fields : Fields} {name : FieldName} {read : Value → Checked α}

theorem FieldName.mem_of_find? {key : String} {v : Value} (h : name.find? fields = some (key, v)) :
    (key, v) ∈ fields := by
  rw [FieldName.find?] at h
  split at h
  · next hwire =>
    obtain ⟨rfl, rfl⟩ := Prod.mk.inj (Option.some.inj h)
    obtain ⟨before, after, rfl, -⟩ := List.lookup_eq_some_iff.mp hwire
    simp
  · obtain ⟨w, hspelled, heq⟩ := Option.map_eq_some_iff.mp h
    obtain ⟨rfl, rfl⟩ := Prod.mk.inj heq
    obtain ⟨before, after, rfl, -⟩ := List.lookup_eq_some_iff.mp hspelled
    simp

theorem withDefault_yields {default : α} (hdefault : Q default)
    (h : ∀ f ∈ fields, Yields (read f.2) Q) : Yields (withDefault fields name default read) Q := by
  unfold withDefault
  split
  · next hfind => exact (h _ (FieldName.mem_of_find? hfind)).inside
  · exact .accepted hdefault

theorem optional_yields (h : ∀ f ∈ fields, Yields (read f.2) Q) :
    Yields (optional fields name read) fun a? => ∀ a ∈ a?, Q a :=
  withDefault_yields (by simp) fun f hf => (h f hf).map fun a ha => by simpa using ha

theorem readSequence_yields {v : Value}
    (h : ∀ items, v.items? = some items → ∀ w ∈ items, Yields (read w) Q) :
    Yields (readSequence read v) fun xs => ∀ x ∈ xs, Q x := by
  unfold readSequence
  split
  · next items hitems =>
    refine .itemsFrom (fun r hr => ?_) 0
    obtain ⟨w, hw, rfl⟩ := List.mem_map.mp hr
    exact h items hitems w hw
  · exact .reject

end

/-- The fields that are left are plain, and none of them is null. -/
theorem mem_dropNulls {fields : Fields} (h : (Value.record fields).isPlain) {f : String × Value}
    (hf : f ∈ dropNulls fields) : f.2.isPlain ∧ ¬f.2.isNull := by
  obtain ⟨hmem, hnull⟩ := List.mem_filter.mp hf
  exact ⟨Value.isPlain_record.mp h f hmem, by simpa using hnull⟩

theorem readRecord_yields {α : Type} {Q : α → Prop} {noun : String} {read : Fields → Checked α} {v : Value}
    (h : ∀ fields, v = .record fields → Yields (read (dropNulls fields)) Q) :
    Yields (readRecord noun read v) Q := by
  cases v with
  | record fields => exact h fields rfl
  | _ => exact .reject

end DocTemplate
