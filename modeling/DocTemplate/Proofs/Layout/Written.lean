import DocTemplate.Layout.Dump
import DocTemplate.Proofs.Action
import DocTemplate.Proofs.Value.Plain

/-!
# What is written of a layout

Whatever a layout holds, it is written as plain data: what JSON has no kind for has become text or a list.
-/

namespace DocTemplate

namespace Value

/-! ## Values -/

mutual

theorem isPlain_of_toPlain : ∀ {v w : Value}, v.toPlain = .ok w → w.isPlain
  | .null, _, h | .bool _, _, h | .int _, _, h | .text _, _, h => by
    obtain rfl := Except.ok.inj h
    rfl
  | .float x, _, h => by
    obtain rfl := Except.ok.inj h
    cases Number.isFinite x <;> rfl
  | .decimal _, _, h | .date _, _, h | .moment _, _, h => by
    obtain rfl := Except.ok.inj h
    rfl
  | .bytes bs, w, h => by
    rw [toPlain] at h
    split at h
    · obtain rfl := Except.ok.inj h
      rfl
    · cases h
  | .list items, w, h | .tuple items, w, h => by
    rw [toPlain] at h
    cases hitems : toPlainItems items with
    | error e =>
      rw [hitems] at h
      cases h
    | ok ws =>
      rw [hitems] at h
      obtain rfl := Except.ok.inj h
      exact isPlain_list.mpr (isPlain_of_toPlainItems hitems)
  | .record fields, w, h => by
    rw [toPlain] at h
    cases hfields : toPlainFields fields with
    | error e =>
      rw [hfields] at h
      cases h
    | ok own =>
      rw [hfields] at h
      obtain rfl := Except.ok.inj h
      exact isPlain_of_toPlainFields hfields

theorem isPlain_of_toPlainItems : ∀ {vs ws : List Value}, toPlainItems vs = .ok ws → ∀ w ∈ ws, w.isPlain
  | [], _, h => by
    obtain rfl := Except.ok.inj h
    exact List.forall_mem_nil _
  | v :: vs, _, h => by
    rw [toPlainItems] at h
    obtain ⟨w, hw, h⟩ := bind_eq_ok_iff.mp h
    obtain ⟨ws, hws, h⟩ := bind_eq_ok_iff.mp h
    obtain rfl := Except.ok.inj h
    exact List.forall_mem_cons.mpr ⟨isPlain_of_toPlain hw, isPlain_of_toPlainItems hws⟩

theorem isPlain_of_toPlainFields : ∀ {fields own : List (String × Value)},
    toPlainFields fields = .ok own → (record own).isPlain
  | [], _, h => by
    obtain rfl := Except.ok.inj h
    rfl
  | (key, v) :: fields, _, h => by
    rw [toPlainFields] at h
    obtain ⟨w, hw, h⟩ := bind_eq_ok_iff.mp h
    obtain ⟨own, hown, h⟩ := bind_eq_ok_iff.mp h
    obtain rfl := Except.ok.inj h
    refine isPlain_record.mpr (List.forall_mem_cons.mpr ⟨isPlain_of_toPlain hw, ?_⟩)
    exact isPlain_record.mp (isPlain_of_toPlainFields hown)

end

/-! ## Records -/

variable {key : String} {v : Value} {fields more : Fields}

@[simp] theorem isPlain_bool (b : Bool) : (bool b).isPlain := rfl

@[simp] theorem isPlain_text (s : String) : (text s).isPlain := rfl

@[simp] theorem isPlain_record_nil : (record []).isPlain := rfl

@[simp] theorem isPlain_record_cons :
    (record ((key, v) :: fields)).isPlain ↔ v.isPlain ∧ (record fields).isPlain := by
  simp only [isPlain_record, List.forall_mem_cons]

@[simp] theorem isPlain_record_append :
    (record (fields ++ more)).isPlain ↔ (record fields).isPlain ∧ (record more).isPlain := by
  simp only [isPlain_record, List.forall_mem_append]

theorem isPlain_record_entry {α : Type} {toValue : α → Value} (h : ∀ a, (toValue a).isPlain)
    (a? : Option α) : (record (entry key toValue a?)).isPlain := by
  cases a? with
  | none => rfl
  | some a => exact isPlain_record_cons.mpr ⟨h a, rfl⟩

@[simp] theorem isPlain_entry_text (s? : Option String) : (record (entry key .text s?)).isPlain :=
  isPlain_record_entry (fun _ => rfl) s?

@[simp] theorem isPlain_entry_float (x? : Option Float) : (record (entry key .float x?)).isPlain :=
  isPlain_record_entry (fun _ => rfl) x?

theorem isPlain_list_map {α : Type} {toValue : α → Value} (h : ∀ a, (toValue a).isPlain)
    (as : List α) : (list (as.map toValue)).isPlain :=
  isPlain_list.mpr (List.forall_mem_map.mpr fun a _ => h a)

end Value

open Value

/-! ## Components -/

theorem Border.isPlain_dump (b : Border) : b.dump.isPlain := by simp [Border.dump]

theorem Style.isPlain_dump (s : Style) : s.dump.isPlain := by
  have hborder : (record (entry "border" Border.dump s.border)).isPlain :=
    isPlain_record_entry Border.isPlain_dump s.border
  simp [Style.dump, hborder]

theorem ListItem.isPlain_dump (i : ListItem) : i.dump.isPlain := by simp [ListItem.dump]

theorem Chip.isPlain_dump (c : Chip) : c.dump.isPlain := by simp [Chip.dump]

theorem Column.isPlain_dump (c : Column) : c.dump.isPlain := by
  have halign : (record (entry "align" (text ·.name) c.align)).isPlain :=
    isPlain_record_entry (fun _ => rfl) c.align
  have hformat : (record (entry "format" (text ·.name) c.format)).isPlain :=
    isPlain_record_entry (fun _ => rfl) c.format
  simp [Column.dump, halign, hformat]

theorem Condition.isPlain_dump {c : Condition} {v : Value} (h : c.dump = .ok v) : v.isPlain := by
  obtain ⟨value, hvalue, h⟩ := bind_eq_ok_iff.mp h
  obtain rfl := Except.ok.inj h
  cases c.value.isNull with
  | true => simp
  | false => simpa using isPlain_of_toPlain hvalue

theorem isPlain_dumpConditions {cs : List Condition} {vs : List Value}
    (h : cs.mapM Condition.dump = .ok vs) : ∀ v ∈ vs, v.isPlain := by
  induction cs generalizing vs with
  | nil =>
    obtain rfl := Except.ok.inj h
    exact List.forall_mem_nil _
  | cons c cs ih =>
    obtain ⟨v, ws, hv, hws, rfl⟩ := mapM_cons_eq_ok_iff.mp h
    exact List.forall_mem_cons.mpr ⟨Condition.isPlain_dump hv, ih hws⟩

theorem Common.isPlain_dump {c : Common} {kind : String} {fields : Fields}
    (h : c.dump kind = .ok fields) : (record fields).isPlain := by
  obtain ⟨conditions, hconditions, h⟩ := bind_eq_ok_iff.mp h
  obtain rfl := Except.ok.inj h
  have hlist : (list conditions).isPlain := isPlain_list.mpr (isPlain_dumpConditions hconditions)
  have hstyle : (record (entry "style" Style.dump c.style)).isPlain :=
    isPlain_record_entry Style.isPlain_dump c.style
  simp [hlist, hstyle]

theorem Component.isPlain_dumpWith {c : Component} {own : Fields} {v : Value}
    (h : c.dumpWith own = .ok v) (hown : (record own).isPlain) : v.isPlain := by
  obtain ⟨shared, hshared, h⟩ := bind_eq_ok_iff.mp h
  obtain rfl := Except.ok.inj h
  exact isPlain_record_append.mpr ⟨Common.isPlain_dump hshared, hown⟩

mutual

theorem Component.isPlain_dump : ∀ {c : Component} {v : Value}, c.dump = .ok v → v.isPlain
  | .heading .., _, h => Component.isPlain_dumpWith h rfl
  | .text .., _, h | .divider .., _, h | .spacer .., _, h => Component.isPlain_dumpWith h rfl
  | .list _ items, _, h => Component.isPlain_dumpWith h (by simp [isPlain_list_map ListItem.isPlain_dump])
  | .chips _ chips, _, h => Component.isPlain_dumpWith h (by simp [isPlain_list_map Chip.isPlain_dump])
  | .image .., _, h => Component.isPlain_dumpWith h (by simp)
  | .table _ _ columns _, _, h =>
    Component.isPlain_dumpWith h (by simp [isPlain_list_map Column.isPlain_dump])
  | .box _ children, _, h => by
    obtain ⟨inner, hinner, h⟩ := bind_eq_ok_iff.mp h
    have hlist : (list inner).isPlain := isPlain_list.mpr (isPlain_dumpComponents hinner)
    exact Component.isPlain_dumpWith h (by simp [hlist])
  | .unknown .., _, h => by
    obtain ⟨own, hown, h⟩ := bind_eq_ok_iff.mp h
    exact Component.isPlain_dumpWith h (isPlain_of_toPlainFields hown)

/-- Components are written as plain data. -/
theorem isPlain_dumpComponents : ∀ {cs : List Component} {vs : List Value},
    dumpComponents cs = .ok vs → ∀ v ∈ vs, v.isPlain
  | [], _, h => by
    obtain rfl := Except.ok.inj h
    exact List.forall_mem_nil _
  | c :: cs, _, h => by
    rw [dumpComponents] at h
    obtain ⟨v, hv, h⟩ := bind_eq_ok_iff.mp h
    obtain ⟨vs, hvs, h⟩ := bind_eq_ok_iff.mp h
    obtain rfl := Except.ok.inj h
    exact List.forall_mem_cons.mpr ⟨c.isPlain_dump hv, isPlain_dumpComponents hvs⟩

end

end DocTemplate
