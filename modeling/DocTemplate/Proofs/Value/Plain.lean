import DocTemplate.Layout.Dump
import DocTemplate.Proofs.Action

/-!
# Plain data

What JSON can hold, and what of it is written as it is. A double without a finite value is the one piece
of JSON data that does not stay what it is.
-/

namespace DocTemplate.Value

open DocTemplate.Number

mutual

/-- Whether a value and all values inside it have a property. -/
def throughout (p : Value → Bool) : Value → Bool
  | list items => p (list items) && throughoutItems p items
  | tuple items => p (tuple items) && throughoutItems p items
  | record fields => p (record fields) && throughoutFields p fields
  | v => p v

/-- Whether items and all values inside them have a property. -/
def throughoutItems (p : Value → Bool) : List Value → Bool
  | [] => true
  | v :: vs => throughout p v && throughoutItems p vs

/-- Whether the values of fields and all values inside them have a property. -/
def throughoutFields (p : Value → Bool) : List (String × Value) → Bool
  | [] => true
  | (_, v) :: fields => throughout p v && throughoutFields p fields

end

/-- Whether a value is of a kind that JSON has. -/
def isJsonKind : Value → Bool
  | null | bool _ | int _ | float _ | text _ | list _ | record _ => true
  | decimal _ | bytes _ | date _ | moment _ | tuple _ => false

/-- Whether a value is no double without a finite value. -/
def isFiniteKind : Value → Bool
  | float x => isFinite x
  | _ => true

/-- Whether a value is built of null, booleans, numbers, texts, lists and records. -/
def isPlain (v : Value) : Bool := v.throughout isJsonKind

/-- Whether every double in a value is a finite number. -/
def isFiniteData (v : Value) : Bool := v.throughout isFiniteKind

variable {p : Value → Bool}

theorem throughoutItems_iff {items : List Value} :
    throughoutItems p items ↔ ∀ v ∈ items, v.throughout p := by
  induction items with
  | nil => simp [throughoutItems]
  | cons v vs ih => simp [throughoutItems, ih]

theorem throughoutFields_iff {fields : Fields} :
    throughoutFields p fields ↔ ∀ f ∈ fields, f.2.throughout p := by
  induction fields with
  | nil => simp [throughoutFields]
  | cons f fields ih => simp [throughoutFields, ih]

theorem throughout_list {items : List Value} :
    (list items).throughout p ↔ p (list items) ∧ ∀ v ∈ items, v.throughout p := by
  rw [throughout, Bool.and_eq_true, throughoutItems_iff]

theorem throughout_tuple {items : List Value} :
    (tuple items).throughout p ↔ p (tuple items) ∧ ∀ v ∈ items, v.throughout p := by
  rw [throughout, Bool.and_eq_true, throughoutItems_iff]

theorem throughout_record {fields : Fields} :
    (record fields).throughout p ↔ p (record fields) ∧ ∀ f ∈ fields, f.2.throughout p := by
  rw [throughout, Bool.and_eq_true, throughoutFields_iff]

theorem throughout_kind {v : Value} (h : v.throughout p) : p v := by
  cases v <;> simp_all [throughout]

theorem isPlain_list {items : List Value} : (list items).isPlain ↔ ∀ v ∈ items, v.isPlain :=
  throughout_list.trans (and_iff_right rfl)

theorem isPlain_record {fields : Fields} : (record fields).isPlain ↔ ∀ f ∈ fields, f.2.isPlain :=
  throughout_record.trans (and_iff_right rfl)

theorem isPlain_of_lookup {fields : Fields} (h : (record fields).isPlain) {key : String} {v : Value}
    (hv : fields.lookup key = some v) : v.isPlain := by
  obtain ⟨before, after, rfl, -⟩ := List.lookup_eq_some_iff.mp hv
  exact isPlain_record.mp h (key, v) (by simp)

theorem isPlain_of_items? {v : Value} (h : v.isPlain) {items : List Value}
    (hitems : v.items? = some items) : ∀ w ∈ items, w.isPlain := by
  cases v with
  | list vs =>
    obtain rfl := Option.some.inj hitems
    exact isPlain_list.mp h
  | tuple vs => cases h
  | _ => cases hitems

/-! ## Written as it is -/

mutual

/-- Plain data without infinities are written as they are. -/
theorem toPlain_eq_self : ∀ {v : Value}, v.isPlain → v.isFiniteData → v.toPlain = .ok v
  | .null, _, _ | .bool _, _, _ | .int _, _, _ | .text _, _, _ => rfl
  | .float x, _, hfinite => by
    have hx : isFinite x := hfinite
    rw [toPlain, if_pos hx]
  | .list items, hplain, hfinite => by
    rw [toPlain, toPlainItems_eq_self (isPlain_list.mp hplain) (throughout_list.mp hfinite).2]
    rfl
  | .record fields, hplain, hfinite => by
    rw [toPlain, toPlainFields_eq_self (isPlain_record.mp hplain) (throughout_record.mp hfinite).2]
    rfl
  | .decimal _, hplain, _ | .bytes _, hplain, _ | .date _, hplain, _ | .moment _, hplain, _ => by
    cases hplain
  | .tuple _, hplain, _ => by cases hplain

theorem toPlainItems_eq_self : ∀ {items : List Value}, (∀ v ∈ items, v.isPlain) →
    (∀ v ∈ items, v.isFiniteData) → toPlainItems items = .ok items
  | [], _, _ => rfl
  | v :: vs, hplain, hfinite => by
    rw [toPlainItems, toPlain_eq_self (hplain v List.mem_cons_self) (hfinite v List.mem_cons_self),
      toPlainItems_eq_self (fun w hw => hplain w (List.mem_cons_of_mem v hw))
        (fun w hw => hfinite w (List.mem_cons_of_mem v hw))]
    rfl

theorem toPlainFields_eq_self : ∀ {fields : List (String × Value)}, (∀ f ∈ fields, f.2.isPlain) →
    (∀ f ∈ fields, f.2.isFiniteData) → toPlainFields fields = .ok fields
  | [], _, _ => rfl
  | (key, v) :: fields, hplain, hfinite => by
    rw [toPlainFields,
      toPlain_eq_self (hplain (key, v) List.mem_cons_self) (hfinite (key, v) List.mem_cons_self),
      toPlainFields_eq_self (fun f hf => hplain f (List.mem_cons_of_mem _ hf))
        (fun f hf => hfinite f (List.mem_cons_of_mem _ hf))]
    rfl

end

mutual

/-- Plain data have a plain form, infinities among them or not. -/
theorem exists_toPlain : ∀ {v : Value}, v.isPlain → ∃ w, v.toPlain = .ok w
  | .null, _ | .bool _, _ | .int _, _ | .float _, _ | .text _, _ => ⟨_, rfl⟩
  | .list items, hplain => by
    obtain ⟨ws, hws⟩ := exists_toPlainItems (isPlain_list.mp hplain)
    exact ⟨.list ws, by rw [toPlain, hws]; rfl⟩
  | .record fields, hplain => by
    obtain ⟨own, hown⟩ := exists_toPlainFields (isPlain_record.mp hplain)
    exact ⟨.record own, by rw [toPlain, hown]; rfl⟩
  | .decimal _, hplain | .bytes _, hplain | .date _, hplain | .moment _, hplain | .tuple _, hplain => by
    cases hplain

theorem exists_toPlainItems : ∀ {items : List Value}, (∀ v ∈ items, v.isPlain) →
    ∃ ws, toPlainItems items = .ok ws
  | [], _ => ⟨[], rfl⟩
  | v :: vs, hplain => by
    obtain ⟨w, hw⟩ := exists_toPlain (hplain v List.mem_cons_self)
    obtain ⟨ws, hws⟩ := exists_toPlainItems fun w hw => hplain w (List.mem_cons_of_mem v hw)
    exact ⟨w :: ws, by rw [toPlainItems, hw, hws]; rfl⟩

theorem exists_toPlainFields : ∀ {fields : List (String × Value)}, (∀ f ∈ fields, f.2.isPlain) →
    ∃ own, toPlainFields fields = .ok own
  | [], _ => ⟨[], rfl⟩
  | (key, v) :: fields, hplain => by
    obtain ⟨w, hw⟩ := exists_toPlain (hplain (key, v) List.mem_cons_self)
    obtain ⟨own, hown⟩ := exists_toPlainFields fun f hf => hplain f (List.mem_cons_of_mem _ hf)
    exact ⟨(key, w) :: own, by rw [toPlainFields, hw, hown]; rfl⟩

end

/-- The plain forms of fields stand under the keys of the fields. -/
theorem exists_mem_of_toPlainFields {fields own : List (String × Value)} (h : toPlainFields fields = .ok own)
    {f : String × Value} (hf : f ∈ own) : ∃ g ∈ fields, g.1 = f.1 := by
  induction fields generalizing own with
  | nil =>
    obtain rfl := Except.ok.inj h
    cases hf
  | cons g fields ih =>
    obtain ⟨key, v⟩ := g
    rw [toPlainFields] at h
    obtain ⟨w, -, h⟩ := bind_eq_ok_iff.mp h
    obtain ⟨rest, hrest, h⟩ := bind_eq_ok_iff.mp h
    obtain rfl := Except.ok.inj h
    rcases List.mem_cons.mp hf with rfl | hf
    · exact ⟨_, List.mem_cons_self, rfl⟩
    · obtain ⟨g, hg, hkey⟩ := ih hrest hf
      exact ⟨g, List.mem_cons_of_mem _ hg, hkey⟩

end DocTemplate.Value
