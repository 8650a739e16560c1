import Mathlib.Data.Option.Basic
import DocTemplate.Proofs.Value.Equality

/-!
# Equality, place by place

Values that are equal without coercion have the same places, and at each place a list faces a list, a tuple a
tuple, a record a record. The check for booleans is made at the top only: inside lists, tuples and records a
boolean may also face the number that it counts as. Main statement: `strictEquals_place_by_place`.
-/

namespace DocTemplate.Value

open DocTemplate.Number

variable {v w : Value}

/-! ## Places -/

/-- A place directly inside a value. -/
inductive Place where
  | item (index : ℕ)
  | field (key : String)

/-- The value at a place directly inside a value. -/
def inside? : Value → Place → Option Value
  | list items, .item i => items[i]?
  | tuple items, .item i => items[i]?
  | record fields, .field key => Fields.get? fields key
  | _, _ => none

/-- The value to which a way of places leads. -/
def at? : Value → List Place → Option Value
  | v, [] => some v
  | v, place :: way => (v.inside? place).bind (at? · way)

/-- What a value is made of. -/
inductive Form where
  | leaf
  | list
  | tuple
  | record
deriving DecidableEq

def form : Value → Form
  | list _ => .list
  | tuple _ => .tuple
  | record _ => .record
  | _ => .leaf

theorem inside?_leaf (h : v.form = .leaf) (place : Place) : v.inside? place = none := by
  cases v with
  | list _ | tuple _ | record _ => cases h
  | _ => rfl

theorem form_of_comparable? {a : Option Comparable} (h : v.comparable? = some a) : v.form = .leaf := by
  cases v with
  | list _ | tuple _ | record _ => cases h
  | _ => rfl

theorem form_eq_of_same (h : v.same w) : v.form = w.form := by
  cases same_iff_alike.mp h with
  | number c hv hw => rw [form_of_comparable? hv, form_of_comparable? hw]
  | _ => rfl

theorem sameItems_getElem? {xs ys : List Value} (h : sameItems xs ys) (i : ℕ) :
    Option.Rel (fun x y => x.same y) xs[i]? ys[i]? := by
  induction xs generalizing ys i with
  | nil =>
    cases ys with
    | nil => exact .none
    | cons y ys => cases h
  | cons x xs ih =>
    cases ys with
    | nil => cases h
    | cons y ys =>
      rw [sameItems, Bool.and_eq_true] at h
      cases i with
      | zero => exact .some h.1
      | succ i => exact ih h.2 i

theorem get?_eq_under (fields : Fields) (key : String) : Fields.get? fields key = (under key fields)[0]? := by
  unfold Fields.get?
  cases h : fields.lookup key with
  | none => rw [under_eq_nil_of_lookup h, List.getElem?_nil]
  | some v => rw [under_eq_cons_of_lookup h, List.getElem?_cons_zero]

/-- Equal values have the same places, and what stands there is equal. -/
theorem same_inside (h : v.same w) (place : Place) :
    Option.Rel (fun x y => x.same y) (v.inside? place) (w.inside? place) := by
  cases same_iff_alike.mp h with
  | list h | tuple h =>
    cases place with
    | item i => exact sameItems_getElem? h i
    | field key => exact .none
  | record h =>
    cases place with
    | item i => exact .none
    | field key =>
      rw [inside?, inside?, get?_eq_under, get?_eq_under]
      exact sameItems_getElem? (sameFields_iff.mp h key) 0
  | number c hv hw =>
    rw [inside?_leaf (form_of_comparable? hv), inside?_leaf (form_of_comparable? hw)]
    exact .none
  | _ => exact .none

theorem same_at (h : v.same w) (way : List Place) :
    Option.Rel (fun x y => x.same y) (v.at? way) (w.at? way) := by
  induction way generalizing v w with
  | nil => exact .some h
  | cons place way ih =>
    have hplace := same_inside h place
    rw [at?, at?]
    generalize v.inside? place = a, w.inside? place = b at hplace ⊢
    cases hplace with
    | none => exact .none
    | some hxy => exact ih hxy

/-! ## Booleans -/

/-- The number that a boolean counts as. -/
def ofFlag (b : Bool) : ℤ := if b then 1 else 0

theorem comparable?_bool (b : Bool) : (bool b).comparable? = some (some (.finite (.ofInt (ofFlag b)))) := rfl

theorem ofFlag_injective : Function.Injective ofFlag := by decide

/-- What is compared as a number is a boolean or stands for a number. -/
theorem quantity?_of_comparable? {c : Comparable} (h : v.comparable? = some (some c)) :
    (∃ b, v = bool b) ∨ v.quantity? = some c.quantity := by
  have hquantity : ∀ q, v.quantity? = some q → v.quantity? = some c.quantity := fun q hq => by
    -- The form in which a number is compared is unique, so it is enough that the value stands for some number.
    obtain ⟨d, hd, rfl, -⟩ := comparable?_of_quantity? hq
    cases h.symm.trans hd
    exact hq
  cases v with
  | bool b => exact .inl ⟨b, rfl⟩
  | int n => exact .inr (hquantity _ rfl)
  | float x =>
    right
    have hcomparable : Comparable.ofFloat? x = some c := Option.some.inj h
    cases hparts : parts? x with
    | some p => exact hquantity (.finite p.value) (by rw [quantity?, Quantity.ofFloat?, hparts])
    | none =>
      by_cases hnan : isNaN x
      · rw [Comparable.ofFloat?, Exact.ofFloat?, hparts, hnan] at hcomparable
        cases hcomparable
      · exact hquantity (.infinite (x < 0)) (by rw [quantity?, Quantity.ofFloat?, hparts]; simp [hnan])
  | decimal d =>
    cases d with
    | finite n => exact .inr (hquantity _ rfl)
    | infinite negative => exact .inr (hquantity _ rfl)
    | nan _ _ _ => cases h
  | _ => cases h

/-- A boolean is equal to itself and to the number that it counts as. -/
theorem same_bool {b : Bool} (h : (bool b).same w) :
    w = bool b ∨ w.quantity? = some (.finite (ofFlag b)) := by
  cases same_iff_alike.mp h with
  | number c hv hw =>
    cases (comparable?_bool b).symm.trans hv
    rcases quantity?_of_comparable? hw with ⟨b', rfl⟩ | hquantity
    · left
      have hexact : Exact.ofInt (ofFlag b') = Exact.ofInt (ofFlag b) := by
        simpa [comparable?_bool] using hw
      have hvalue : (ofFlag b' : ℚ) = ofFlag b := by
        rw [← Exact.value_ofInt, ← Exact.value_ofInt, hexact]
      rw [ofFlag_injective (Int.cast_injective hvalue)]
    · right
      rw [hquantity, Comparable.quantity, Exact.value_ofInt]

/-! ## Booleans as numbers -/

mutual

/-- A value with every boolean in it replaced by the number that it counts as. -/
def counted : Value → Value
  | bool b => int (ofFlag b)
  | list items => list (countedItems items)
  | tuple items => tuple (countedItems items)
  | record fields => record (countedFields fields)
  | v => v

def countedItems : List Value → List Value
  | [] => []
  | v :: vs => v.counted :: countedItems vs

def countedFields : List (String × Value) → List (String × Value)
  | [] => []
  | (key, v) :: fields => (key, v.counted) :: countedFields fields

end

theorem comparable?_counted (v : Value) : v.counted.comparable? = v.comparable? := by
  cases v <;> rfl

theorem countedItems_eq (items : List Value) : countedItems items = items.map counted := by
  induction items with
  | nil => rfl
  | cons v vs ih => rw [countedItems, ih, List.map_cons]

theorem under_countedFields (key : String) (fields : Fields) :
    under key (countedFields fields) = (under key fields).map counted := by
  induction fields with
  | nil => rfl
  | cons f fields ih =>
    obtain ⟨name, v⟩ := f
    rw [countedFields]
    by_cases hname : name = key
    · subst hname
      rw [under_cons_self, under_cons_self, List.map_cons, ih]
    · rw [under_cons_of_ne hname, under_cons_of_ne hname, ih]

theorem same_number_iff {a : Option Comparable} (h : v.comparable? = some a) :
    v.same w ↔ ∃ c, v.comparable? = some (some c) ∧ w.comparable? = some (some c) := by
  rw [same_iff_alike]
  constructor
  · intro hsame
    cases hsame with
    | number c hv hw => exact ⟨c, hv, hw⟩
    | _ => cases h
  · rintro ⟨c, hv, hw⟩
    exact .number c hv hw

theorem not_same_number {a : Option Comparable} (hv : v.comparable? = none) (hw : w.comparable? = some a) :
    ¬v.same w := by
  intro h
  obtain ⟨c, -, hc⟩ := (same_number_iff hw).mp (same_symm h)
  cases hv.symm.trans hc

theorem form_counted (v : Value) : v.counted.form = v.form := by
  cases v <;> rfl

theorem same_counted_of_form_ne (h : v.form ≠ w.form) : v.counted.same w.counted ↔ v.same w := by
  refine iff_of_false (fun hsame => h ?_) fun hsame => h (form_eq_of_same hsame)
  rw [← form_counted v, ← form_counted w, form_eq_of_same hsame]

theorem same_counted_leaf (hv : v.form = .leaf) (hw : w.form = .leaf) :
    v.counted.same w.counted ↔ v.same w := by
  cases h : v.comparable? with
  | some a =>
    rw [same_number_iff h, same_number_iff ((comparable?_counted v).trans h), comparable?_counted,
      comparable?_counted]
  | none =>
    have hcounted : v.counted = v := by
      cases v with
      | bool b => cases h
      | list _ | tuple _ | record _ => cases hv
      | _ => rfl
    rw [hcounted]
    cases w with
    | bool b => exact iff_of_false (not_same_number h (comparable?_counted (bool b))) (not_same_number h rfl)
    | list _ | tuple _ | record _ => cases hw
    | _ => rfl

theorem sameItems_counted {xs ys : List Value} (h : ∀ v ∈ xs, ∀ w, v.counted.same w.counted ↔ v.same w) :
    sameItems (xs.map counted) (ys.map counted) ↔ sameItems xs ys := by
  induction xs generalizing ys with
  | nil => cases ys <;> rfl
  | cons x xs ih =>
    cases ys with
    | nil => rfl
    | cons y ys =>
      rw [List.map_cons, List.map_cons, sameItems, sameItems, Bool.and_eq_true, Bool.and_eq_true,
        h x List.mem_cons_self y, ih fun v hv => h v (List.mem_cons_of_mem x hv)]

/-- Equality of data does not tell a boolean from the number that it counts as. -/
theorem same_counted (v w : Value) : v.counted.same w.counted ↔ v.same w := by
  induction v using inductionOn generalizing w with
  | leaf v hitems hfields =>
    have hform : v.form = .leaf := by
      cases v with
      | list _ | tuple _ => cases hitems
      | record _ => cases hfields
      | _ => rfl
    by_cases hw : w.form = .leaf
    · exact same_counted_leaf hform hw
    · exact same_counted_of_form_ne (hform ▸ Ne.symm hw)
  | list items ih =>
    cases w with
    | list others =>
      rw [counted, counted, same, same, countedItems_eq, countedItems_eq]
      exact sameItems_counted ih
    | _ => exact same_counted_of_form_ne (by simp [form])
  | tuple items ih =>
    cases w with
    | tuple others =>
      rw [counted, counted, same, same, countedItems_eq, countedItems_eq]
      exact sameItems_counted ih
    | _ => exact same_counted_of_form_ne (by simp [form])
  | record fields ih =>
    cases w with
    | record others =>
      rw [counted, counted, same, same, sameFields_iff, sameFields_iff]
      refine forall_congr' fun key => ?_
      rw [under_countedFields, under_countedFields]
      refine sameItems_counted fun v hv => ?_
      obtain ⟨f, hf, rfl⟩ := exists_of_mem_under hv
      exact ih f hf
    | _ => exact same_counted_of_form_ne (by simp [form])

/-! ## Without coercion -/

/-- What faces each other at the end of a way into equal values: they are of one form, and a boolean faces
itself or, below the top, the number that it counts as. -/
structure Faces (way : List Place) (x y : Value) : Prop where
  form : x.form = y.form
  left : ∀ b, x = bool b → y = bool b ∨ way ≠ [] ∧ y.quantity? = some (.finite (ofFlag b))
  right : ∀ b, y = bool b → x = bool b ∨ way ≠ [] ∧ x.quantity? = some (.finite (ofFlag b))

theorem faces_of_same {way : List Place} (h : v.same w) (hway : way ≠ []) : Faces way v w where
  form := form_eq_of_same h
  left := by
    rintro b rfl
    exact (same_bool h).imp_right fun hquantity => ⟨hway, hquantity⟩
  right := by
    rintro b rfl
    exact (same_bool (same_symm h)).imp_right fun hquantity => ⟨hway, hquantity⟩

theorem eq_bool_of_same {b : Bool} (hflag : w.isFlag) (h : (bool b).same w) : w = bool b := by
  rcases same_bool h with rfl | hquantity
  · rfl
  · cases (isFlag_of_quantity? hquantity).symm.trans hflag

theorem faces_of_strictEquals (h : v.strictEquals w) : Faces [] v w := by
  obtain ⟨hflag, hsame⟩ := strictEquals_iff.mp h
  refine ⟨form_eq_of_same hsame, ?_, ?_⟩
  · rintro b rfl
    exact .inl (eq_bool_of_same hflag.symm hsame)
  · rintro b rfl
    exact .inl (eq_bool_of_same hflag (same_symm hsame))

/-- Values that are equal without coercion have the same places, and what faces each other is of one form. At
the top a boolean faces the same boolean; further down it may also face the number that it counts as, and
nothing more tells equality without coercion from equality of data without booleans. -/
theorem strictEquals_place_by_place (v w : Value) :
    (v.strictEquals w ↔ v.isFlag = w.isFlag ∧ v.counted.same w.counted) ∧
    (v.strictEquals w → ∀ way, Option.Rel (Faces way) (v.at? way) (w.at? way)) := by
  refine ⟨by rw [strictEquals_iff, same_counted], fun h way => ?_⟩
  -- Only the values at the empty way have been checked for booleans; all others are compared as data.
  by_cases hway : way = []
  · rw [hway]
    exact .some (faces_of_strictEquals h)
  · have hsame := same_at (strictEquals_iff.mp h).2 way
    generalize v.at? way = a, w.at? way = b at hsame ⊢
    cases hsame with
    | none => exact .none
    | some hxy => exact .some (faces_of_same hxy hway)

/-- A paid order whose first line is marked. -/
def markedOrder : Value := record [("paid", bool true), ("lines", list [bool true, text "1"])]

/-- A paid order whose first line is a number. -/
def numberedOrder : Value := record [("lines", list [float 1.0, text "1"]), ("paid", bool true)]

theorem strictEquals_place_by_place_orders : markedOrder.strictEquals numberedOrder ∧
    Option.Rel (Faces [.field "paid"]) (some (bool true)) (some (bool true)) ∧
    Option.Rel (Faces [.field "lines", .item 0]) (some (bool true)) (some (float 1.0)) ∧
    Option.Rel (Faces [.field "lines", .item 2]) none none := by
  have hequal : markedOrder.strictEquals numberedOrder := by decide +kernel
  have hfaces := (strictEquals_place_by_place markedOrder numberedOrder).2 hequal
  exact ⟨hequal, hfaces [.field "paid"], hfaces [.field "lines", .item 0], hfaces [.field "lines", .item 2]⟩

/-- In lists a boolean and a number face each other that equality without coercion tells apart. -/
theorem flag_faces_number : (bool true).strictEquals (int 1) = false ∧
    (list [bool true]).strictEquals (list [int 1]) = true ∧
    ¬∀ (v w : Value) (way : List Place) (b : Bool), v.strictEquals w → v.at? way = some (bool b) →
      w.at? way = some (bool b) := by
  have hequal : (list [bool true]).strictEquals (list [int 1]) = true := by decide +kernel
  refine ⟨rfl, hequal, fun h => ?_⟩
  cases h (list [bool true]) (list [int 1]) [.item 0] true hequal rfl

end DocTemplate.Value
