import DocTemplate.Layout.Visible
import DocTemplate.Proofs.Number.Forms
import DocTemplate.Proofs.Value.Plain

/-!
# Equality without coercion

On data without undefined numbers, equality is an equivalence: numbers of any kind are equal if they are the
same number, lists and tuples are compared item by item, and records key by key. So a condition that asks for
equality is the exact complement of one that asks for difference, and either side may be the one that is given.
Main statement: `strictEquals_equivalence`.
-/

namespace DocTemplate

open DocTemplate.Number DocTemplate.Calendar

/-! ## Numbers -/

/-- What a number of any kind stands for. -/
inductive Quantity where
  | finite (x : ℚ)
  | infinite (negative : Bool)

/-- The value of a finite double. -/
def Number.BinaryParts.value (p : BinaryParts) : ℚ :=
  (if p.negative then -1 else 1) * p.mantissa * 2 ^ p.exponent

/-- What a double stands for, unless it is undefined. -/
def Quantity.ofFloat? (x : Float) : Option Quantity :=
  match parts? x with
  | some p => some (finite p.value)
  | none => if isNaN x then none else some (infinite (x < 0))

/-- What a decimal stands for, unless it is undefined. -/
def Quantity.ofDecimal? : Decimal → Option Quantity
  | .finite n => some (finite n.value)
  | .infinite negative => some (infinite negative)
  | .nan .. => none

/-- What a value stands for, if it is a whole number, a double or a decimal. -/
def Value.quantity? : Value → Option Quantity
  | int n => some (.finite n)
  | float x => Quantity.ofFloat? x
  | decimal d => Quantity.ofDecimal? d
  | _ => none

namespace Number

/-- What a number stands for, by the form in which it is compared. -/
def Comparable.quantity : Comparable → Quantity
  | .finite e => .finite e.value
  | .infinite negative => .infinite negative

/-- A form out of which all that can be taken has been taken. -/
def Comparable.IsReduced : Comparable → Prop
  | .finite e => e.IsReduced
  | .infinite _ => True

theorem Comparable.eq_iff_quantity_eq {a b : Comparable} (ha : a.IsReduced) (hb : b.IsReduced) :
    a = b ↔ a.quantity = b.quantity := by
  cases a with
  | finite d =>
    cases b with
    | finite e =>
      simp only [finite.injEq, quantity, Quantity.finite.injEq]
      exact ⟨congrArg Exact.value, ha.eq_of_value_eq hb⟩
    | infinite negative => simp [quantity]
  | infinite negative =>
    cases b with
    | finite e => simp [quantity]
    | infinite negative' => simp [quantity]

theorem Exact.value_ofInt (n : ℤ) : (ofInt n).value = n := by
  rw [ofInt, value_normal, zpow_zero, zpow_zero, mul_one, mul_one]
  by_cases h : n < 0
  · simp [h, Nat.cast_natAbs, abs_of_neg h]
  · simp [h, Nat.cast_natAbs, abs_of_nonneg (not_lt.mp h)]

theorem Exact.value_ofNumeral (n : Numeral) : (ofNumeral n).value = n.value := by
  rw [ofNumeral, value_normal, Numeral.value, Numeral.size, (by norm_num : (10 : ℚ) = 2 * 5), mul_zpow]
  split <;> ring

end Number

theorem Number.Comparable.ofFloat?_of_quantity {x : Float} {q : Quantity} (h : Quantity.ofFloat? x = some q) :
    ∃ c : Comparable, Comparable.ofFloat? x = some c ∧ c.quantity = q ∧ c.IsReduced := by
  unfold Quantity.ofFloat? at h
  unfold Comparable.ofFloat? Exact.ofFloat?
  cases hparts : parts? x with
  | some p =>
    rw [hparts] at h
    obtain rfl := Option.some.inj h
    refine ⟨_, rfl, ?_, (Exact.normal_spec ..).1⟩
    rw [quantity, Exact.value_normal, zpow_zero, mul_one, BinaryParts.value]
  | none =>
    rw [hparts] at h
    by_cases hnan : isNaN x
    · simp [hnan] at h
    · simp only [hnan, Bool.false_eq_true, if_false, Option.map_none] at h ⊢
      exact ⟨_, rfl, Option.some.inj h, trivial⟩

theorem Number.Comparable.ofDecimal?_of_quantity {d : Decimal} {q : Quantity}
    (h : Quantity.ofDecimal? d = some q) :
    ∃ c : Comparable, Comparable.ofDecimal? d = some c ∧ c.quantity = q ∧ c.IsReduced := by
  cases d with
  | finite n =>
    obtain rfl := Option.some.inj h
    exact ⟨_, rfl, by rw [quantity, Exact.value_ofNumeral], (Exact.normal_spec ..).1⟩
  | infinite negative =>
    obtain rfl := Option.some.inj h
    exact ⟨_, rfl, rfl, trivial⟩
  | nan _ _ _ => cases h

namespace Value

/-- A number is compared in the reduced form of what it stands for. -/
theorem comparable?_of_quantity? {v : Value} {q : Quantity} (h : v.quantity? = some q) :
    ∃ c : Comparable, v.comparable? = some (some c) ∧ c.quantity = q ∧ c.IsReduced := by
  cases v with
  | int n =>
    obtain rfl := Option.some.inj h
    exact ⟨.finite (.ofInt n), rfl, by rw [Comparable.quantity, Exact.value_ofInt], (Exact.normal_spec ..).1⟩
  | float x =>
    obtain ⟨c, hc, hquantity⟩ := Comparable.ofFloat?_of_quantity h
    exact ⟨c, congrArg some hc, hquantity⟩
  | decimal d =>
    obtain ⟨c, hc, hquantity⟩ := Comparable.ofDecimal?_of_quantity h
    exact ⟨c, congrArg some hc, hquantity⟩
  | _ => cases h

/-! ## One level of a comparison -/

/-- How two values can be equal as data: both are the same number, or both are of one kind and what they hold
is equal. -/
inductive Alike : Value → Value → Prop
  | null : Alike null null
  | text (s : String) : Alike (text s) (text s)
  | bytes (bs : List UInt8) : Alike (bytes bs) (bytes bs)
  | date (d : Date) : Alike (date d) (date d)
  | moment {m n : Moment} (h : sameMoment m n) : Alike (moment m) (moment n)
  | number {v w : Value} (c : Comparable) (hv : v.comparable? = some (some c))
      (hw : w.comparable? = some (some c)) : Alike v w
  | list {xs ys : List Value} (h : sameItems xs ys) : Alike (list xs) (list ys)
  | tuple {xs ys : List Value} (h : sameItems xs ys) : Alike (tuple xs) (tuple ys)
  | record {fs gs : Fields} (h : sameFields fs gs) : Alike (record fs) (record gs)

theorem sameNumber_iff {a b : Option Comparable} : sameNumber a b ↔ ∃ c, a = some c ∧ b = some c := by
  unfold sameNumber
  cases a with
  | none => simp
  | some c =>
    simp only [Option.isSome_some, Bool.true_and, beq_iff_eq, Option.some.injEq]
    exact ⟨fun h => ⟨c, rfl, h.symm⟩, fun ⟨_, hc, h⟩ => by rw [hc, h]⟩

theorem same_iff_alike {v w : Value} : v.same w ↔ v.Alike w := by
  constructor
  · intro h
    unfold same at h
    split at h
    · exact .null
    · exact beq_iff_eq.mp h ▸ .text _
    · exact beq_iff_eq.mp h ▸ .bytes _
    · exact beq_iff_eq.mp h ▸ .date _
    · exact .moment h
    · exact .list h
    · exact .tuple h
    · exact .record h
    · split at h
      · next a b ha hb =>
        obtain ⟨c, rfl, rfl⟩ := sameNumber_iff.mp h
        exact .number c ha hb
      · cases h
  · intro h
    cases h with
    | number c hv hw =>
      have hsame : sameNumber (some c) (some c) := sameNumber_iff.mpr ⟨c, rfl, rfl⟩
      unfold same
      split <;> first | cases hv | simp [hv, hw, hsame]
    | null => rfl
    | text s => simp [same]
    | bytes bs => simp [same]
    | date d => simp [same]
    | moment h => simpa [same] using h
    | list h => simpa [same] using h
    | tuple h => simpa [same] using h
    | record h => simpa [same] using h

/-! ## Items and fields -/

/-- A property of a value follows from the same property of the values directly inside it. -/
@[elab_as_elim]
theorem inductionOn {P : Value → Prop} (leaf : ∀ v, v.items? = none → v.fields? = none → P v)
    (list : ∀ items, (∀ v ∈ items, P v) → P (list items))
    (tuple : ∀ items, (∀ v ∈ items, P v) → P (tuple items))
    (record : ∀ fields, (∀ f ∈ fields, P f.2) → P (record fields)) : ∀ v, P v
  | .list items => list items fun v _ => inductionOn leaf list tuple record v
  | .tuple items => tuple items fun v _ => inductionOn leaf list tuple record v
  | .record fields => record fields fun f hf =>
    have hsize : sizeOf f.2 < sizeOf fields := by
      have hmem := List.sizeOf_lt_of_mem hf
      cases f
      simp only [Prod.mk.sizeOf_spec] at hmem ⊢
      omega
    inductionOn leaf list tuple record f.2
  | .null | .bool _ | .int _ | .float _ | .decimal _ | .text _ | .bytes _ | .date _ | .moment _ =>
    leaf _ rfl rfl

/-- The values of a record under a key, in order. -/
def under (key : String) (fields : Fields) : List Value := (fields.filter (·.1 == key)).map (·.2)

@[simp] theorem under_cons_self (key : String) (v : Value) (fields : Fields) :
    under key ((key, v) :: fields) = v :: under key fields := by simp [under]

theorem under_cons_of_ne {key name : String} (h : name ≠ key) (v : Value) (fields : Fields) :
    under key ((name, v) :: fields) = under key fields := by simp [under, h]

theorem under_eq_nil_of_lookup {key : String} {fields : Fields} (h : fields.lookup key = none) :
    under key fields = [] := by
  induction fields with
  | nil => rfl
  | cons f fields ih =>
    obtain ⟨name, v⟩ := f
    by_cases hname : name = key
    · simp [hname] at h
    · rw [under_cons_of_ne hname]
      apply ih
      simpa [List.lookup_cons, beq_false_of_ne (Ne.symm hname)] using h

theorem under_eq_cons_of_lookup {key : String} {fields : Fields} {v : Value} (h : fields.lookup key = some v) :
    under key fields = v :: under key (removeFirst key fields) := by
  induction fields with
  | nil => cases h
  | cons f fields ih =>
    obtain ⟨name, w⟩ := f
    by_cases hname : name = key
    · subst hname
      rw [List.lookup_cons_self] at h
      simp [removeFirst, Option.some.inj h]
    · rw [under_cons_of_ne hname, removeFirst, if_neg (by simpa using hname), under_cons_of_ne hname]
      apply ih
      simpa [List.lookup_cons, beq_false_of_ne (Ne.symm hname)] using h

theorem under_removeFirst_of_ne {key name : String} (h : name ≠ key) (fields : Fields) :
    under key (removeFirst name fields) = under key fields := by
  induction fields with
  | nil => rfl
  | cons f fields ih =>
    obtain ⟨other, v⟩ := f
    by_cases hother : other = name
    · subst hother
      simp [removeFirst, under_cons_of_ne h]
    · rw [removeFirst, if_neg (by simpa using hother)]
      by_cases hkey : other = key
      · subst hkey
        rw [under_cons_self, under_cons_self, ih]
      · rw [under_cons_of_ne hkey, under_cons_of_ne hkey, ih]

theorem exists_of_mem_under {key : String} {fields : Fields} {v : Value} (h : v ∈ under key fields) :
    ∃ f ∈ fields, f.2 = v := by
  obtain ⟨f, hf, rfl⟩ := List.mem_map.mp h
  exact ⟨f, (List.mem_filter.mp hf).1, rfl⟩

/-- Records are compared key by key, whatever the order of the keys. -/
theorem sameFields_iff {fs gs : Fields} :
    sameFields fs gs ↔ ∀ key, sameItems (under key fs) (under key gs) := by
  induction fs generalizing gs with
  | nil =>
    cases gs with
    | nil => simp [sameFields, under, sameItems]
    | cons g gs =>
      obtain ⟨name, w⟩ := g
      refine iff_of_false (by simp [sameFields]) fun h => ?_
      have hname := h name
      simp [under, sameItems] at hname
  | cons f fs ih =>
    obtain ⟨name, v⟩ := f
    cases hlookup : gs.lookup name with
    | none =>
      refine iff_of_false (by simp [sameFields, hlookup]) fun h => ?_
      have hname := h name
      simp [under_eq_nil_of_lookup hlookup, sameItems] at hname
    | some w =>
      have hunder := under_eq_cons_of_lookup hlookup
      rw [sameFields, hlookup]
      simp only [Bool.and_eq_true, ih]
      constructor
      · rintro ⟨hfirst, hrest⟩ key
        by_cases hkey : name = key
        · subst hkey
          simp [hunder, sameItems, hfirst, hrest name]
        · rw [under_cons_of_ne hkey, ← under_removeFirst_of_ne hkey gs]
          exact hrest key
      · intro h
        have hname := h name
        simp only [under_cons_self, hunder, sameItems, Bool.and_eq_true] at hname
        refine ⟨hname.1, fun key => ?_⟩
        by_cases hkey : name = key
        · exact hkey ▸ hname.2
        · rw [under_removeFirst_of_ne hkey, ← under_cons_of_ne hkey v]
          exact h key

/-! ## An equivalence -/

theorem sameItems_refl {xs : List Value} (h : ∀ v ∈ xs, v.same v) : sameItems xs xs := by
  induction xs with
  | nil => rfl
  | cons v vs ih => simp [sameItems, h v, ih fun w hw => h w (List.mem_cons_of_mem v hw)]

theorem sameItems_symm {xs ys : List Value} (h : ∀ v ∈ xs, ∀ w, v.same w → w.same v)
    (hsame : sameItems xs ys) : sameItems ys xs := by
  induction xs generalizing ys with
  | nil =>
    cases ys with
    | nil => rfl
    | cons w ws => cases hsame
  | cons v vs ih =>
    cases ys with
    | nil => cases hsame
    | cons w ws =>
      simp only [sameItems, Bool.and_eq_true] at hsame ⊢
      exact ⟨h v List.mem_cons_self w hsame.1, ih (fun u hu => h u (List.mem_cons_of_mem v hu)) hsame.2⟩

theorem sameItems_trans {xs ys zs : List Value} (h : ∀ u ∈ xs, ∀ v w, u.same v → v.same w → u.same w)
    (hleft : sameItems xs ys) (hright : sameItems ys zs) : sameItems xs zs := by
  induction xs generalizing ys zs with
  | nil =>
    cases ys with
    | nil => exact hright
    | cons v vs => cases hleft
  | cons u us ih =>
    cases ys with
    | nil => cases hleft
    | cons v vs =>
      cases zs with
      | nil => cases hright
      | cons w ws =>
        simp only [sameItems, Bool.and_eq_true] at hleft hright ⊢
        exact ⟨h u List.mem_cons_self v w hleft.1 hright.1,
          ih (fun t ht => h t (List.mem_cons_of_mem u ht)) hleft.2 hright.2⟩

theorem sameMoment_iff {m n : Moment} : sameMoment m n ↔
    m.instant? = n.instant? ∧ (m.instant? = none → m.localTime = n.localTime) := by
  unfold sameMoment
  cases m.instant? <;> cases n.instant? <;> simp

theorem same_symm {v w : Value} (h : v.same w) : w.same v := by
  induction v using inductionOn generalizing w with
  | leaf v hitems hfields =>
    cases same_iff_alike.mp h with
    | moment h =>
      obtain ⟨hinstant, hlocal⟩ := sameMoment_iff.mp h
      refine same_iff_alike.mpr (.moment (sameMoment_iff.mpr ⟨hinstant.symm, fun hnone => ?_⟩))
      exact (hlocal (hinstant.trans hnone)).symm
    | number c hv hw => exact same_iff_alike.mpr (.number c hw hv)
    | list _ | tuple _ => cases hitems
    | record _ => cases hfields
    | _ => exact h
  | list items ih =>
    cases same_iff_alike.mp h with
    | list h => exact same_iff_alike.mpr (.list (sameItems_symm (fun v hv _ => ih v hv) h))
    | number c hv _ => cases hv
  | tuple items ih =>
    cases same_iff_alike.mp h with
    | tuple h => exact same_iff_alike.mpr (.tuple (sameItems_symm (fun v hv _ => ih v hv) h))
    | number c hv _ => cases hv
  | record fields ih =>
    cases same_iff_alike.mp h with
    | record h =>
      refine same_iff_alike.mpr (.record (sameFields_iff.mpr fun key => ?_))
      refine sameItems_symm (fun v hv w => ?_) (sameFields_iff.mp h key)
      obtain ⟨f, hf, rfl⟩ := exists_of_mem_under hv
      exact ih f hf
    | number c hv _ => cases hv

theorem same_trans {u v w : Value} (hleft : u.same v) (hright : v.same w) : u.same w := by
  induction u using inductionOn generalizing v w with
  | leaf u hitems hfields =>
    cases same_iff_alike.mp hleft with
    | moment h =>
      cases same_iff_alike.mp hright with
      | moment h' =>
        obtain ⟨hinstant, hlocal⟩ := sameMoment_iff.mp h
        obtain ⟨hinstant', hlocal'⟩ := sameMoment_iff.mp h'
        refine same_iff_alike.mpr (.moment (sameMoment_iff.mpr ⟨hinstant.trans hinstant', fun hnone => ?_⟩))
        exact (hlocal hnone).trans (hlocal' (hinstant.symm.trans hnone))
      | number c hv _ => cases hv
    | number c hu hv =>
      cases same_iff_alike.mp hright with
      | number d hv' hw =>
        rw [hv] at hv'
        cases hv'
        exact same_iff_alike.mpr (.number c hu hw)
      | _ => cases hv
    | list _ | tuple _ => cases hitems
    | record _ => cases hfields
    | _ => exact hright
  | list items ih =>
    cases same_iff_alike.mp hleft with
    | list h =>
      cases same_iff_alike.mp hright with
      | list h' => exact same_iff_alike.mpr (.list (sameItems_trans (fun u hu _ _ => ih u hu) h h'))
      | number c hv _ => cases hv
    | number c hu _ => cases hu
  | tuple items ih =>
    cases same_iff_alike.mp hleft with
    | tuple h =>
      cases same_iff_alike.mp hright with
      | tuple h' => exact same_iff_alike.mpr (.tuple (sameItems_trans (fun u hu _ _ => ih u hu) h h'))
      | number c hv _ => cases hv
    | number c hu _ => cases hu
  | record fields ih =>
    cases same_iff_alike.mp hleft with
    | record h =>
      cases same_iff_alike.mp hright with
      | record h' =>
        refine same_iff_alike.mpr (.record (sameFields_iff.mpr fun key => ?_))
        refine sameItems_trans (fun u hu v w => ?_) (sameFields_iff.mp h key) (sameFields_iff.mp h' key)
        obtain ⟨f, hf, rfl⟩ := exists_of_mem_under hu
        exact ih f hf
      | number c hv _ => cases hv
    | number c hu _ => cases hu

/-- Whether a value is no undefined number. -/
def isDefiniteKind : Value → Bool
  | float x => !isNaN x
  | decimal (.nan ..) => false
  | _ => true

/-- Whether no number in a value is undefined. -/
def isDefinite (v : Value) : Bool := v.throughout isDefiniteKind

/-- A leaf that is no undefined number is equal to itself. -/
theorem same_refl_leaf {v : Value} (hitems : v.items? = none) (hfields : v.fields? = none)
    (h : v.isDefiniteKind) : v.same v := by
  cases v with
  | null => rfl
  | text s => exact same_iff_alike.mpr (.text s)
  | bytes bs => exact same_iff_alike.mpr (.bytes bs)
  | date d => exact same_iff_alike.mpr (.date d)
  | moment m => exact same_iff_alike.mpr (.moment (sameMoment_iff.mpr ⟨rfl, fun _ => rfl⟩))
  | bool b => exact same_iff_alike.mpr (.number _ rfl rfl)
  | int n => exact same_iff_alike.mpr (.number _ rfl rfl)
  | float x =>
    have hdefined : ∃ c, Comparable.ofFloat? x = some c := by
      have hnan : isNaN x = false := by simpa [isDefiniteKind] using h
      unfold Comparable.ofFloat?
      cases Exact.ofFloat? x with
      | some e => exact ⟨_, rfl⟩
      | none => exact ⟨_, by rw [hnan]; rfl⟩
    obtain ⟨c, hc⟩ := hdefined
    exact same_iff_alike.mpr (.number c (congrArg some hc) (congrArg some hc))
  | decimal d =>
    cases d with
    | finite n => exact same_iff_alike.mpr (.number _ rfl rfl)
    | infinite negative => exact same_iff_alike.mpr (.number _ rfl rfl)
    | nan _ _ _ => cases h
  | list _ | tuple _ => cases hitems
  | record _ => cases hfields

theorem same_refl {v : Value} (h : v.isDefinite) : v.same v := by
  induction v using inductionOn with
  | leaf v hitems hfields => exact same_refl_leaf hitems hfields (throughout_kind h)
  | list items ih =>
    exact same_iff_alike.mpr (.list (sameItems_refl fun v hv => ih v hv ((throughout_list.mp h).2 v hv)))
  | tuple items ih =>
    exact same_iff_alike.mpr (.tuple (sameItems_refl fun v hv => ih v hv ((throughout_tuple.mp h).2 v hv)))
  | record fields ih =>
    refine same_iff_alike.mpr (.record (sameFields_iff.mpr fun key => sameItems_refl fun v hv => ?_))
    obtain ⟨f, hf, rfl⟩ := exists_of_mem_under hv
    exact ih f hf ((throughout_record.mp h).2 f hf)

/-! ## Without coercion -/

def isFlag : Value → Bool
  | bool _ => true
  | _ => false

/-- Values are equal without coercion if they are equal as data and both or neither are booleans. -/
theorem strictEquals_eq (v w : Value) : v.strictEquals w = (v.isFlag == w.isFlag && v.same w) := by
  cases v with
  | bool a =>
    cases w with
    | bool b => cases a <;> cases b <;> decide
    | _ => rfl
  | _ => cases w <;> simp [strictEquals, isFlag]

theorem strictEquals_iff {v w : Value} : v.strictEquals w ↔ v.isFlag = w.isFlag ∧ v.same w := by
  rw [strictEquals_eq, Bool.and_eq_true, beq_iff_eq]

theorem strictEquals_comm (v w : Value) : v.strictEquals w = w.strictEquals v := by
  rw [Bool.eq_iff_iff, strictEquals_iff, strictEquals_iff]
  exact ⟨fun ⟨hflag, hsame⟩ => ⟨hflag.symm, same_symm hsame⟩, fun ⟨hflag, hsame⟩ => ⟨hflag.symm, same_symm hsame⟩⟩

theorem isFlag_of_quantity? {v : Value} {q : Quantity} (h : v.quantity? = some q) : v.isFlag = false := by
  cases v with
  | bool b => cases h
  | _ => rfl

/-- Numbers of any kinds are equal if they are the same number. -/
theorem strictEquals_iff_quantity_eq {v w : Value} {a b : Quantity} (ha : v.quantity? = some a)
    (hb : w.quantity? = some b) : v.strictEquals w ↔ a = b := by
  obtain ⟨c, hc, rfl, hreduced⟩ := comparable?_of_quantity? ha
  obtain ⟨d, hd, rfl, hreduced'⟩ := comparable?_of_quantity? hb
  rw [← Comparable.eq_iff_quantity_eq hreduced hreduced', strictEquals_iff, isFlag_of_quantity? ha,
    isFlag_of_quantity? hb, and_iff_right rfl, same_iff_alike]
  constructor
  · intro h
    cases h with
    | number e hv hw =>
      rw [hc] at hv
      rw [hd] at hw
      cases hv
      cases hw
      rfl
    | _ => cases hc
  · rintro rfl
    exact .number c hc hd

end Value

open Value

/-! ## Conditions -/

theorem Operator.accepts_notEquals (found given : Value) :
    notEquals.accepts found given = !equals.accepts found given := rfl

/-- Either side of a comparison may be the one that is given. -/
theorem Operator.accepts_comm {op : Operator} (h : op ≠ .exists) (found given : Value) :
    op.accepts found given = op.accepts given found := by
  cases op with
  | «exists» => exact absurd rfl h
  | equals => exact strictEquals_comm found given
  | notEquals => rw [accepts_notEquals, accepts_notEquals, accepts, strictEquals_comm, ← accepts]

/-- Equality without coercion is an equivalence on the values without undefined numbers, and numbers of any
kinds are equal if they are the same number. So of two conditions that ask a field for equality and for
difference exactly one holds, if the field can be read at all, and it makes no difference which of two values
is found and which is given. -/
theorem strictEquals_equivalence :
    Equivalence (fun v w : {v : Value // v.isDefinite} => v.val.strictEquals w.val = true) ∧
    (∀ (v w : Value) (a b : Quantity), v.quantity? = some a → w.quantity? = some b →
      (v.strictEquals w ↔ a = b)) ∧
    (∀ (context : Value) (field : String) (given : Value),
      Condition.holds context ⟨field, .notEquals, given⟩ =
        (Condition.holds context ⟨field, .equals, given⟩).map not) ∧
    ∀ (op : Operator) (context other : Value) (field otherField : String) (v w : Value), op ≠ .exists →
      resolve context (some field) = .ok v → resolve other (some otherField) = .ok w →
      Condition.holds context ⟨field, op, w⟩ = Condition.holds other ⟨otherField, op, v⟩ := by
  refine ⟨⟨?_, ?_, ?_⟩, fun v w a b => strictEquals_iff_quantity_eq, ?_, ?_⟩
  · exact fun v => strictEquals_iff.mpr ⟨rfl, same_refl v.property⟩
  · intro v w h
    rwa [strictEquals_comm]
  · intro u v w hleft hright
    obtain ⟨hflag, hsame⟩ := strictEquals_iff.mp hleft
    obtain ⟨hflag', hsame'⟩ := strictEquals_iff.mp hright
    exact strictEquals_iff.mpr ⟨hflag.trans hflag', same_trans hsame hsame'⟩
  · intro context field given
    unfold Condition.holds
    cases resolve context (some field) with
    | error e => rfl
    | ok found => rfl
  · intro op context other field otherField v w hop hv hw
    unfold Condition.holds
    rw [hv, hw]
    exact congrArg Except.ok (op.accepts_comm hop v w)

/-- Two nights as a whole number, a double and a decimal, in records of different order. -/
theorem two_nights_are_two_nights :
    let whole : Value := .record [("nights", .list [.int 2]), ("until", .null)]
    let double : Value := .record [("until", .null), ("nights", .list [.float 2.0])]
    let decimal : Value := .record [("nights", .list [.decimal (.finite ⟨false, 200, -2⟩)]), ("until", .null)]
    whole.isDefinite ∧ double.isDefinite ∧ decimal.isDefinite ∧
      whole.strictEquals double ∧ double.strictEquals decimal ∧ whole.strictEquals decimal := by
  intro whole double decimal
  have hdefinite : whole.isDefinite ∧ double.isDefinite ∧ decimal.isDefinite := by decide +kernel
  have hfirst : whole.strictEquals double := by decide +kernel
  have hsecond : double.strictEquals decimal := by decide +kernel
  obtain ⟨hw, hd, hc⟩ := hdefinite
  exact ⟨hw, hd, hc, hfirst, hsecond,
    strictEquals_equivalence.1.trans (x := ⟨whole, hw⟩) (y := ⟨double, hd⟩) (z := ⟨decimal, hc⟩) hfirst hsecond⟩

end DocTemplate
