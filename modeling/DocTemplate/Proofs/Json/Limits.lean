import DocTemplate.Json.Reader
import DocTemplate.Proofs.Action

/-!
# Where JSON text goes beyond the limits

Reading JSON text always comes to an end: a value, a fault, or one of two limits that the text itself must go
beyond, a whole number of too many digits or too many brackets (`readChars_bounded`).
-/

namespace DocTemplate.Json

open DocTemplate.Text

/-- How many lists and records a text opens at most. -/
def openings (cs : List Char) : Nat := cs.countP fun c => c == '[' || c == '\x7b'

/-- Whether so many digits follow one another in a text. -/
def HasDigits (count : Nat) (cs : List Char) : Prop :=
  ∃ ds, ds <:+: cs ∧ ds.length = count ∧ ∀ d ∈ ds, isAsciiDigit d

/-- What reading at a depth may come to: less text is left, the text has a fault, or it goes beyond a limit. -/
def Bounded {α : Type} (depth : Nat) (cs : List Char) : Except ReadFailure (α × Cursor) → Prop
  | .ok (_, c) => c.rest <:+ cs ∧ c.rest.length < cs.length
  | .error (.malformed _ _) => True
  | .error (.integerTooLong count) => digitLimit < count ∧ HasDigits count cs
  | .error .tooDeep => nestingLimit + 1 < depth + openings cs

variable {α β : Type} {depth fuel : Nat} {cs ds : List Char} {x : Except ReadFailure (α × Cursor)}

theorem openings_le (h : ds <:+ cs) : openings ds ≤ openings cs := h.sublist.countP_le

theorem HasDigits.of_suffix {count : Nat} (h : ds <:+ cs) (hds : HasDigits count ds) : HasDigits count cs := by
  obtain ⟨run, hrun, hlength⟩ := hds
  exact ⟨run, hrun.trans h.isInfix, hlength⟩

namespace Bounded

/-- What reading a later part comes to. -/
theorem of_suffix (h : ds <:+ cs) (hx : Bounded depth ds x) : Bounded depth cs x := by
  match x with
  | .ok (_, c) => exact ⟨hx.1.trans h, Nat.lt_of_lt_of_le hx.2 h.length_le⟩
  | .error (.malformed _ _) => trivial
  | .error (.integerTooLong _) => exact ⟨hx.1, hx.2.of_suffix h⟩
  | .error .tooDeep =>
    have hle := openings_le h
    change nestingLimit + 1 < depth + openings ds at hx
    change nestingLimit + 1 < depth + openings cs
    omega

/-- What reading inside a bracket comes to. -/
theorem of_inside {b : Char} (hb : (b == '[' || b == '\x7b') = true) (h : ds <:+ cs)
    (hx : Bounded (depth + 1) ds x) : Bounded depth (b :: cs) x := by
  match x with
  | .ok (_, c) =>
    exact ⟨(hx.1.trans h).trans (List.suffix_cons b cs),
      Nat.lt_succ_of_lt (Nat.lt_of_lt_of_le hx.2 h.length_le)⟩
  | .error (.malformed _ _) => trivial
  | .error (.integerTooLong _) => exact ⟨hx.1, (hx.2.of_suffix h).of_suffix (List.suffix_cons b cs)⟩
  | .error .tooDeep =>
    have hle := openings_le h
    have hone : openings (b :: cs) = openings cs + 1 := List.countP_cons_of_pos hb
    change nestingLimit + 1 < depth + 1 + openings ds at hx
    change nestingLimit + 1 < depth + openings (b :: cs)
    omega

/-- One reading after another. -/
theorem bind {f : α × Cursor → Except ReadFailure (β × Cursor)} (hx : Bounded depth cs x)
    (hf : ∀ a c, c.rest <:+ cs → c.rest.length < cs.length → Bounded depth cs (f (a, c))) :
    Bounded depth cs (x >>= f) := by
  match x with
  | .ok (a, c) => exact hf a c hx.1 hx.2
  | .error (.malformed _ _) => trivial
  | .error (.integerTooLong _) => exact hx
  | .error .tooDeep => exact hx

end Bounded

theorem skipGap_suffix (c : Cursor) : c.skipGap.rest <:+ c.rest := List.drop_suffix ..

theorem advance_suffix (c : Cursor) (n : Nat) : (c.advance n).rest <:+ c.rest := List.drop_suffix ..

/-- What is read off the start of a text leaves less of it. -/
theorem bounded_advance (a : α) {c : Cursor} {n : Nat} (hn : 0 < n) (hrest : c.rest ≠ []) :
    Bounded depth c.rest (.ok (a, c.advance n)) := by
  have hpos := List.length_pos_iff.mpr hrest
  refine ⟨advance_suffix c n, ?_⟩
  change (c.rest.drop n).length < _
  rw [List.length_drop]
  omega

/-! ## Texts, words and numbers -/

theorem readText_bounded (opening : Nat) (done : List Char) (c : Cursor) :
    Bounded depth c.rest (readText opening fuel done c) := by
  induction fuel generalizing done c with
  | zero => trivial
  | succ fuel ih =>
    rw [readText]
    split
    · trivial
    · next hc => exact bounded_advance _ Nat.one_pos (by rw [hc]; exact nofun)
    · split
      · trivial
      · split
        · exact (ih ..).of_suffix (advance_suffix c _)
        · trivial
      · split
        · exact (ih ..).of_suffix (advance_suffix c _)
        · trivial
    · next ch rest _ _ hc =>
      split
      · trivial
      · exact (ih ..).of_suffix (hc ▸ List.suffix_cons ch rest)

theorem readWord?_pos {v : Value} {n : Nat} (h : readWord? cs = some (v, n)) : 0 < n ∧ cs ≠ [] := by
  obtain ⟨w, hw, heq⟩ := Option.map_eq_some_iff.mp h
  obtain ⟨-, rfl⟩ := Prod.mk.inj heq
  have hpos : ∀ w ∈ words, 0 < w.1.length := by decide
  have hword := hpos w (List.mem_of_find?_eq_some hw)
  have hprefix : w.1.isPrefixOf cs := List.find?_some (p := fun w : List Char × Value => w.1.isPrefixOf cs) hw
  have hlength := (List.isPrefixOf_iff_prefix.mp hprefix).length_le
  exact ⟨hword, List.length_pos_iff.mp (by omega)⟩

theorem wholeDigits_long (h : digitLimit < (wholeDigits cs).length) :
    HasDigits (wholeDigits cs).length cs := by
  unfold wholeDigits at *
  split at h
  · exact absurd h (by decide)
  · exact ⟨_, (List.takeWhile_prefix _).isInfix, rfl, List.all_eq_true.mp (List.all_takeWhile ..)⟩

theorem unsigned_suffix {negative : Bool} {unsigned : List Char}
    (h : (match cs with
      | '-' :: rest => (true, rest)
      | cs => (false, cs)) = (negative, unsigned)) : unsigned <:+ cs := by
  split at h
  · obtain ⟨-, rfl⟩ := Prod.mk.inj h
    exact List.suffix_cons ..
  · obtain ⟨-, rfl⟩ := Prod.mk.inj h
    exact List.suffix_rfl

/-- A number takes at least one character, and fails only if it has too many digits. -/
theorem readNumber?_bounded {r : Except ReadFailure Value} {n : Nat} (h : readNumber? cs = some (r, n)) :
    (0 < n ∧ cs ≠ []) ∧
      ∀ e, r = .error e → ∃ count, e = .integerTooLong count ∧ digitLimit < count ∧ HasDigits count cs := by
  unfold readNumber? at h
  split at h
  next negative unsigned hunsigned =>
  have hsuffix := unsigned_suffix hunsigned
  dsimp only at h
  split at h
  · cases h
  · next hdigits =>
    obtain ⟨hr, hn⟩ := Prod.mk.inj (Option.some.inj h)
    have hpos : 0 < (wholeDigits unsigned).length := by
      rw [List.length_pos_iff]
      intro hnil
      rw [hnil] at hdigits
      exact hdigits rfl
    refine ⟨⟨?_, ?_⟩, fun e he => ?_⟩
    · simp only [List.length_append] at hn
      omega
    · rintro rfl
      obtain rfl := List.suffix_nil.mp hsuffix
      exact absurd hpos (by decide)
    · subst he
      split at hr
      · split at hr
        · next hlong =>
          exact ⟨_, (Except.error.inj hr).symm, hlong, (wholeDigits_long hlong).of_suffix hsuffix⟩
        · cases hr
      · split at hr <;> cases hr

/-! ## Values -/

section Brackets

variable {b : Char} {c : Cursor} {rest : List Char} (hc : c.rest = b :: rest)

include hc

theorem passed_suffix : (c.advance 1).skipGap.rest <:+ rest := by
  refine (skipGap_suffix _).trans ?_
  change c.rest.drop 1 <:+ rest
  rw [hc]
  exact List.suffix_rfl

theorem passed_length : (c.advance 1).skipGap.rest.length < c.rest.length := by
  rw [hc]
  exact Nat.lt_succ_of_le (passed_suffix hc).length_le

theorem bounded_opened (hb : (b == '[' || b == '\x7b') = true)
    (hx : Bounded (depth + 1) (c.advance 1).skipGap.rest x) : Bounded depth c.rest x := by
  rw [hc]
  exact hx.of_inside hb (passed_suffix hc)

theorem bounded_passed (hx : Bounded depth (c.advance 1).skipGap.rest x) : Bounded depth c.rest x := by
  rw [hc]
  exact (hx.of_suffix (passed_suffix hc)).of_suffix (List.suffix_cons b rest)

theorem bounded_closed (a : α) : Bounded depth c.rest (.ok (a, c.advance 1)) :=
  bounded_advance a Nat.one_pos (by rw [hc]; exact nofun)

theorem bounded_tooDeep (hb : (b == '[' || b == '\x7b') = true) (hdeep : nestingLimit < depth) :
    Bounded (α := α) depth c.rest (.error .tooDeep) := by
  rw [hc]
  have hone : openings (b :: rest) = openings rest + 1 := List.countP_cons_of_pos hb
  change nestingLimit + 1 < depth + openings (b :: rest)
  omega

end Brackets

/-- What is read with enough fuel is bounded: a value, the items of a list and the fields of a record. Two
steps are enough for each character. -/
structure ReadsBounded (fuel : Nat) : Prop where
  value : ∀ (depth : Nat) (c : Cursor), 2 * c.rest.length + 1 ≤ fuel →
    Bounded depth c.rest (readValue fuel depth c)
  items : ∀ (depth : Nat) (done : List Value) (c : Cursor), 2 * c.rest.length + 2 ≤ fuel →
    Bounded depth c.rest (readItems fuel depth done c)
  fields : ∀ (depth : Nat) (done : Fields) (c : Cursor), 2 * c.rest.length + 2 ≤ fuel →
    Bounded depth c.rest (readFields fuel depth done c)

namespace ReadsBounded

variable (ih : ReadsBounded fuel)

include ih

theorem value_succ (depth : Nat) (c : Cursor) (hfuel : 2 * c.rest.length + 1 ≤ fuel + 1) :
    Bounded depth c.rest (readValue (fuel + 1) depth c) := by
  rw [readValue]
  split
  · refine Bounded.bind ((readText_bounded ..).of_suffix (advance_suffix c 1)) fun cs c' hsuffix hless => ?_
    exact ⟨hsuffix, hless⟩
  · next hc =>
    have hless := passed_length hc
    split
    · next hdeep => exact bounded_tooDeep hc rfl hdeep
    · refine bounded_opened hc rfl ?_
      dsimp only
      split
      · next hend => exact bounded_closed hend _
      · exact ih.items (depth + 1) [] _ (by omega)
  · next hc =>
    have hless := passed_length hc
    split
    · next hdeep => exact bounded_tooDeep hc rfl hdeep
    · refine bounded_opened hc rfl ?_
      dsimp only
      split
      · next hend => exact bounded_closed hend _
      · exact ih.fields (depth + 1) [] _ (by omega)
  · split
    · next hword =>
      obtain ⟨hpos, hrest⟩ := readWord?_pos hword
      exact bounded_advance _ hpos hrest
    · split
      · next hnumber =>
        obtain ⟨⟨hpos, hrest⟩, -⟩ := readNumber?_bounded hnumber
        exact bounded_advance _ hpos hrest
      · next hnumber =>
        obtain ⟨count, rfl, hcount⟩ := (readNumber?_bounded hnumber).2 _ rfl
        exact hcount
      · trivial

theorem items_succ (depth : Nat) (done : List Value) (c : Cursor) (hfuel : 2 * c.rest.length + 2 ≤ fuel + 1) :
    Bounded depth c.rest (readItems (fuel + 1) depth done c) := by
  rw [readItems]
  refine (ih.value depth c (by omega)).bind fun v c' hsuffix hless => ?_
  have hgap := skipGap_suffix c'
  have hgapLess := hgap.length_le
  refine Bounded.of_suffix (hgap.trans hsuffix) ?_
  dsimp only
  split
  · next hend => exact bounded_closed hend _
  · next hcomma =>
    have hcommaLess := passed_length hcomma
    exact bounded_passed hcomma (ih.items depth _ _ (by omega))
  · trivial

theorem fields_succ (depth : Nat) (done : Fields) (c : Cursor) (hfuel : 2 * c.rest.length + 2 ≤ fuel + 1) :
    Bounded depth c.rest (readFields (fuel + 1) depth done c) := by
  rw [readFields]
  split
  · refine Bounded.bind ((readText_bounded ..).of_suffix (advance_suffix c 1)) fun key c' hsuffix hless => ?_
    have hgap := skipGap_suffix c'
    have hgapLess := hgap.length_le
    refine Bounded.of_suffix (hgap.trans hsuffix) ?_
    dsimp only
    split
    · next hcolon =>
      have hcolonLess := passed_length hcolon
      refine bounded_passed hcolon ?_
      refine (ih.value depth _ (by omega)).bind fun v d hsuffix hvalueLess => ?_
      have hgap := skipGap_suffix d
      have hgapLess := hgap.length_le
      refine Bounded.of_suffix (hgap.trans hsuffix) ?_
      dsimp only
      split
      · next hend => exact bounded_closed hend _
      · next hcomma =>
        have hcommaLess := passed_length hcomma
        exact bounded_passed hcomma (ih.fields depth _ _ (by omega))
      · trivial
    · trivial
  · trivial

end ReadsBounded

theorem readsBounded (fuel : Nat) : ReadsBounded fuel := by
  induction fuel with
  | zero => exact ⟨fun _ _ h => by omega, fun _ _ _ h => by omega, fun _ _ _ h => by omega⟩
  | succ fuel ih => exact ⟨ih.value_succ, ih.items_succ, ih.fields_succ⟩

/-- How a text goes beyond a limit of the reader. -/
inductive Exceeds (cs : List Char) : ReadFailure → Prop
  /-- By a whole number of too many digits. -/
  | digits {count : Nat} (hlong : digitLimit < count) (hrun : HasDigits count cs) :
      Exceeds cs (.integerTooLong count)
  /-- By more brackets than may be nested. -/
  | nesting (hmore : nestingLimit + 1 < openings cs) : Exceeds cs .tooDeep

/-- Reading a text ends with a value, a fault or a limit that the text goes beyond. -/
theorem readChars_bounded (cs : List Char) :
    (∃ v, readChars cs = .ok v) ∨ (∃ fault place, readChars cs = .error (.malformed fault place)) ∨
      ∃ e, readChars cs = .error e ∧ Exceeds cs e := by
  have hgap : (Cursor.skipGap ⟨cs, 0⟩).rest <:+ cs := skipGap_suffix _
  have hgapLess := hgap.length_le
  have h := ((readsBounded (2 * cs.length + 4)).value 0 (Cursor.skipGap ⟨cs, 0⟩) (by omega)).of_suffix hgap
  unfold readChars
  generalize readValue (2 * cs.length + 4) 0 (Cursor.skipGap ⟨cs, 0⟩) = x at h
  match x with
  | .ok (v, c) =>
    by_cases hend : c.skipGap.rest.isEmpty
    · exact .inl ⟨v, if_pos hend⟩
    · exact .inr (.inl ⟨_, _, if_neg hend⟩)
  | .error (.malformed fault place) => exact .inr (.inl ⟨fault, place, rfl⟩)
  | .error (.integerTooLong count) => exact .inr (.inr ⟨_, rfl, .digits h.1 h.2⟩)
  | .error .tooDeep =>
    refine .inr (.inr ⟨_, rfl, .nesting ?_⟩)
    change nestingLimit + 1 < 0 + openings cs at h
    omega

end DocTemplate.Json
