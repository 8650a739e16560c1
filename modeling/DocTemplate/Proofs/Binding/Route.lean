import DocTemplate.Binding.Path
import DocTemplate.Proofs.Number.Digits

/-!
# Where paths lead

A path leads step by step into a value. A segment leads to a field of a record or, in digits, to an item of a
list or tuple; it is stuck where it has more digits than an index may have, and otherwise it leads nowhere.
Main statement: `paths_compose`: two paths joined by a dot lead where the second leads from where the first
does, and a path fails exactly where a segment of it is stuck.
-/

namespace DocTemplate

open DocTemplate.Text DocTemplate.Number

/-! ## One segment -/

/-- The mark of a repeated field. -/
def repeatMark : List Char := ['[', ']']

/-- What a segment names: all of it, or what stands before one mark at its end. -/
inductive Names : List Char → List Char → Prop
  | marked (name : List Char) : Names (name ++ repeatMark) name
  | plain (name : List Char) (h : ¬repeatMark <:+ name) : Names name name

/-- A segment leads from a value to one directly inside it. -/
inductive Enters : Value → List Char → Value → Prop
  | field {fields : Fields} {segment name : List Char} {w : Value} (hname : Names segment name)
      (h : Fields.get? fields (String.ofList name) = some w) : Enters (.record fields) segment w
  | item {v w : Value} {items : List Value} {segment name : List Char} (hitems : v.items? = some items)
      (hname : Names segment name) (hne : name ≠ []) (hdigits : ∀ c ∈ name, c.isDigit)
      (hlength : name.length ≤ digitLimit) (h : items[runValue name]? = some w) : Enters v segment w

/-- A segment counts the items of a list or tuple in more digits than an index may have. -/
def Stuck (v : Value) (segment : List Char) (digits : Nat) : Prop :=
  v.items?.isSome ∧ ∃ name, Names segment name ∧ (∀ c ∈ name, c.isDigit) ∧ name.length = digits ∧
    digitLimit < digits

theorem plainSegment_marked (name : List Char) : plainSegment (name ++ repeatMark) = name := by
  simp [plainSegment, repeatMark]

theorem plainSegment_plain {segment : List Char} (h : ¬repeatMark <:+ segment) :
    plainSegment segment = segment := by
  unfold plainSegment
  split
  · next rest hrest =>
    have hsegment : segment = rest.reverse ++ repeatMark := by
      rw [← List.reverse_reverse segment, hrest]
      simp [repeatMark]
    exact absurd ⟨rest.reverse, hsegment.symm⟩ h
  · rfl

theorem names_iff {segment name : List Char} : Names segment name ↔ plainSegment segment = name := by
  constructor
  · intro h
    cases h with
    | marked => exact plainSegment_marked name
    | plain _ h => exact plainSegment_plain h
  · rintro rfl
    by_cases h : repeatMark <:+ segment
    · obtain ⟨name, rfl⟩ := h
      rw [plainSegment_marked]
      exact .marked name
    · rw [plainSegment_plain h]
      exact .plain segment h

theorem Names.digits {name : List Char} (h : ∀ c ∈ name, c.isDigit) : Names name name := by
  refine .plain name fun hmark => ?_
  have hclose : ']' ∈ name := hmark.mem (by decide)
  exact absurd (h ']' hclose) (by decide)

theorem isIndex_iff {name : List Char} : isIndex name ↔ name ≠ [] ∧ ∀ c ∈ name, c.isDigit := by
  have hdigit : ∀ c, isAsciiDigit c = c.isDigit := fun _ => rfl
  simp [isIndex, hdigit]

theorem indexOf_eq {name : List Char} (h : ∀ c ∈ name, c.isDigit) : indexOf name = runValue name := by
  have hvalues : name.filterMap asciiDigit? = name.map fun c => c.toNat - '0'.toNat :=
    List.filterMap_eq_map_iff_forall_eq_some.mpr fun c hc => asciiDigit?_eq (h c hc)
  rw [indexOf, hvalues, ofDigits_values]

/-- What a step does in a list or tuple. -/
theorem step_items {v : Value} {items : List Value} (h : v.items? = some items) (name : List Char) :
    step v name = if isIndex name then
        if digitLimit < name.length then .error (.indexTooLong name.length)
        else .ok (items.getD (indexOf name) .null)
      else .ok .null := by
  cases v <;> cases h <;> rfl

theorem step_of_enters {v w : Value} {segment : List Char} (h : Enters v segment w) :
    step v (plainSegment segment) = .ok w := by
  cases h with
  | field hname h =>
    rw [names_iff.mp hname, step, h]
    rfl
  | item hitems hname hne hdigits hlength h =>
    rw [names_iff.mp hname, step_items hitems, if_pos (isIndex_iff.mpr ⟨hne, hdigits⟩),
      if_neg (Nat.not_lt.mpr hlength), indexOf_eq hdigits, List.getD_eq_getElem?_getD, h]
    rfl

theorem step_of_stuck {v : Value} {segment : List Char} {digits : Nat} (h : Stuck v segment digits) :
    step v (plainSegment segment) = .error (.indexTooLong digits) := by
  obtain ⟨hitems, name, hname, hdigits, rfl, hlong⟩ := h
  obtain ⟨items, hitems⟩ := Option.isSome_iff_exists.mp hitems
  have hne : name ≠ [] := by
    rintro rfl
    exact Nat.not_lt_zero _ hlong
  rw [names_iff.mp hname, step_items hitems, if_pos (isIndex_iff.mpr ⟨hne, hdigits⟩), if_pos hlong]

/-- A step leads into the value, or it is stuck, or it leads nowhere. -/
theorem step_cases (v : Value) (segment : List Char) :
    (∃ w, Enters v segment w) ∨ (∃ digits, Stuck v segment digits) ∨
      step v (plainSegment segment) = .ok .null := by
  have hname : Names segment (plainSegment segment) := names_iff.mpr rfl
  cases hitems : v.items? with
  | some items =>
    rw [step_items hitems]
    split
    · next hindex =>
      obtain ⟨hne, hdigits⟩ := isIndex_iff.mp hindex
      split
      · next hlong => exact .inr (.inl ⟨_, by rw [hitems]; rfl, _, hname, hdigits, rfl, hlong⟩)
      · next hlength =>
        rw [indexOf_eq hdigits, List.getD_eq_getElem?_getD]
        cases h : items[runValue (plainSegment segment)]? with
        | some w => exact .inl ⟨w, .item hitems hname hne hdigits (Nat.not_lt.mp hlength) h⟩
        | none => exact .inr (.inr rfl)
    · exact .inr (.inr rfl)
  | none =>
    cases v with
    | record fields =>
      rw [step]
      cases h : Fields.get? fields (String.ofList (plainSegment segment)) with
      | some w => exact .inl ⟨w, .field hname h⟩
      | none => exact .inr (.inr rfl)
    | list items | tuple items => cases hitems
    | _ => exact .inr (.inr rfl)

/-! ## Walks -/

/-- Segments lead one after the other from a value to one inside it. -/
inductive Leads : Value → List (List Char) → Value → Prop
  | here (v : Value) : Leads v [] v
  | step {v w u : Value} {segment : List Char} {segments : List (List Char)} (hstep : Enters v segment w)
      (hrest : Leads w segments u) : Leads v (segment :: segments) u

/-- Segments lead to a value in which the next one is stuck. -/
def Blocked (v : Value) (segments : List (List Char)) (digits : Nat) : Prop :=
  ∃ before segment after u, segments = before ++ segment :: after ∧ Leads v before u ∧
    Stuck u segment digits

theorem walk_cons (v : Value) (segment : List Char) (segments : List (List Char)) :
    walk v (segment :: segments) = (step v (plainSegment segment)).bind (walk · segments) := by
  rw [walk]
  cases step v (plainSegment segment) with
  | error e => rfl
  | ok next =>
    cases next with
    | null => exact (walk_null segments).symm
    | _ => rfl

theorem walk_of_leads {v w : Value} {segments : List (List Char)} (h : Leads v segments w) :
    walk v segments = .ok w := by
  induction h with
  | here v => rfl
  | step hstep hrest ih =>
    rw [walk_cons, step_of_enters hstep]
    exact ih

theorem walk_of_blocked {v : Value} {segments : List (List Char)} {digits : Nat}
    (h : Blocked v segments digits) : walk v segments = .error (.indexTooLong digits) := by
  obtain ⟨before, segment, after, u, rfl, hleads, hstuck⟩ := h
  rw [walk_append, walk_of_leads hleads]
  change walk u (segment :: after) = _
  rw [walk_cons, step_of_stuck hstuck]
  rfl

theorem Blocked.step {v w : Value} {segment : List Char} {segments : List (List Char)} {digits : Nat}
    (hstep : Enters v segment w) (h : Blocked w segments digits) : Blocked v (segment :: segments) digits := by
  obtain ⟨before, last, after, u, rfl, hleads, hstuck⟩ := h
  exact ⟨segment :: before, last, after, u, rfl, .step hstep hleads, hstuck⟩

/-- A walk leads somewhere, or it is blocked, or it leads nowhere. -/
theorem walk_cases (v : Value) (segments : List (List Char)) :
    (∃ w, Leads v segments w) ∨ (∃ digits, Blocked v segments digits) ∨ walk v segments = .ok .null := by
  induction segments generalizing v with
  | nil => exact .inl ⟨v, .here v⟩
  | cons segment segments ih =>
    rcases step_cases v segment with ⟨w, hstep⟩ | ⟨digits, hstuck⟩ | hnull
    · rcases ih w with ⟨u, hleads⟩ | ⟨digits, hblocked⟩ | hnull
      · exact .inl ⟨u, .step hstep hleads⟩
      · exact .inr (.inl ⟨digits, .step hstep hblocked⟩)
      · refine .inr (.inr ?_)
        rw [walk_cons, step_of_enters hstep]
        exact hnull
    · exact .inr (.inl ⟨digits, [], segment, segments, v, rfl, .here v, hstuck⟩)
    · -- What comes after a step that leads nowhere is walked from null, and stays there.
      refine .inr (.inr ?_)
      rw [walk_cons, hnull]
      exact walk_null segments

theorem walk_eq_error_iff {v : Value} {segments : List (List Char)} {f : Failure} :
    walk v segments = .error f ↔ ∃ digits, Blocked v segments digits ∧ f = .indexTooLong digits := by
  constructor
  · intro h
    rcases walk_cases v segments with ⟨w, hleads⟩ | ⟨digits, hblocked⟩ | hnull
    · cases h.symm.trans (walk_of_leads hleads)
    · cases h.symm.trans (walk_of_blocked hblocked)
      exact ⟨digits, hblocked, rfl⟩
    · cases h.symm.trans hnull
  · rintro ⟨digits, hblocked, rfl⟩
    exact walk_of_blocked hblocked

/-- The value at the end of a walk: what the segments lead to, or null where they neither lead anywhere nor
are blocked. -/
theorem walk_eq_ok_iff {v w : Value} {segments : List (List Char)} :
    walk v segments = .ok w ↔ Leads v segments w ∨
      w = .null ∧ (∀ u, ¬Leads v segments u) ∧ ∀ digits, ¬Blocked v segments digits := by
  constructor
  · intro h
    by_cases hleads : ∃ u, Leads v segments u
    · obtain ⟨u, hleads⟩ := hleads
      cases h.symm.trans (walk_of_leads hleads)
      exact .inl hleads
    · have hfree : ∀ digits, ¬Blocked v segments digits := fun digits hblocked => by
        cases h.symm.trans (walk_of_blocked hblocked)
      rcases walk_cases v segments with hleads' | ⟨digits, hblocked⟩ | hnull
      · exact absurd hleads' hleads
      · exact absurd hblocked (hfree digits)
      · cases h.symm.trans hnull
        exact .inr ⟨rfl, fun u hu => hleads ⟨u, hu⟩, hfree⟩
  · rintro (hleads | ⟨rfl, hnowhere, hfree⟩)
    · exact walk_of_leads hleads
    · rcases walk_cases v segments with ⟨u, hleads⟩ | ⟨digits, hblocked⟩ | hnull
      · exact absurd hleads (hnowhere u)
      · exact absurd hblocked (hfree digits)
      · exact hnull

/-! ## Paths -/

/-- The pieces of two texts with a separator between them are the pieces of both. -/
theorem pieces_append (separator : Char) (as bs : List Char) :
    pieces separator (as ++ separator :: bs) = pieces separator as ++ pieces separator bs := by
  induction as with
  | nil => simp [pieces]
  | cons a as ih =>
    rw [List.cons_append, pieces, ih, pieces]
    split
    · rfl
    · cases h : pieces separator as with
      | nil => exact absurd h (pieces_ne_nil separator as)
      | cons p ps => rfl

theorem pieces_of_not_mem {separator : Char} {cs : List Char} (h : separator ∉ cs) :
    pieces separator cs = [cs] := by
  induction cs with
  | nil => rfl
  | cons c cs ih =>
    obtain ⟨hc, hcs⟩ := not_or.mp (List.mem_cons.not.mp h)
    rw [pieces, if_neg (Ne.symm hc), ih hcs]

/-- The segments between the dots of a path. -/
def segments (path : String) : List (List Char) := pieces '.' path.toList

theorem resolve_of_ne_empty (context : Value) {path : String} (h : path ≠ "") :
    resolve context (some path) = walk context (segments path) := by
  rw [resolve, if_neg h, segments]

theorem segments_join (p q : String) : segments (p ++ "." ++ q) = segments p ++ segments q := by
  rw [segments, String.toList_append, String.toList_append, List.append_assoc]
  exact pieces_append '.' p.toList q.toList

theorem join_ne_empty {p : String} (h : p ≠ "") (q : String) : p ++ "." ++ q ≠ "" := by
  intro hempty
  have hlist := congrArg String.toList hempty
  rw [String.toList_append, String.toList_append] at hlist
  exact h (String.toList_eq_nil_iff.mp (List.append_eq_nil_iff.mp (List.append_eq_nil_iff.mp hlist).1).1)

/-- A path that another one follows leads where the other leads from where the first does, and what stops the
first stops both. A path fails exactly where its segments lead to a list or tuple whose items the next one
counts in too many digits; everywhere else it has a value, which is null where the segments lead nowhere. -/
theorem paths_compose (context : Value) (p q : String) (hp : p ≠ "") (hq : q ≠ "") :
    resolve context (some (p ++ "." ++ q)) =
        (resolve context (some p)).bind (fun inner => resolve inner (some q)) ∧
    (∀ f, resolve context (some p) = .error f ↔
      ∃ digits, Blocked context (segments p) digits ∧ f = .indexTooLong digits) ∧
    (∀ v, resolve context (some p) = .ok v ↔ Leads context (segments p) v ∨
      v = .null ∧ (∀ w, ¬Leads context (segments p) w) ∧ ∀ digits, ¬Blocked context (segments p) digits) := by
  have hinner : (fun inner => resolve inner (some q)) = fun inner => walk inner (segments q) :=
    funext fun inner => resolve_of_ne_empty inner hq
  rw [resolve_of_ne_empty context (join_ne_empty hp q), resolve_of_ne_empty context hp, hinner, segments_join]
  exact ⟨walk_append context (segments p) (segments q), fun _ => walk_eq_error_iff, fun _ => walk_eq_ok_iff⟩

/-- An order with one line. -/
def lineContext : Value := .record [("lines", .list [.record [("sku", .text "A-1")]])]

/-- More digits than an index may have. -/
def longIndex : List Char := List.replicate 4301 '0'

theorem digits_longIndex : ∀ c ∈ longIndex, c.isDigit := fun _ hc => by
  rw [List.eq_of_mem_replicate hc]
  rfl

theorem segments_longIndex : segments (String.ofList longIndex) = [longIndex] := by
  rw [segments, String.toList_ofList]
  exact pieces_of_not_mem fun hdot => absurd (digits_longIndex '.' hdot) (by decide)

/-- The line has an article; under so many digits the path to a line fails. -/
theorem paths_compose_lines : "lines[]" ≠ "" ∧ "0.sku" ≠ "" ∧ String.ofList longIndex ≠ "" ∧
    resolve lineContext (some ("lines[]" ++ "." ++ "0.sku")) = .ok (.text "A-1") ∧
    resolve lineContext (some ("lines[]" ++ "." ++ String.ofList longIndex)) = .error (.indexTooLong 4301) := by
  have hlines : "lines[]" ≠ "" := by decide
  have hsku : "0.sku" ≠ "" := by decide
  have hlong : String.ofList longIndex ≠ "" := fun hempty => by
    cases String.ofList_eq_empty_iff.mp hempty
  refine ⟨hlines, hsku, hlong, (paths_compose lineContext "lines[]" "0.sku" hlines hsku).1.trans rfl, ?_⟩
  have hpath : "lines[]" ++ "." ++ String.ofList longIndex ≠ "" := join_ne_empty hlines _
  have hblocked : Blocked lineContext (segments ("lines[]" ++ "." ++ String.ofList longIndex)) 4301 := by
    refine ⟨["lines[]".toList], longIndex, [], .list [.record [("sku", .text "A-1")]], ?_, ?_, ?_⟩
    · rw [segments_join, segments_longIndex]
      rfl
    · exact .step (.field (.marked "lines".toList) rfl) (.here _)
    · exact ⟨rfl, longIndex, .digits digits_longIndex, digits_longIndex, List.length_replicate, by decide⟩
  exact ((paths_compose lineContext _ "0.sku" hpath hsku).2.1 _).mpr ⟨4301, hblocked, rfl⟩

end DocTemplate
