import DocTemplate.Proofs.Number.Halves
import DocTemplate.Proofs.Page.Table

/-!
# Fitting sizes

The size at which the text of a table cell fits its column is searched from the size that it should have, half a point
at a time. The search ends, and finds the best size there is, however text is measured; at a greater size it need not
be wider. Main statement: `search_finds_best_size`.
-/

namespace DocTemplate.Page

open DocTemplate.Number

/-! ## The search -/

section

variable {measure : Float → Float} {width base size result : Float} {k : ℤ}

/-- The search from a size ends with a result. There is no bound on its steps. -/
inductive Search (measure : Float → Float) (width : Float) : Float → Float → Prop
  | least {size : Float} (h : ¬leastSize < size) : Search measure width size leastSize
  | fits {size : Float} (habove : leastSize < size) (hfits : measure size ≤ width) :
      Search measure width size size
  | down {size result : Float} (habove : leastSize < size) (hwide : ¬measure size ≤ width)
      (hrest : Search measure width (size - 0.5) result) : Search measure width size result

theorem Search.unique {other : Float} (h : Search measure width size result)
    (hother : Search measure width size other) : other = result := by
  induction h with
  | least h =>
    cases hother with
    | least => rfl
    | fits habove => exact absurd habove h
    | down habove => exact absurd habove h
  | fits habove hfits =>
    cases hother with
    | least h => exact absurd habove h
    | fits => rfl
    | down _ hwide => exact absurd hfits hwide
  | down habove hwide _ ih =>
    cases hother with
    | least h => exact absurd habove h
    | fits _ hfits => exact absurd hfits hwide
    | down _ _ hrest => exact ih hrest

/-- A size that is some halves below a base, is above the least size and lets text fit a width. -/
structure Suits (measure : Float → Float) (width base size : Float) : Prop where
  below : ∃ n, size = (· - 0.5)^[n] base
  above : leastSize < size
  fits : measure size ≤ width

/-- The greatest size that suits, or the least size where none does. -/
def IsBest (measure : Float → Float) (width base result : Float) : Prop :=
  (Suits measure width base result ∧ ∀ size, Suits measure width base size → size ≤ result) ∨
    (result = leastSize ∧ ∀ size, ¬Suits measure width base size)

/-- What is above the least size after a half is taken away was not less before. -/
theorem sub_half_le (h : leastSize < size - 0.5) : size - 0.5 ≤ size := by
  obtain ⟨_, _, -, hless, -⟩ := Number.lt_iff.mp h
  obtain ⟨a, _, hsize, -⟩ := units_of_sub hless
  exact sub_le_self (le_self_iff.mpr ⟨a, hsize⟩) (by decide +kernel) (.inr (by decide +kernel))

theorem iterate_le {n : ℕ} (h : leastSize < (· - 0.5)^[n] base) : (· - 0.5)^[n] base ≤ base := by
  induction n generalizing base with
  | zero => exact right_of_le (double_le_of_lt h)
  | succ n ih =>
    rw [Function.iterate_succ_apply] at h ⊢
    have hrest := ih h
    exact double_le_trans hrest (sub_half_le (lt_of_lt_of_le h hrest))

/-- Where text is too wide at the base, the sizes that suit are those below it. -/
theorem suits_iff_of_wide (hwide : ¬measure base ≤ width) :
    Suits measure width base size ↔ Suits measure width (base - 0.5) size := by
  constructor
  · rintro ⟨⟨n, rfl⟩, habove, hfits⟩
    cases n with
    | zero => exact absurd hfits hwide
    | succ n => exact ⟨⟨n, Function.iterate_succ_apply _ n base⟩, habove, hfits⟩
  · rintro ⟨⟨n, rfl⟩, habove, hfits⟩
    exact ⟨⟨n + 1, (Function.iterate_succ_apply _ n base).symm⟩, habove, hfits⟩

theorem Search.isBest (h : Search measure width base result) : IsBest measure width base result := by
  induction h with
  | least h =>
    refine .inr ⟨rfl, ?_⟩
    rintro _ ⟨⟨n, rfl⟩, habove, -⟩
    exact h (lt_of_lt_of_le habove (iterate_le habove))
  | fits habove hfits =>
    refine .inl ⟨⟨⟨0, rfl⟩, habove, hfits⟩, ?_⟩
    rintro _ ⟨⟨n, rfl⟩, habove, -⟩
    exact iterate_le habove
  | down _ hwide _ ih =>
    simp only [IsBest, suits_iff_of_wide hwide]
    exact ih

theorem isHalves_leastSize : IsHalves leastSize 14 := isHalves_seven

/-- The search goes through all sizes above the least one if it is given as many steps as there are halves. -/
theorem search_fitFrom {steps : ℕ} (hsize : IsHalves size k) (hk : k < 2 ^ 53) (hsteps : k ≤ steps + 14) :
    Search measure width size (fitFrom measure width steps size) := by
  induction steps generalizing size k with
  | zero =>
    have hleast : ¬leastSize < size := by
      rw [isHalves_leastSize.lt_iff hsize]
      omega
    exact .least hleast
  | succ steps ih =>
    unfold fitFrom
    by_cases habove : leastSize < size
    · rw [if_pos habove]
      by_cases hfits : measure size ≤ width
      · rw [if_pos hfits]
        exact .fits habove hfits
      · rw [if_neg hfits]
        have hpos : 14 < k := (isHalves_leastSize.lt_iff hsize).mp habove
        have hless : IsHalves (size - 0.5) (k - 1) := hsize.sub_half (by omega)
        exact .down habove hfits (ih hless (by omega) (by omega))
    · rw [if_neg habove]
      exact .least habove

theorem search_fitSize (hbase : IsHalves base k) (hk : k.natAbs < 2 ^ 41) :
    Search measure width base (fitSize measure width base) := by
  have hceil : k ≤ 2 * Length.ceil base := hbase.le_ceil (by omega)
  exact search_fitFrom hbase (by omega) (by omega)

/-- Halves are taken away exactly, down to sizes far below zero. -/
theorem isHalves_iterate (hbase : IsHalves base k) (hk : k.natAbs < 2 ^ 41) {n : ℕ} (hn : n ≤ 2 ^ 52) :
    IsHalves ((· - 0.5)^[n] base) (k - n) := by
  induction n with
  | zero =>
    rw [Nat.cast_zero, Int.sub_zero]
    exact hbase
  | succ n ih =>
    rw [Function.iterate_succ_apply', Nat.cast_succ, ← Int.sub_sub]
    exact (ih (by omega)).sub_half (by omega)

end

/-! ## Additions -/

section

variable {α β γ : Type} {G : Op α → Prop} {before : List (Op α)}

/-- After some parts the record holds only parts of a kind. -/
def ContinuesWith (G : Op α → Prop) (before : List (Op α)) (s : Sheet α) : Prop :=
  ∃ new, opsOf s.log = before ++ new ∧ ∀ o ∈ new, G o

/-- The parts that an action adds to the record are of a kind, also where it fails. -/
def AddsOnly (G : Op α → Prop) (m : Draw α β) : Prop :=
  ∀ before, Ends (ContinuesWith G before) m (fun _ => ContinuesWith G before) (ContinuesWith G before)

namespace AddsOnly

theorem bind {m : Draw α β} {f : β → Draw α γ} (hm : AddsOnly G m) (hf : ∀ b, AddsOnly G (f b)) :
    AddsOnly G (m >>= f) := fun before => (hm before).bind fun b => hf b before

theorem pure (b : β) : AddsOnly G (Pure.pure b : Draw α β) := fun _ => .pure fun _ hs => hs

theorem get : AddsOnly G (MonadState.get : Draw α (Sheet α)) := fun _ _ hs => hs

theorem read {x : Except Failure β} {f : β → Draw α γ} (h : ∀ b, x = .ok b → AddsOnly G (f b)) :
    AddsOnly G (liftM x >>= f) := by
  intro before s hs
  rw [run_bind, run_liftM]
  cases hx : x with
  | error e => exact hs
  | ok b => exact h b hx before s hs

/-- An action without an answer ends in one state, whether it fails or not. -/
theorem iff_after {m : Draw α Unit} :
    AddsOnly G m ↔ ∀ before s, ContinuesWith G before s → ContinuesWith G before (after m s) := by
  refine forall_congr' fun before => forall_congr' fun s => forall_congr' fun _ => ?_
  unfold after
  generalize m.run.run s = r
  obtain ⟨f | _, t⟩ := r <;> exact Iff.rfl

theorem continues {m : Draw α Unit} (h : AddsOnly G m) (s : Sheet α) :
    ContinuesWith G (opsOf s.log) (after m s) :=
  iff_after.mp h _ s ⟨[], (List.append_nil _).symm, List.forall_mem_nil _⟩

/-- An action that leaves the record as it is. -/
theorem of_after {m : Draw α Unit} (h : ∀ s, opsOf (after m s).log = opsOf s.log) : AddsOnly G m := by
  refine iff_after.mpr fun before s ⟨new, hnew, hG⟩ => ?_
  exact ⟨new, (h s).trans hnew, hG⟩

theorem record {shape : Shape α} {x y width height : α} {role : Role}
    (h : ∀ page, G ⟨shape, page, x, y, width, height, role⟩) : AddsOnly G (record shape x y width height role) := by
  rintro before s ⟨new, hnew, hG⟩
  refine ⟨new ++ [⟨shape, s.page, x, y, width, height, role⟩], ?_, ?_⟩
  · change opsOf (s.log.push _) = _
    rw [opsOf_push_op, hnew, List.append_assoc]
  · exact List.forall_mem_append.mpr ⟨hG, List.forall_mem_singleton.mpr (h s.page)⟩

theorem moveDown (h : α) [Length α] : AddsOnly G (moveDown h) := of_after fun _ => rfl

variable [Length α]

theorem size {d : Setup α} {setting : SizeSetting} {f : α → Draw α β}
    (h : ∀ x, d.preset.size setting = .ok x → AddsOnly G (f (Length.ofFloat x))) :
    AddsOnly G (d.size setting >>= f) := by
  unfold Setup.size
  rw [bind_assoc]
  refine read fun x hx => ?_
  rw [pure_bind]
  exact h x hx

theorem call (c : Call α) : AddsOnly G (call c) :=
  of_after fun s => by
    unfold after
    rw [run_call]
    exact opsOf_push_call s.log c

theorem drawText {align : Align} {x y : α} {content font : String} {size : α} {color : Color} {role : Role}
    (h : ∀ page, G ⟨.text content font size, page, x, y,
      ((Face.named? font).getD .regular).width size content.toList, size, role⟩) :
    AddsOnly G (drawText align x y content font size color role) :=
  (call _).bind fun _ => (call _).bind fun _ => (call _).bind fun _ => .record h

theorem drawLine {x₁ y x₂ : α} {color : Color} {role : Role}
    (h : ∀ page, G ⟨.line, page, x₁, y, x₂ - x₁, 0.0, role⟩) : AddsOnly G (drawLine x₁ y x₂ color role) :=
  (call _).bind fun _ => (call _).bind fun _ => (call _).bind fun _ => .record h

theorem ensureSpace (d : Setup α) (height : α) : AddsOnly G (d.ensureSpace height) := by
  refine get.bind fun s => ?_
  split
  · refine of_after fun t => ?_
    obtain ⟨made, -, hafter⟩ := d.after_newPage t
    rw [hafter, Setup.pageLog, opsOf_withCalls, opsOf_push_pageStart, opsOf_push_call]
  · exact .pure ()

end AddsOnly

end

/-! ## Cells -/

section

variable {d : Setup Float} {slot rowHeight size width base : Float} {font : String} {columns : List Column}

/-- The size that text of a table should have. -/
def Role.cellSetting : Role → SizeSetting
  | .tableHeader => .tableHeaderSize
  | _ => .tableCellSize

/-- Text is set at the size that the search finds, which is not below the least size, and fits into its room where it
is above it. -/
structure IsFitted (room base : Float) (content font : String) (size width : Float) : Prop where
  least : leastSize ≤ size
  fits : leastSize < size → width ≤ room
  found : ∀ face, Face.named? font = some face →
    size = fitSize (fun size => face.width size content.toList) room base

/-- Text with characters is fitted into a slot less its padding. -/
def Setup.KeepsSlot (d : Setup Float) (slot : Float) (o : Op Float) : Prop :=
  ∀ content font size, o.shape = .text content font size → content ≠ "" →
    ∃ base pad, d.preset.size o.role.cellSetting = .ok base ∧ d.preset.size .tableCellPad = .ok pad ∧
      IsFitted (slot - 2.0 * pad) base content font size o.width

theorem fitFrom_cases (measure : Float → Float) (width : Float) (steps : ℕ) (size : Float) :
    fitFrom measure width steps size = leastSize ∨
      leastSize < fitFrom measure width steps size ∧ measure (fitFrom measure width steps size) ≤ width := by
  induction steps generalizing size with
  | zero => exact .inl rfl
  | succ steps ih =>
    unfold fitFrom
    split
    · next habove =>
      split
      · next hfits => exact .inr ⟨habove, hfits⟩
      · exact ih (size - 0.5)
    · exact .inl rfl

theorem leastSize_le : (leastSize : Float) ≤ leastSize := isHalves_leastSize.le isHalves_leastSize (Int.le_refl _)

theorem leastSize_le_fitSize (measure : Float → Float) (width base : Float) :
    leastSize ≤ fitSize measure width base := by
  rcases fitFrom_cases measure width (2 * Length.ceil base + 1) base with hleast | ⟨habove, -⟩
  · rw [fitSize, hleast]
    exact leastSize_le
  · exact double_le_of_lt habove

theorem measure_fitSize_le {measure : Float → Float} (h : leastSize < fitSize measure width base) :
    measure (fitSize measure width base) ≤ width := by
  rcases fitFrom_cases measure width (2 * Length.ceil base + 1) base with hleast | ⟨-, hfits⟩
  · rw [fitSize, hleast] at h
    exact absurd h (not_lt_self _)
  · exact hfits

theorem isFitted_of_sizeToFit {room : Float} {content : String} (hcontent : content ≠ "")
    (h : sizeToFit font base room content.toList = .ok size) :
    IsFitted room base content font size (((Face.named? font).getD .regular).width size content.toList) := by
  unfold sizeToFit at h
  rw [if_neg (by simpa using hcontent)] at h
  cases hface : Face.named? font with
  | none =>
    rw [hface] at h
    dsimp only at h
    split at h
    · cases h
    · cases h
      refine ⟨leastSize_le, fun habove => absurd habove (not_lt_self _), fun other hother => ?_⟩
      cases hface.symm.trans hother
  | some face =>
    rw [hface] at h
    cases h
    refine ⟨leastSize_le_fitSize _ _ _, measure_fitSize_le, fun other hother => ?_⟩
    cases hface.symm.trans hother
    rfl

theorem addsOnly_drawCells {role : Role} (hbase : d.preset.size role.cellSetting = .ok base) (index : ℕ)
    (cells : List (Column × Except Failure String)) :
    AddsOnly (d.KeepsSlot slot) (d.drawCells slot rowHeight font base role index cells) := by
  induction cells generalizing index with
  | nil => exact .pure ()
  | cons cell cells ih =>
    unfold Setup.drawCells
    refine .read fun text _ => .size fun pad hpad => .read fun size hsize => ?_
    refine AddsOnly.get.bind fun s => ?_
    refine AddsOnly.bind (.drawText fun page => ?_) fun _ => ih (index + 1)
    rintro _ _ _ ⟨⟩ htext
    exact ⟨base, pad, hbase, hpad, isFitted_of_sizeToFit htext hsize⟩

theorem addsOnly_drawHead : AddsOnly (d.KeepsSlot slot) (d.drawHead slot rowHeight columns) := by
  refine (AddsOnly.ensureSpace d _).bind fun _ => .read fun font _ => .size fun size hsize => ?_
  refine (addsOnly_drawCells hsize 0 _).bind fun _ => AddsOnly.get.bind fun s => ?_
  exact AddsOnly.bind (.drawLine nofun) fun _ => .moveDown _

theorem addsOnly_drawRows (hsize : d.preset.size .tableCellSize = .ok size) (rows : List Value) :
    AddsOnly (d.KeepsSlot slot) (d.drawRows slot rowHeight font size columns rows) := by
  induction rows with
  | nil => exact .pure ()
  | cons row rows ih =>
    refine (AddsOnly.ensureSpace d _).bind fun _ => (addsOnly_drawCells hsize 0 _).bind fun _ => ?_
    refine AddsOnly.get.bind fun s => ?_
    exact AddsOnly.bind (.record nofun) fun _ => (AddsOnly.moveDown _).bind fun _ => ih

/-- The width of the slots that columns of a table have. -/
def Setup.slotWidth (d : Setup Float) (columns : List Column) : Float :=
  d.geometry.contentWidth / Length.ofNat (max columns.length 1)

theorem addsOnly_drawTable (path : Option String) (columns : List Column) (showHeader : Bool) :
    AddsOnly (d.KeepsSlot (d.slotWidth columns)) (d.drawTable path columns showHeader) := by
  refine .read fun rows _ => .size fun rowHeight _ => ?_
  have hrows : AddsOnly (d.KeepsSlot (d.slotWidth columns)) (liftM (d.preset.font false false) >>= fun font =>
      d.size .tableCellSize >>= fun size =>
        d.drawRows (d.slotWidth columns) (Length.ofFloat rowHeight) font size columns rows) :=
    .read fun _ _ => .size fun _ hsize => addsOnly_drawRows hsize rows
  dsimp only
  split
  · exact addsOnly_drawHead.bind fun _ => hrows
  · exact hrows

end

/-- From a base of not too many halves the search for a size ends, with the size that is used and no other one: the
greatest of the base, the base less a half, less two halves and so on that is above the least size and at which text
is not too wide, or else the least size. Taking halves away is exact on the way. Whatever a table draws, its text with
characters has the size that is found for the slot of its column: it is not below the least size, and text keeps to its
slot where it is above it. -/
theorem search_finds_best_size (measure : Float → Float) (width : Float) {base : Float} {k : ℤ}
    (hbase : IsHalves base k) (hk : k.natAbs < 2 ^ 41) :
    (∀ n ≤ 2 ^ 52, IsHalves ((· - 0.5)^[n] base) (k - n)) ∧
      (∀ result, Search measure width base result ↔ result = fitSize measure width base) ∧
      IsBest measure width base (fitSize measure width base) ∧
      ∀ (d : Setup Float) (children : Draw Float Unit) (common : Common) (path : Option String)
        (columns : List Column) (showHeader : Bool) (s : Sheet Float),
        ContinuesWith (d.KeepsSlot (d.slotWidth columns)) (opsOf s.log)
          (after (d.drawKind children (.table common path columns showHeader)) s) := by
  have hsearch : Search measure width base (fitSize measure width base) := search_fitSize hbase hk
  refine ⟨fun n hn => isHalves_iterate hbase hk hn, fun result => ⟨hsearch.unique, ?_⟩, hsearch.isBest, ?_⟩
  · rintro rfl
    exact hsearch
  · intro d _ _ path columns showHeader s
    exact (addsOnly_drawTable path columns showHeader).continues s

def narrowColumns : List Column := List.replicate 12 { key := "name", label := "Term" }

/-- The state after terms are drawn in columns that have no room for all of them at the size of cells. -/
def narrowTerms : Sheet Float :=
  after (termsSetup.drawKind (pure ()) (.table { id := "terms" } (some "terms") narrowColumns true)) ⟨700.0, 1, #[]⟩

/-- The texts on a sheet, each once, with the size it is drawn at. -/
def sizesOf (s : Sheet Float) : List (String × Float) :=
  ((opsOf s.log).filterMap fun o => match o.shape with
    | .text content _ size => some (content, size)
    | _ => none).dedup

theorem best_size_of_autumn :
    Search (fun size => Face.regular.width size "Autumn".toList) 35.0 11.0 10.0 ∧
      IsBest (fun size => Face.regular.width size "Autumn".toList) 35.0 11.0 10.0 ∧
      sizesOf narrowTerms = [("Term", 10.0), ("Spring", 11.0), ("Autumn", 10.0)] ∧
      ∀ o ∈ opsOf narrowTerms.log, termsSetup.KeepsSlot (termsSetup.slotWidth narrowColumns) o := by
  have hbase : IsHalves 11.0 22 := by
    unfold IsHalves
    decide +kernel
  have hten : fitSize (fun size => Face.regular.width size "Autumn".toList) 35.0 (11.0 : Float) = 10.0 := by
    decide +kernel
  have hsizes : sizesOf narrowTerms = [("Term", 10.0), ("Spring", 11.0), ("Autumn", 10.0)] := by
    decide +kernel
  obtain ⟨-, hsearch, hbest, htable⟩ := search_finds_best_size
    (fun size => Face.regular.width size "Autumn".toList) 35.0 hbase (by decide)
  obtain ⟨new, hnew, hkeeps⟩ := htable termsSetup (pure ()) { id := "terms" } (some "terms") narrowColumns true
    ⟨700.0, 1, #[]⟩
  rw [hten] at hsearch hbest
  refine ⟨(hsearch 10.0).mpr rfl, hbest, hsizes, ?_⟩
  rw [narrowTerms, hnew]
  exact hkeeps

end DocTemplate.Page
