import Mathlib.Data.List.Chain
import DocTemplate.Proofs.Page.Wrapping

/-!
# Rows of words

Which words stand on which lines. Every line of a paragraph is a row of words or fragments of words; `rowsFrom`
keeps them apart where the text of the lines does not. Main statements: `words_stand_in_rows`, which holds
for any way to measure text, and `rows_are_full`, which needs widths that can be compared.
-/

namespace DocTemplate.Text

theorem ne_nil_of_mem_words {cs w : List Char} (h : w ∈ words cs) : w ≠ [] := by
  induction cs using words.induct with
  | case1 => cases h
  | case2 c hc => simp [words, hc] at h
  | case3 c hc => simp_all [words]
  | case4 c d cs hc ih =>
    rw [words, if_pos hc] at h
    exact ih h
  | case5 c d cs hc hd ih =>
    rw [words, if_neg hc, if_pos hd] at h
    rcases List.mem_cons.mp h with rfl | h
    · exact List.cons_ne_nil c []
    · exact ih h
  | case6 c d cs hc hd hw ih =>
    rw [words, if_neg hc, if_neg hd, hw] at h
    rw [List.mem_singleton.mp h]
    exact List.cons_ne_nil c []
  | case7 c d cs hc hd v vs hw ih =>
    rw [hw] at ih
    rw [words, if_neg hc, if_neg hd, hw] at h
    rcases List.mem_cons.mp h with rfl | h
    · exact List.cons_ne_nil c v
    · exact ih (List.mem_cons_of_mem v h)

end DocTemplate.Text

namespace DocTemplate.Page

open DocTemplate.Text

variable {α : Type} [Length α]

/-- A word on a line, or what stands on the line of a word that is broken: the number of the word in its
paragraph, and characters. -/
structure Fragment where
  word : Nat
  chars : List Char

/-- What a row of words and fragments of words looks like. -/
def rowText (row : List Fragment) : List Char := lineOf (row.map Fragment.chars)

/-- The fragments of words, in order. A word is whole, or it is broken because it is too wide for a line of its
own: its width is not at most that of the lines. For widths that are numbers this is to be wider; a width that cannot
be compared with that of the lines counts as too wide. `n` is the number of the first word. -/
inductive Divided (s : Slot α) : (n : Nat) → (ws : List (List Char)) → (fragments : List Fragment) → Prop
  | nil (n : Nat) : Divided s n [] []
  | whole {n : Nat} {w : List Char} {ws : List (List Char)} {fragments : List Fragment} (hw : w ≠ [])
    (rest : Divided s (n + 1) ws fragments) : Divided s n (w :: ws) (⟨n, w⟩ :: fragments)
  | broken {n : Nat} {ws : List (List Char)} {fragments : List Fragment} (pieces : List (List Char))
    (hne : ∀ p ∈ pieces, p ≠ []) (hwide : ¬s.measure pieces.flatten ≤ s.width)
    (rest : Divided s (n + 1) ws fragments) :
    Divided s n (pieces.flatten :: ws) (pieces.map (⟨n, ·⟩) ++ fragments)

/-- The rows of a paragraph hold its words in order. There is one row at least, and it is empty just for a
paragraph without words; a row holds no two fragments of one word. -/
structure Typeset (s : Slot α) (paragraph : List Char) (rows : List (List Fragment)) : Prop where
  blank : words paragraph = [] → rows = [[]]
  filled : words paragraph ≠ [] → rows ≠ [] ∧ ∀ row ∈ rows, row ≠ []
  divided : Divided s 0 (words paragraph) rows.flatten
  apart : ∀ row ∈ rows, row.Pairwise (·.word < ·.word)

/-- Why a row ends where the next one begins: with the whole of the next word it would be too wide or, where
a word is broken, with the next character of that word. -/
def Forced (wide : List Char → Prop) (ws : List (List Char)) (row next : List Fragment) : Prop :=
  ∃ p q, row.getLast? = some p ∧ next.head? = some q ∧
    (q.word = p.word + 1 ∧ (∃ w, ws[q.word]? = some w ∧ wide (rowText row ++ ' ' :: w)) ∨
      q.word = p.word ∧ ∃ c cs, q.chars = c :: cs ∧ wide (rowText row ++ [c]))

/-- Rows of a paragraph of which none ends early. -/
structure TypesetFully (s : Slot α) (paragraph : List Char) (rows : List (List Fragment)) : Prop
    extends Typeset s paragraph rows where
  forced : rows.IsChain (Forced (fun cs => s.width < s.measure cs) (words paragraph))

/-! ## The rows of words -/

def begunRow (row : List Fragment) : List (List Fragment) := if row.isEmpty then [] else [row]

/-- The rows of words, the first of which is begun; `n` is the number of the first word. -/
def rowsFrom (s : Slot α) (n : Nat) (row : List Fragment) : List (List Char) → List (List Fragment)
  | [] => begunRow row
  | w :: ws =>
    if s.fits (rowText (row ++ [⟨n, w⟩])) then rowsFrom s (n + 1) (row ++ [⟨n, w⟩]) ws
    else if s.fits w then begunRow row ++ rowsFrom s (n + 1) [⟨n, w⟩] ws
    else
      begunRow row ++ (splitWord s w).1.map (fun p => [⟨n, p⟩])
        ++ rowsFrom s (n + 1) [⟨n, (splitWord s w).2⟩] ws

theorem map_begunRow (row : List Fragment) : (begunRow row).map rowText = begun (row.map Fragment.chars) := by
  cases row <;> rfl

theorem flatten_begunRow (row : List Fragment) : (begunRow row).flatten = row := by
  cases row with
  | nil => rfl
  | cons p row => exact List.flatten_singleton

theorem flatten_singles (n : Nat) (pieces : List (List Char)) :
    (pieces.map fun p => [Fragment.mk n p]).flatten = pieces.map (⟨n, ·⟩) := by
  rw [← List.flatMap_def]
  exact List.flatMap_pure_eq_map _ pieces

theorem mem_begunRow {row r : List Fragment} : r ∈ begunRow row ↔ r = row ∧ row ≠ [] := by
  cases row <;> simp [begunRow]

/-- The rows look like the lines. -/
theorem map_rowsFrom (s : Slot α) (n : Nat) (row : List Fragment) (ws : List (List Char)) :
    (rowsFrom s n row ws).map rowText = wrapFrom s (row.map Fragment.chars) ws := by
  induction ws generalizing n row with
  | nil => exact map_begunRow row
  | cons w ws ih =>
    have htext : rowText (row ++ [⟨n, w⟩]) = lineOf (row.map Fragment.chars ++ [w]) := by
      rw [rowText, List.map_append, List.map_singleton]
    have hpieces : ∀ pieces : List (List Char),
        (pieces.map fun p => [Fragment.mk n p]).map rowText = pieces := by
      intro pieces
      rw [List.map_map]
      exact List.map_id' pieces
    rw [rowsFrom, wrapFrom, htext]
    split
    · rw [ih, List.map_append, List.map_singleton]
    · split
      · rw [List.map_append, map_begunRow, ih, List.map_singleton]
      · rw [List.map_append, List.map_append, map_begunRow, hpieces, ih, List.map_singleton]

/-! ## The pieces of a word -/

theorem splitFrom_ne_nil (s : Slot α) (piece cs : List Char) (h : piece ≠ [] ∨ cs ≠ []) :
    (∀ p ∈ (splitFrom s piece cs).1, p ≠ []) ∧ (splitFrom s piece cs).2 ≠ [] := by
  induction cs generalizing piece with
  | nil => exact ⟨nofun, h.resolve_right (absurd rfl)⟩
  | cons c cs ih =>
    rw [splitFrom]
    split
    · next hfull =>
      have hpiece : piece ≠ [] := by
        intro hnil
        simp [hnil] at hfull
      obtain ⟨hrest, hlast⟩ := ih [c] (.inl (List.cons_ne_nil c []))
      exact ⟨List.forall_mem_cons.mpr ⟨hpiece, hrest⟩, hlast⟩
    · exact ih (piece ++ [c]) (.inl (by simp))

/-- Text that has not been found too wide, or of which no character can be spared. -/
def Narrow (s : Slot α) (cs : List Char) : Prop :=
  s.fits cs ∨ ¬s.overflows cs ∨ cs.length ≤ 1

theorem splitFrom_narrow (s : Slot α) (piece cs : List Char) (h : Narrow s piece) :
    (∀ p ∈ (splitFrom s piece cs).1, Narrow s p) ∧ Narrow s (splitFrom s piece cs).2 := by
  induction cs generalizing piece with
  | nil => exact ⟨nofun, h⟩
  | cons c cs ih =>
    rw [splitFrom]
    split
    · obtain ⟨hrest, hlast⟩ := ih [c] (.inr (.inr le_rfl))
      exact ⟨List.forall_mem_cons.mpr ⟨h, hrest⟩, hlast⟩
    · next hroom =>
      refine ih (piece ++ [c]) ?_
      cases piece with
      | nil => exact .inr (.inr le_rfl)
      | cons d piece => exact .inr (.inl (by simpa using hroom))

theorem splitWord_narrow (s : Slot α) (w : List Char) :
    (∀ p ∈ (splitWord s w).1, Narrow s p) ∧ Narrow s (splitWord s w).2 :=
  splitFrom_narrow s [] w (.inr (.inr (Nat.zero_le 1)))

/-- The first character of each piece, and of the row that begins with the last one, did not fit behind the
piece before it. -/
theorem splitFrom_forced (s : Slot α) {wide : List Char → Prop} (hwide : ∀ cs, s.overflows cs → wide cs)
    (ws : List (List Char)) (n : Nat) {tail : List Fragment} {rest : List (List Fragment)} (piece cs : List Char)
    (hrest : ((⟨n, (splitFrom s piece cs).2⟩ :: tail) :: rest).IsChain (Forced wide ws)) :
    ∃ cs' tail' rest',
      (splitFrom s piece cs).1.map (fun p => [Fragment.mk n p]) ++
          (⟨n, (splitFrom s piece cs).2⟩ :: tail) :: rest = (⟨n, piece ++ cs'⟩ :: tail') :: rest' ∧
        ((⟨n, piece ++ cs'⟩ :: tail') :: rest').IsChain (Forced wide ws) := by
  induction cs generalizing piece with
  | nil => exact ⟨[], tail, rest, by simp [splitFrom], by simpa [splitFrom] using hrest⟩
  | cons c cs ih =>
    rw [splitFrom] at hrest ⊢
    split at hrest
    · next hfull =>
      obtain ⟨cs', tail', rest', heq, hchain⟩ := ih [c] hrest
      simp only [if_pos hfull]
      refine ⟨[], [], (⟨n, [c] ++ cs'⟩ :: tail') :: rest', ?_, ?_⟩
      · rw [List.map_cons, List.cons_append, heq, List.append_nil]
      · refine List.isChain_cons_cons.mpr ⟨?_, hchain⟩
        have hover : s.overflows (piece ++ [c]) := by
          simp only [Bool.and_eq_true] at hfull
          exact hfull.2
        refine ⟨_, _, rfl, rfl, .inr ⟨rfl, c, cs', rfl, hwide _ ?_⟩⟩
        simpa [rowText, lineOf, join] using hover
    · next hroom =>
      obtain ⟨cs', tail', rest', heq, hchain⟩ := ih (piece ++ [c]) hrest
      rw [List.append_assoc] at heq hchain
      exact ⟨[c] ++ cs', tail', rest', by rw [if_neg hroom]; exact heq, hchain⟩

/-! ## What the rows hold -/

theorem divided_rowsFrom (s : Slot α) (n : Nat) (row : List Fragment) {ws : List (List Char)}
    (hws : ∀ w ∈ ws, w ≠ []) :
    ∃ fragments, (rowsFrom s n row ws).flatten = row ++ fragments ∧ Divided s n ws fragments := by
  induction ws generalizing n row with
  | nil => exact ⟨[], by rw [rowsFrom, flatten_begunRow, List.append_nil], .nil n⟩
  | cons w ws ih =>
    obtain ⟨hw, hws⟩ := List.forall_mem_cons.mp hws
    rw [rowsFrom]
    split
    · obtain ⟨fragments, hfragments, hdivided⟩ := ih (n + 1) (row ++ [⟨n, w⟩]) hws
      exact ⟨⟨n, w⟩ :: fragments, by rw [hfragments, List.append_assoc]; rfl, .whole hw hdivided⟩
    · split
      · obtain ⟨fragments, hfragments, hdivided⟩ := ih (n + 1) [⟨n, w⟩] hws
        refine ⟨⟨n, w⟩ :: fragments, ?_, .whole hw hdivided⟩
        rw [List.flatten_append, flatten_begunRow, hfragments]
        rfl
      · next hwide =>
        obtain ⟨fragments, hfragments, hdivided⟩ := ih (n + 1) [⟨n, (splitWord s w).2⟩] hws
        have hflatten : ((splitWord s w).1 ++ [(splitWord s w).2]).flatten = w := by
          rw [List.flatten_append, List.flatten_singleton]
          exact flatten_splitFrom s [] w
        obtain ⟨hfull, hlast⟩ := splitFrom_ne_nil s [] w (.inr hw)
        have hne : ∀ p ∈ (splitWord s w).1 ++ [(splitWord s w).2], p ≠ [] :=
          List.forall_mem_append.mpr ⟨hfull, List.forall_mem_singleton.mpr hlast⟩
        have hbroken := Divided.broken (n := n) _ hne (by simpa [Slot.fits, hflatten] using hwide) hdivided
        rw [hflatten] at hbroken
        refine ⟨_, ?_, hbroken⟩
        rw [List.flatten_append, List.flatten_append, flatten_begunRow, flatten_singles, hfragments,
          List.map_append, List.append_assoc, List.append_assoc]
        rfl

/-- A row that ends with the word before the `n`-th one. -/
structure IsRow (s : Slot α) (n : Nat) (row : List Fragment) : Prop where
  ne_nil : row ≠ []
  last : ∀ p, row.getLast? = some p → p.word + 1 = n
  below : ∀ p ∈ row, p.word < n
  apart : row.Pairwise (·.word < ·.word)
  narrow : Narrow s (rowText row)

theorem IsRow.single {s : Slot α} (n : Nat) {chars : List Char} (h : Narrow s chars) :
    IsRow s (n + 1) [⟨n, chars⟩] where
  ne_nil := List.cons_ne_nil _ _
  last p hp := by
    obtain rfl : Fragment.mk n chars = p := Option.some.inj hp
    rfl
  below := by simp
  apart := List.pairwise_singleton _ _
  narrow := h

theorem IsRow.add {s : Slot α} {n : Nat} {row : List Fragment} {w : List Char} (hrow : row = [] ∨ IsRow s n row)
    (hfits : s.fits (rowText (row ++ [⟨n, w⟩]))) : IsRow s (n + 1) (row ++ [⟨n, w⟩]) where
  ne_nil := by simp
  last p hp := by
    obtain rfl : Fragment.mk n w = p := by simpa using hp
    rfl
  below := by
    refine List.forall_mem_append.mpr ⟨fun p hp => ?_, by simp⟩
    rcases hrow with rfl | hrow
    · cases hp
    · exact Nat.lt_succ_of_lt (hrow.below p hp)
  apart := by
    rcases hrow with rfl | hrow
    · exact List.pairwise_singleton _ _
    · exact List.pairwise_append.mpr ⟨hrow.apart, List.pairwise_singleton _ _, by simpa using hrow.below⟩
  narrow := .inl hfits

theorem isRow_rowsFrom (s : Slot α) {n : Nat} {row : List Fragment} (ws : List (List Char))
    (hrow : row = [] ∨ IsRow s n row) : ∀ r ∈ rowsFrom s n row ws, ∃ m, IsRow s m r := by
  have hbegun : ∀ {n row}, row = [] ∨ IsRow s n row → ∀ r ∈ begunRow row, ∃ m, IsRow s m r := by
    intro n row hrow r hr
    obtain ⟨rfl, hne⟩ := mem_begunRow.mp hr
    exact ⟨n, hrow.resolve_left hne⟩
  induction ws generalizing n row with
  | nil => exact hbegun hrow
  | cons w ws ih =>
    rw [rowsFrom]
    split
    · next hfits => exact ih (.inr (.add hrow hfits))
    · split
      · next hword => exact List.forall_mem_append.mpr ⟨hbegun hrow, ih (.inr (.single n (.inl hword)))⟩
      · obtain ⟨hfull, hlast⟩ := splitWord_narrow s w
        refine List.forall_mem_append.mpr ⟨List.forall_mem_append.mpr ⟨hbegun hrow, ?_⟩,
          ih (.inr (.single n hlast))⟩
        exact List.forall_mem_map.mpr fun p hp => ⟨n + 1, .single n (hfull p hp)⟩

/-! ## Why rows end -/

theorem rowsFrom_of_begun (s : Slot α) (n : Nat) {row : List Fragment} (ws : List (List Char))
    (hrow : row ≠ []) :
    ∃ tail rest, rowsFrom s n row ws = (row ++ tail) :: rest := by
  have hbegun : ∀ {row : List Fragment}, row ≠ [] → begunRow row = [row ++ []] := by
    intro row hrow
    rw [begunRow, if_neg (by simpa using hrow), List.append_nil]
  induction ws generalizing n row with
  | nil => exact ⟨[], [], hbegun hrow⟩
  | cons w ws ih =>
    rw [rowsFrom]
    split
    · obtain ⟨tail, rest, h⟩ := ih (n + 1) (List.append_ne_nil_of_left_ne_nil hrow [⟨n, w⟩])
      exact ⟨⟨n, w⟩ :: tail, rest, by rw [h, List.append_assoc]; rfl⟩
    · split
      · exact ⟨[], _, by rw [hbegun hrow]; rfl⟩
      · exact ⟨[], _, by rw [hbegun hrow]; rfl⟩

theorem rowText_concat {row : List Fragment} (hrow : row ≠ []) (p : Fragment) :
    rowText (row ++ [p]) = rowText row ++ ' ' :: p.chars := by
  rw [rowText, List.map_append, List.map_singleton, lineOf, join_concat (by simpa using hrow),
    List.append_assoc]
  rfl

/-- A row that ends because the next word does not fit on it. -/
theorem Forced.word {s : Slot α} {wide : List Char → Prop} (hwide : ∀ cs, ¬s.fits cs → wide cs)
    {ws : List (List Char)} {n : Nat} {row next : List Fragment} {w chars : List Char} (hrow : IsRow s n row)
    (hw : ws[n]? = some w) (hnext : next.head? = some ⟨n, chars⟩)
    (hfits : ¬s.fits (rowText (row ++ [⟨n, w⟩]))) : Forced wide ws row next := by
  have hlast := List.getLast?_eq_getLast_of_ne_nil hrow.ne_nil
  refine ⟨_, _, hlast, hnext, .inl ⟨(hrow.last _ hlast).symm, w, hw, hwide _ ?_⟩⟩
  rwa [← rowText_concat hrow.ne_nil ⟨n, w⟩]

theorem isChain_begunRow {R : List Fragment → List Fragment → Prop} {row next : List Fragment}
    {rest : List (List Fragment)} (hrow : row ≠ [] → R row next) (hrest : (next :: rest).IsChain R) :
    (begunRow row ++ next :: rest).IsChain R := by
  cases row with
  | nil => exact hrest
  | cons p row => exact List.isChain_cons_cons.mpr ⟨hrow (List.cons_ne_nil p row), hrest⟩

/-- Every row ends because what follows does not fit on it; `all` are the words of the paragraph. -/
theorem isChain_rowsFrom (s : Slot α) {wide : List Char → Prop} (hover : ∀ cs, s.overflows cs → wide cs)
    (hunfit : ∀ cs, ¬s.fits cs → wide cs) (all : List (List Char)) {n : Nat} {row : List Fragment}
    {ws : List (List Char)} (hws : all.drop n = ws) (hrow : row = [] ∨ IsRow s n row) :
    (rowsFrom s n row ws).IsChain (Forced wide all) := by
  induction ws generalizing n row with
  | nil =>
    rw [rowsFrom, begunRow]
    split
    · exact .nil
    · exact .singleton row
  | cons w ws ih =>
    have hw : all[n]? = some w := by rw [← List.head?_drop, hws, List.head?_cons]
    have hws' : all.drop (n + 1) = ws := by rw [← List.tail_drop, hws, List.tail_cons]
    rw [rowsFrom]
    split
    · next hfits => exact ih hws' (.inr (.add hrow hfits))
    · next hfits =>
      have hforced : ∀ chars tail, row ≠ [] → Forced wide all row (⟨n, chars⟩ :: tail) :=
        fun chars tail hne => .word hunfit (hrow.resolve_left hne) hw rfl hfits
      split
      · next hword =>
        have hrest := ih hws' (.inr (.single n (.inl hword)))
        obtain ⟨tail, rest, hrows⟩ := rowsFrom_of_begun s (n + 1) ws (List.cons_ne_nil (Fragment.mk n w) [])
        rw [hrows, List.singleton_append] at hrest ⊢
        exact isChain_begunRow (hforced w tail) hrest
      · have hrest := ih hws' (.inr (.single n (splitWord_narrow s w).2))
        obtain ⟨tail, rest, hrows⟩ :=
          rowsFrom_of_begun s (n + 1) ws (List.cons_ne_nil (Fragment.mk n (splitWord s w).2) [])
        rw [hrows, List.singleton_append] at hrest ⊢
        obtain ⟨cs, tail', rest', heq, hchain⟩ := splitFrom_forced s hover all n [] w hrest
        rw [List.append_assoc, splitWord, heq]
        exact isChain_begunRow (hforced _ tail') hchain

/-! ## Paragraphs -/

/-- The rows of a paragraph; one without words is an empty row. -/
def rowsOf (s : Slot α) (paragraph : List Char) : List (List Fragment) :=
  if words paragraph = [] then [[]] else rowsFrom s 0 [] (words paragraph)

theorem map_rowsOf (s : Slot α) (paragraph : List Char) :
    (rowsOf s paragraph).map rowText = wrapParagraph s paragraph := by
  rw [rowsOf, wrapParagraph]
  split
  · next hnil => simp only [hnil]; rfl
  · next hwords =>
    split
    · next hnil => exact absurd hnil hwords
    · exact map_rowsFrom s 0 [] (words paragraph)

theorem typeset_rowsOf (s : Slot α) (paragraph : List Char) : Typeset s paragraph (rowsOf s paragraph) := by
  rw [rowsOf]
  split
  · next hnil => exact ⟨fun _ => rfl, absurd hnil, by rw [hnil]; exact .nil 0, by simp⟩
  · next hwords =>
    have hrow := isRow_rowsFrom s (n := 0) (words paragraph) (.inl rfl)
    obtain ⟨fragments, hfragments, hdivided⟩ :=
      divided_rowsFrom s 0 [] fun _ hw => ne_nil_of_mem_words hw
    refine ⟨fun hnil => absurd hnil hwords, fun _ => ⟨fun hrows => ?_, fun row hmem => ?_⟩, ?_,
      fun row hmem => ?_⟩
    · have hlines := wrapFrom_ne_nil s [] (words paragraph) (.inr hwords)
      have hmap := map_rowsFrom s 0 [] (words paragraph)
      rw [hrows] at hmap
      exact hlines hmap.symm
    · obtain ⟨_, hrow⟩ := hrow row hmem
      exact hrow.ne_nil
    · rw [hfragments]
      exact hdivided
    · obtain ⟨_, hrow⟩ := hrow row hmem
      exact hrow.apart

theorem isChain_rowsOf (s : Slot α) {wide : List Char → Prop} (hover : ∀ cs, s.overflows cs → wide cs)
    (hunfit : ∀ cs, ¬s.fits cs → wide cs) (paragraph : List Char) :
    (rowsOf s paragraph).IsChain (Forced wide (words paragraph)) := by
  rw [rowsOf]
  split
  · exact .singleton []
  · exact isChain_rowsFrom s hover hunfit _ rfl (.inl rfl)

theorem narrow_of_mem_wrapParagraph (s : Slot α) {paragraph line : List Char}
    (h : line ∈ wrapParagraph s paragraph) : Narrow s line := by
  rw [← map_rowsOf, rowsOf] at h
  obtain ⟨row, hmem, rfl⟩ := List.mem_map.mp h
  split at hmem
  · rw [List.mem_singleton.mp hmem]
    exact .inr (.inr (Nat.zero_le 1))
  · obtain ⟨_, hrow⟩ := isRow_rowsFrom s _ (.inl rfl) row hmem
    exact hrow.narrow

/-- The rows of all paragraphs of a text, one paragraph after the other. -/
def blocksOf (s : Slot α) (text : List Char) : List (List (List Fragment)) := (pieces '\n' text).map (rowsOf s)

theorem wrap_eq (s : Slot α) (text : List Char) : wrap s text = (blocksOf s text).flatten.map rowText := by
  rw [wrap, blocksOf, ← List.flatMap_def, List.map_flatMap]
  simp only [map_rowsOf]

theorem forall₂_blocksOf (s : Slot α) (text : List Char) {R : List Char → List (List Fragment) → Prop}
    (h : ∀ paragraph, R paragraph (rowsOf s paragraph)) :
    List.Forall₂ R (pieces '\n' text) (blocksOf s text) :=
  List.forall₂_map_right_iff.mpr (List.forall₂_same.mpr fun paragraph _ => h paragraph)

/-- However text is measured, its lines hold all of it but its blanks. The lines of the paragraphs follow one
another; each paragraph has a line at least, a blank one just an empty line. On the lines of a paragraph stand
its words in order, each of them whole, or broken if it is too wide for a line of its own, which is wider than a line
wherever the two widths are numbers. -/
theorem words_stand_in_rows (s : Slot α) (text : List Char) :
    squeeze (wrap s text).flatten = squeeze text ∧
      ∃ blocks, wrap s text = blocks.flatten.map rowText ∧
        List.Forall₂ (Typeset s) (pieces '\n' text) blocks :=
  ⟨squeeze_wrap s text, blocksOf s text, wrap_eq s text, forall₂_blocksOf s text (typeset_rowsOf s)⟩

/-- Where every width can be compared with the width of the lines, no line is wider, unless it is empty or a
single character; and wherever a line of a paragraph is followed by another one, it would be wider together
with the whole of the next word or, within a broken word, with the next character. -/
theorem rows_are_full (s : Slot α) (htotal : ∀ cs, s.measure cs ≤ s.width ∨ s.width < s.measure cs)
    (text : List Char) :
    (∀ line ∈ wrap s text, s.measure line ≤ s.width ∨ line.length ≤ 1) ∧
      ∃ blocks, wrap s text = blocks.flatten.map rowText ∧
        List.Forall₂ (TypesetFully s) (pieces '\n' text) blocks := by
  have hover : ∀ cs, s.overflows cs → s.width < s.measure cs := fun cs h => of_decide_eq_true h
  have hunfit : ∀ cs, ¬s.fits cs → s.width < s.measure cs := fun cs h =>
    (htotal cs).resolve_left fun hle => h (decide_eq_true hle)
  have hblock : ∀ paragraph, TypesetFully s paragraph (rowsOf s paragraph) := fun paragraph =>
    ⟨typeset_rowsOf s paragraph, isChain_rowsOf s hover hunfit paragraph⟩
  refine ⟨fun line hline => ?_, blocksOf s text, wrap_eq s text, forall₂_blocksOf s text hblock⟩
  obtain ⟨paragraph, _, hmem⟩ := List.mem_flatMap.mp hline
  rcases narrow_of_mem_wrapParagraph s hmem with hfits | hroom | hshort
  · exact .inl (of_decide_eq_true hfits)
  · exact .inl ((htotal line).resolve_right fun hlt => hroom (decide_eq_true hlt))
  · exact .inr hshort

/-- Lines of four characters, all of one width. What is longer is wider, however long it is. -/
def typewriter : Slot Float := ⟨fun cs => ([0.0, 6.0, 12.0, 18.0, 24.0][cs.length]?).getD 30.0, 24.0⟩

theorem typewriter_total (cs : List Char) :
    typewriter.measure cs ≤ typewriter.width ∨ typewriter.width < typewriter.measure cs := by
  have hwidths : ∀ x ∈ ([0.0, 6.0, 12.0, 18.0, 24.0] : List Float), x ≤ 24.0 ∨ 24.0 < x := by
    decide +kernel
  have hbeyond : (24.0 : Float) < 30.0 := by decide +kernel
  simp only [typewriter]
  cases hwidth : ([0.0, 6.0, 12.0, 18.0, 24.0] : List Float)[cs.length]? with
  | none => exact .inr hbeyond
  | some x => exact hwidths x (List.mem_of_getElem? hwidth)

theorem typewriter_rows_are_full :
    (∀ cs, typewriter.measure cs ≤ typewriter.width ∨ typewriter.width < typewriter.measure cs) ∧
      wrap typewriter "on Saturday".toList = ["on".toList, "Satu".toList, "rday".toList] ∧
      (∀ line ∈ wrap typewriter "on Saturday".toList,
        typewriter.measure line ≤ typewriter.width ∨ line.length ≤ 1) ∧
      ∃ blocks, wrap typewriter "on Saturday".toList = blocks.flatten.map rowText ∧
        List.Forall₂ (TypesetFully typewriter) (pieces '\n' "on Saturday".toList) blocks :=
  ⟨typewriter_total, by decide +kernel, rows_are_full typewriter typewriter_total _⟩

end DocTemplate.Page
