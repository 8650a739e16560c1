import DocTemplate.Page.Drawing

/-!
# What lines keep

Breaking text into lines moves blanks and nothing else: without its blanks, the text is what the lines
hold, one after the other.
-/

namespace DocTemplate.Text

/-- Text without its blanks. -/
def squeeze (cs : List Char) : List Char := cs.filter (!isBlank ·)

@[simp] theorem squeeze_nil : squeeze [] = [] := rfl

@[simp] theorem squeeze_append (a b : List Char) : squeeze (a ++ b) = squeeze a ++ squeeze b :=
  List.filter_append ..

theorem squeeze_cons_blank {c : Char} (h : isBlank c) (cs : List Char) :
    squeeze (c :: cs) = squeeze cs :=
  List.filter_cons_of_neg (by simpa using h)

theorem squeeze_cons_of_not_blank {c : Char} (h : ¬isBlank c) (cs : List Char) :
    squeeze (c :: cs) = c :: squeeze cs :=
  List.filter_cons_of_pos (by simpa using h)

/-- The words of a text hold what is not blank in it. -/
theorem flatten_words (cs : List Char) : (words cs).flatten = squeeze cs := by
  induction cs using words.induct with
  | case1 => rfl
  | case2 c hc => simp [words, hc, squeeze_cons_blank hc]
  | case3 c hc => simp [words, hc, squeeze_cons_of_not_blank hc]
  | case4 c d cs hc ih => rw [words, if_pos hc, ih, squeeze_cons_blank hc]
  | case5 c d cs hc hd ih =>
    rw [words, if_neg hc, if_pos hd, List.flatten_cons, ih, squeeze_cons_of_not_blank hc]
    rfl
  | case6 c d cs hc hd hw ih =>
    rw [hw] at ih
    rw [words, if_neg hc, if_neg hd, hw, squeeze_cons_of_not_blank hc, ← ih]
    rfl
  | case7 c d cs hc hd w ws hw ih =>
    rw [hw] at ih
    rw [words, if_neg hc, if_neg hd, hw, squeeze_cons_of_not_blank hc, ← ih]
    rfl

@[simp] theorem squeeze_squeeze (cs : List Char) : squeeze (squeeze cs) = squeeze cs := by
  simp [squeeze, List.filter_filter]

theorem squeeze_join {separator : List Char} (h : squeeze separator = []) (ps : List (List Char)) :
    squeeze (join separator ps) = squeeze ps.flatten := by
  induction ps using join.induct with
  | case1 => rfl
  | case2 p => simp [join]
  | case3 p q ps ih => simp [join, h, ih]

theorem squeeze_flatten_pieces {separator : Char} (h : isBlank separator) (cs : List Char) :
    squeeze (pieces separator cs).flatten = squeeze cs := by
  have hseparator : squeeze [separator] = [] := squeeze_cons_blank h []
  rw [← squeeze_join hseparator, join_pieces]

end DocTemplate.Text

namespace DocTemplate.Page

open DocTemplate.Text

variable {α : Type} [Length α]

/-- The pieces of a word make up the word. -/
theorem flatten_splitFrom (s : Slot α) (piece cs : List Char) :
    (splitFrom s piece cs).1.flatten ++ (splitFrom s piece cs).2 = piece ++ cs := by
  induction cs generalizing piece with
  | nil => simp [splitFrom]
  | cons c cs ih =>
    rw [splitFrom]
    split
    · rw [List.flatten_cons, List.append_assoc, ih [c]]
      rfl
    · rw [ih (piece ++ [c]), List.append_assoc]
      rfl

theorem squeeze_lineOf (ws : List (List Char)) : squeeze (lineOf ws) = squeeze ws.flatten :=
  squeeze_join rfl ws

theorem squeeze_begun (line : List (List Char)) :
    squeeze (begun line).flatten = squeeze line.flatten := by
  cases line with
  | nil => rfl
  | cons w ws => simpa [begun] using squeeze_lineOf (w :: ws)

theorem squeeze_wrapFrom (s : Slot α) (line ws : List (List Char)) :
    squeeze (wrapFrom s line ws).flatten = squeeze (line ++ ws).flatten := by
  induction ws generalizing line with
  | nil => rw [wrapFrom, squeeze_begun, List.append_nil]
  | cons w ws ih =>
    rw [wrapFrom]
    split
    · rw [ih, List.append_assoc, List.singleton_append]
    · split
      · rw [List.flatten_append, squeeze_append, squeeze_begun, ih, ← squeeze_append,
          ← List.flatten_append, List.singleton_append]
      · have hword := congrArg squeeze (flatten_splitFrom s [] w)
        rw [squeeze_append, List.nil_append] at hword
        simp only [List.flatten_append, squeeze_append, squeeze_begun, ih, splitWord,
          List.flatten_cons, List.flatten_nil, List.append_nil, ← hword, List.append_assoc]

theorem squeeze_wrapParagraph (s : Slot α) (paragraph : List Char) :
    squeeze (wrapParagraph s paragraph).flatten = squeeze paragraph := by
  have hwords := flatten_words paragraph
  rw [wrapParagraph]
  split
  · next hnil =>
    rw [hnil] at hwords
    exact hwords
  · rw [squeeze_wrapFrom, List.nil_append, hwords, squeeze_squeeze]

/-- Lines hold all of a text but its blanks, in order, whatever their width. -/
theorem squeeze_wrap (s : Slot α) (text : List Char) :
    squeeze (wrap s text).flatten = squeeze text := by
  have hpieces : ∀ ps : List (List Char),
      squeeze (ps.flatMap (wrapParagraph s)).flatten = squeeze ps.flatten := by
    intro ps
    induction ps with
    | nil => rfl
    | cons p ps ih =>
      rw [List.flatMap_cons, List.flatten_append, squeeze_append, squeeze_wrapParagraph, ih,
        List.flatten_cons, squeeze_append]
  rw [wrap, hpieces, squeeze_flatten_pieces (by decide)]

/-- The lines of a text in a font, if there are any, hold all of it but its blanks. -/
theorem squeeze_linesIn {font : String} {size width : α} {cs : List Char} {lines : List (List Char)}
    (h : linesIn font size width cs = .ok lines) : squeeze lines.flatten = squeeze cs := by
  rw [linesIn] at h
  split at h
  · obtain rfl := Except.ok.inj h
    exact squeeze_wrap _ cs
  · split at h
    · next hblank =>
      obtain rfl := Except.ok.inj h
      have hcs : squeeze cs = [] := by simpa [squeeze] using hblank
      rw [hcs]
      induction pieces '\n' cs with
      | nil => rfl
      | cons p ps ih => exact ih
    · cases h

end DocTemplate.Page
