import DocTemplate.Proofs.Html.Grammar
import DocTemplate.Proofs.Number.Alphabet

/-!
# Reading markup

A reader of markup that knows nothing of how markup is written: it finds tags and characters, takes entities
for the characters that they stand for, and makes out the content of a document from its tags. What it finds in
the text of a tree is put together here from what it finds in the parts of the tree.
-/

namespace DocTemplate.Html

open DocTemplate.Number

/-- A tag, or a character of a text. -/
inductive Mark
  | opening (name : String)
  | closing (name : String)
  | void (name : String)
  | char (c : Char)
deriving DecidableEq, Repr

/-- The tag with a text between its angle brackets. -/
def readTag (inside : List Char) : Mark :=
  match inside with
  | '/' :: name => .closing (String.ofList name)
  | _ =>
    let name := String.ofList (inside.takeWhile (· != ' '))
    if inside.getLast? = some '/' then .void name else .opening name

/-- The tags and characters of a text. -/
def readMarks : List Char → List Mark
  | [] => []
  | c :: cs =>
    if c = '<' then
      readTag (cs.takeWhile (· != '>')) :: readMarks ((cs.dropWhile (· != '>')).drop 1)
    else
      match entities.find? fun e => e.2.isPrefixOf (c :: cs) with
      | some e => .char e.1 :: readMarks (cs.drop (e.2.length - 1))
      | none => .char c :: readMarks cs
termination_by cs => cs.length
decreasing_by
  · have := (List.dropWhile_sublist (p := (· != '>')) (l := cs)).length_le
    simp only [List.length_drop, List.length_cons]
    omega
  · simp only [List.length_drop, List.length_cons]
    omega
  · simp

/-! ## Reading texts -/

theorem readMarks_entity {e : Char × List Char} (he : e ∈ entities) (rest : List Char) :
    readMarks (e.2 ++ rest) = .char e.1 :: readMarks rest := by
  simp only [entities, List.mem_cons, List.not_mem_nil, or_false] at he
  rcases he with rfl | rfl | rfl | rfl | rfl <;>
    simp [readMarks, entities, List.find?, List.isPrefixOf]

theorem readMarks_plain {c : Char} (hc : c ∉ entities.map (·.1)) (rest : List Char) :
    readMarks (c :: rest) = .char c :: readMarks rest := by
  simp only [entities, List.map_cons, List.map_nil, List.mem_cons, not_or] at hc
  obtain ⟨hamp, hlt, -⟩ := hc
  have hne : ('&' == c) = false := by simpa using Ne.symm hamp
  have hnone : (entities.find? fun e => e.2.isPrefixOf (c :: rest)) = none := by
    simp [entities, List.isPrefixOf, hne]
  rw [readMarks, if_neg hlt, hnone]

/-- Escaped text is read as the text. -/
theorem readMarks_escape (cs rest : List Char) :
    readMarks (escape cs ++ rest) = cs.map .char ++ readMarks rest := by
  induction cs with
  | nil => rfl
  | cons c cs ih =>
    rw [escape, List.flatMap_cons, List.append_assoc]
    rcases escapeChar_cases c with ⟨hc, h⟩ | ⟨e, he, rfl, h⟩
    · rw [h, List.singleton_append, readMarks_plain hc]
      exact congrArg (Mark.char c :: ·) ih
    · rw [h, readMarks_entity he]
      exact congrArg (Mark.char e.1 :: ·) ih

/-! ## Reading tags -/

theorem readMarks_tag {inside : List Char} (h : '>' ∉ inside) (rest : List Char) :
    readMarks ('<' :: (inside ++ '>' :: rest)) = readTag inside :: readMarks rest := by
  have hall : ∀ c ∈ inside, (c != '>') = true := fun c hc => by
    simpa using ne_of_mem_of_not_mem hc h
  rw [readMarks, if_pos rfl, List.takeWhile_append_of_pos hall, List.dropWhile_append_of_pos hall]
  simp

theorem notMem_printOpening {name : String} (h : '>' ∉ name.toList) (attributes : Attributes) :
    '>' ∉ printOpening name attributes := by
  intro hmem
  rcases List.mem_append.mp hmem with hmem | hmem
  · exact h hmem
  · obtain ⟨a, -, hmem⟩ := List.mem_flatMap.mp hmem
    have hname : '>' ∉ a.1.name.toList := by cases a.1 <;> decide
    simp only [printAttribute, List.cons_append, List.mem_cons, List.mem_append, List.not_mem_nil,
      or_false] at hmem
    rcases hmem with hmem | ((hmem | hmem | hmem) | hmem) | hmem
    · cases hmem
    · exact hname hmem
    · cases hmem
    · cases hmem
    · exact (mem_escape hmem).2.1 rfl
    · cases hmem

/-- A name of a tag: it has neither blanks nor angle brackets nor slashes, and is not empty. -/
def IsName (name : String) : Prop :=
  name.toList ≠ [] ∧ ∀ c ∈ name.toList, c ≠ ' ' ∧ c ≠ '/' ∧ c ≠ '>'

instance (name : String) : Decidable (IsName name) :=
  decidable_of_iff (name.toList ≠ [] ∧ name.toList.all fun c => c != ' ' && c != '/' && c != '>')
    (by simp [IsName, and_assoc])

theorem isName_voidTag (t : VoidTag) : IsName t.name := by
  cases t <;> decide

/-- The name of a heading, whatever number its level is. -/
theorem isName_h {level : String} (h : NumberText level.toList) : IsName (Tag.h level).name := by
  have hlist : (Tag.h level).name.toList = 'h' :: level.toList := by
    rw [Tag.name, String.toList_append]
    rfl
  rw [IsName, hlist]
  refine ⟨List.cons_ne_nil _ _, fun c hc => ?_⟩
  rcases List.mem_cons.mp hc with rfl | hc
  · decide
  · exact ⟨ne_of_mem_of_not_mem hc (h.not_markup ' ' (by decide)),
      ne_of_mem_of_not_mem hc (h.not_markup '/' (by decide)),
      ne_of_mem_of_not_mem hc (h.not_markup '>' (by decide))⟩

theorem takeWhile_printOpening {name : String} (h : IsName name) (attributes : Attributes)
    (rest : List Char) (hrest : rest = [] ∨ ∃ cs, rest = ' ' :: cs) :
    (printOpening name attributes ++ rest).takeWhile (· != ' ') = name.toList := by
  have hall : ∀ c ∈ name.toList, (c != ' ') = true := fun c hc => by simpa using (h.2 c hc).1
  rw [printOpening, List.append_assoc, List.takeWhile_append_of_pos hall]
  cases attributes with
  | nil => rcases hrest with rfl | ⟨cs, rfl⟩ <;> simp
  | cons a attributes => simp [printAttribute]

theorem head?_printOpening {name : String} (h : IsName name) (attributes : Attributes)
    (rest : List Char) : ∀ cs, printOpening name attributes ++ rest ≠ '/' :: cs := by
  obtain ⟨hne, hall⟩ := h
  intro cs hcs
  rw [printOpening] at hcs
  cases hname : name.toList with
  | nil => exact hne hname
  | cons c name =>
    rw [hname] at hcs hall
    exact (hall c List.mem_cons_self).2.1 (List.cons.inj hcs).1

theorem getLast?_printOpening {name : String} (h : IsName name) (attributes : Attributes) :
    (printOpening name attributes).getLast? ≠ some '/' := by
  rcases List.eq_nil_or_concat attributes with rfl | ⟨init, a, rfl⟩
  · simp only [printOpening, List.flatMap_nil, List.append_nil]
    exact fun hlast => (h.2 _ (List.mem_of_getLast? hlast)).2.1 rfl
  · have hquote : printOpening name (init.concat a) =
        name.toList ++ init.flatMap printAttribute ++ (' ' :: a.1.name.toList ++ ['=', '"']
          ++ escape a.2.toList) ++ ['"'] := by
      simp [printOpening, printAttribute, List.concat_eq_append]
    rw [hquote, List.getLast?_concat]
    decide

theorem readTag_opening {name : String} (h : IsName name) (attributes : Attributes) :
    readTag (printOpening name attributes) = .opening name := by
  have htake := takeWhile_printOpening h attributes [] (.inl rfl)
  have hhead := head?_printOpening h attributes []
  rw [List.append_nil] at htake hhead
  unfold readTag
  split
  · next hcs => exact absurd hcs (hhead _)
  · rw [htake, if_neg (getLast?_printOpening h attributes), String.ofList_toList]

/-- What follows the name in a tag is passed over. -/
theorem readTag_quoted {name : String} (h : IsName name) (cs : List Char) :
    readTag (name.toList ++ ' ' :: (cs ++ ['"'])) = .opening name := by
  have hall : ∀ c ∈ name.toList, (c != ' ') = true := fun c hc => by simpa using (h.2 c hc).1
  have hhead := head?_printOpening h [] (' ' :: (cs ++ ['"']))
  rw [printOpening, List.flatMap_nil, List.append_nil] at hhead
  have hlast : (name.toList ++ ' ' :: (cs ++ ['"'])).getLast? = some '"' := by
    rw [← List.cons_append, ← List.append_assoc, List.getLast?_concat]
  unfold readTag
  split
  · next hcs => exact absurd hcs (hhead _)
  · rw [List.takeWhile_append_of_pos hall, hlast]
    simp

theorem readTag_void {name : String} (h : IsName name) (attributes : Attributes) :
    readTag (printOpening name attributes ++ [' ', '/']) = .void name := by
  have htake := takeWhile_printOpening h attributes [' ', '/'] (.inr ⟨_, rfl⟩)
  have hhead := head?_printOpening h attributes [' ', '/']
  unfold readTag
  split
  · next hcs => exact absurd hcs (hhead _)
  · rw [htake, if_pos (by simp), String.ofList_toList]

theorem readMarks_closing {name : String} (h : IsName name) (rest : List Char) :
    readMarks ('<' :: '/' :: (name.toList ++ '>' :: rest)) = .closing name :: readMarks rest := by
  have hname : '>' ∉ '/' :: name.toList := by
    intro hmem
    rcases List.mem_cons.mp hmem with hmem | hmem
    · cases hmem
    · exact (h.2 _ hmem).2.2 rfl
  have hread := readMarks_tag hname rest
  rw [List.cons_append] at hread
  rw [hread, readTag, String.ofList_toList]

theorem readMarks_opening {name : String} (h : IsName name) (attributes : Attributes)
    (rest : List Char) :
    readMarks ('<' :: (printOpening name attributes ++ '>' :: rest)) = .opening name :: readMarks rest := by
  rw [readMarks_tag (notMem_printOpening (fun hmem => (h.2 _ hmem).2.2 rfl) attributes),
    readTag_opening h]

theorem readMarks_void {name : String} (h : IsName name) (attributes : Attributes)
    (rest : List Char) :
    readMarks ('<' :: (printOpening name attributes ++ [' ', '/'] ++ '>' :: rest)) =
      .void name :: readMarks rest := by
  have hname : '>' ∉ printOpening name attributes ++ [' ', '/'] := by
    intro hmem
    rcases List.mem_append.mp hmem with hmem | hmem
    · exact notMem_printOpening (fun hmem => (h.2 _ hmem).2.2 rfl) attributes hmem
    · simp at hmem
  rw [readMarks_tag hname, readTag_void h]

/-! ## Reading nodes -/

theorem readMarks_print_text (s : String) (rest : List Char) :
    readMarks (printNodes [.text s] ++ rest) = s.toList.map .char ++ readMarks rest := by
  simpa [printNodes, Node.print] using readMarks_escape s.toList rest

/-- An element is its opening tag, what is read of its text up to its closing tag, and that tag. -/
theorem readMarks_print_element {tag : Tag} (h : IsName tag.name) (attributes : Attributes) (ns : List Node)
    (rest : List Char) :
    ∃ after, readMarks after = .closing tag.name :: readMarks rest ∧
      readMarks (printNodes [.element tag attributes ns] ++ rest) =
        .opening tag.name :: readMarks (printNodes ns ++ after) := by
  refine ⟨'<' :: '/' :: (tag.name.toList ++ '>' :: rest), readMarks_closing h rest, ?_⟩
  rw [← readMarks_opening h attributes]
  simp [printNodes, Node.print]

theorem readMarks_print_void (tag : VoidTag) (attributes : Attributes) (rest : List Char) :
    readMarks (printNodes [.void tag attributes] ++ rest) = .void tag.name :: readMarks rest := by
  rw [← readMarks_void (isName_voidTag tag) attributes]
  simp [printNodes, Node.print]

/-- The height of a gap stands inside a tag, so that it is not read if it does not end the tag. -/
theorem readMarks_print_gap {height : String} (h : '>' ∉ height.toList) (rest : List Char) :
    readMarks (printNodes [.gap height] ++ rest) = .opening "div" :: .closing "div" :: readMarks rest := by
  have hopening : "<div style=\"height:".toList = '<' :: ("div".toList ++ ' ' :: "style=\"height:".toList) := by
    decide
  have hclosing : "px;\"></div>".toList = "px;".toList ++ '"' :: '>' :: '<' :: '/' :: ("div".toList ++ ['>']) := by
    decide
  have hinside : '>' ∉ "div".toList ++ ' ' :: ("style=\"height:".toList ++ height.toList ++ "px;".toList ++ ['"']) := by
    simp [h]
  have hread := readMarks_tag hinside ('<' :: '/' :: ("div".toList ++ '>' :: rest))
  rw [readTag_quoted (by decide), readMarks_closing (by decide)] at hread
  rw [← hread, printNodes, printNodes, Node.print]
  unfold printGap
  rw [hopening, hclosing]
  simp only [List.cons_append, List.append_assoc, List.nil_append]

/-! ## Content -/

/-- What a document tells its reader: texts with the tags they stand in, the ends of rows, rules and
images. -/
inductive Item
  | text (tag : String) (content : String)
  | row
  | rule
  | image
deriving DecidableEq, Repr

/-- Whether a name is one of headings. No other element with content has a name that begins so. -/
def isHeading (name : String) : Bool := name.toList.head? == some 'h'

/-- Whether the text of elements with a name is content. -/
def holdsText (name : String) : Bool := isHeading name || ["p", "li", "td", "span"].contains name

/-- The characters before the end of an element, without the tags between them. -/
def textUntil (name : String) : List Mark → List Char
  | [] => []
  | .closing n :: ms => if n = name then [] else textUntil name ms
  | .char c :: ms => c :: textUntil name ms
  | _ :: ms => textUntil name ms

/-- The content of a document. Rows are content inside the body of a table only. -/
def items (inBody : Bool) : List Mark → List Item
  | [] => []
  | .opening n :: ms =>
    if n = "tbody" then items true ms
    else if holdsText n then .text n (String.ofList (textUntil n ms)) :: items inBody ms
    else items inBody ms
  | .closing n :: ms =>
    if n = "tbody" then items false ms
    else if n = "tr" ∧ inBody then .row :: items inBody ms
    else items inBody ms
  | .void n :: ms =>
    if n = "hr" then .rule :: items inBody ms
    else if n = "img" then .image :: items inBody ms
    else items inBody ms
  | .char _ :: ms => items inBody ms

/-- Some content is read in the text of nodes, whatever comes after them. -/
def Tell (inBody : Bool) (ns : List Node) (content : List Item) : Prop :=
  ∀ rest, items inBody (readMarks (printNodes ns ++ rest)) = content ++ items inBody (readMarks rest)

theorem items_chars (inBody : Bool) (cs : List Char) (rest : List Mark) :
    items inBody (cs.map .char ++ rest) = items inBody rest := by
  induction cs with
  | nil => rfl
  | cons c cs ih => exact ih

theorem textUntil_chars (name : String) (cs : List Char) (rest : List Mark) :
    textUntil name (cs.map .char ++ .closing name :: rest) = cs := by
  induction cs with
  | nil => simp [textUntil]
  | cons c cs ih => exact congrArg (c :: ·) ih

/-- Nothing else in a document has the name of an element whose text is content. -/
theorem ne_of_holdsText {name other : String} (h : holdsText name) (hother : ¬holdsText other) : name ≠ other :=
  fun heq => hother (heq ▸ h)

namespace Tell

variable {inBody : Bool} {ms ns : List Node} {as bs : List Item} {attributes : Attributes}

theorem items_eq (h : Tell inBody ns as) : items inBody (readMarks (printNodes ns)) = as := by
  simpa [items, readMarks] using h []

theorem nil : Tell inBody [] [] := fun _ => rfl

theorem append (hm : Tell inBody ms as) (hn : Tell inBody ns bs) :
    Tell inBody (ms ++ ns) (as ++ bs) := by
  intro rest
  rw [printNodes_append, List.append_assoc, hm, hn, List.append_assoc]

theorem cons {n : Node} (hn : Tell inBody [n] as) (hns : Tell inBody ns bs) :
    Tell inBody (n :: ns) (as ++ bs) := append hn hns

theorem text (s : String) : Tell inBody [.text s] [] := by
  intro rest
  rw [readMarks_print_text]
  exact items_chars inBody s.toList _

/-- An element whose text is content. -/
theorem textElement {tag : Tag} (hname : IsName tag.name) (h : holdsText tag.name) (s : String) :
    Tell inBody [.element tag attributes [.text s]] [.text tag.name s] := by
  intro rest
  have hbody : tag.name ≠ "tbody" := ne_of_holdsText h (by decide)
  have hrow : tag.name ≠ "tr" := ne_of_holdsText h (by decide)
  obtain ⟨after, hafter, hread⟩ := readMarks_print_element hname attributes [.text s] rest
  rw [hread, readMarks_print_text, hafter, items, if_neg hbody, if_pos h, textUntil_chars, items_chars, items,
    if_neg hbody, if_neg (fun hr => hrow hr.1), String.ofList_toList]
  rfl

/-- An element that has the content of what it holds. -/
theorem element {tag : Tag} (hname : IsName tag.name) (h : ¬holdsText tag.name) (hbody : tag.name ≠ "tbody")
    (hrow : ¬(tag.name = "tr" ∧ inBody)) (hns : Tell inBody ns as) :
    Tell inBody [.element tag attributes ns] as := by
  intro rest
  obtain ⟨after, hafter, hread⟩ := readMarks_print_element hname attributes ns rest
  rw [hread, items, if_neg hbody, if_neg h, hns, hafter, items, if_neg hbody, if_neg hrow]

theorem row (hns : Tell true ns as) : Tell true [.element .tr attributes ns] (as ++ [.row]) := by
  intro rest
  have hname : Tag.tr.name = "tr" := rfl
  have hletters : IsName Tag.tr.name := by decide
  obtain ⟨after, hafter, hread⟩ := readMarks_print_element hletters attributes ns rest
  rw [hread, items, if_neg (by decide), if_neg (by decide), hns, hafter, items, if_neg (by decide),
    if_pos ⟨hname, rfl⟩, List.append_assoc]
  rfl

theorem tableBody (hns : Tell true ns as) : Tell false [.element .tbody attributes ns] as := by
  intro rest
  have hname : Tag.tbody.name = "tbody" := rfl
  have hletters : IsName Tag.tbody.name := by decide
  obtain ⟨after, hafter, hread⟩ := readMarks_print_element hletters attributes ns rest
  rw [hread, items, if_pos hname, hns, hafter, items, if_pos hname]

theorem rule : Tell inBody [.void .hr attributes] [.rule] := by
  intro rest
  rw [readMarks_print_void]
  rfl

theorem image : Tell inBody [.void .img attributes] [.image] := by
  intro rest
  rw [readMarks_print_void]
  rfl

theorem gap {height : String} (h : '>' ∉ height.toList) : Tell inBody [.gap height] [] := by
  intro rest
  rw [readMarks_print_gap h]
  rfl

end Tell

end DocTemplate.Html
