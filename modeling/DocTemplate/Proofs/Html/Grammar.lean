import DocTemplate.Html.Document
import DocTemplate.Proofs.Number.Alphabet

/-!
# The grammar of documents

What a document may look like, said of its text alone: elements of a few names, nested one in another,
with quoted attribute values and text in which nothing is markup. Main statement: the text of a tree is of this
form if its elements have these names and its gaps are as high as a number says.
-/

namespace DocTemplate.Html

open DocTemplate.Number

/-! ## Text -/

/-- The characters that are written as entities, and their entities. -/
def entities : List (Char × List Char) :=
  [('&', "&amp;".toList), ('<', "&lt;".toList), ('>', "&gt;".toList), ('"', "&quot;".toList),
   ('\'', "&#x27;".toList)]

/-- Every `&` of a text begins an entity. -/
def EntitiesOnly (cs : List Char) : Prop :=
  ∀ before after, cs = before ++ '&' :: after → ∃ e ∈ entities, e.2 <+: '&' :: after

/-- No character of a text begins or ends a tag. -/
def NoTag (cs : List Char) : Prop := ∀ c ∈ cs, c ≠ '<' ∧ c ≠ '>'

theorem EntitiesOnly.of_notMem {cs : List Char} (h : '&' ∉ cs) : EntitiesOnly cs := by
  rintro before after rfl
  simp at h

theorem EntitiesOnly.append {a b : List Char} (ha : EntitiesOnly a) (hb : EntitiesOnly b) :
    EntitiesOnly (a ++ b) := by
  intro before after h
  rcases List.append_eq_append_iff.mp h with ⟨front, rfl, hfront⟩ | ⟨front, rfl, hfront⟩
  · exact hb front after hfront
  · cases front with
    | nil => exact hb [] after hfront.symm
    | cons c front =>
      obtain ⟨rfl, rfl⟩ := List.cons.inj hfront
      obtain ⟨e, he, hprefix⟩ := ha before front rfl
      exact ⟨e, he, hprefix.trans (List.prefix_append _ _)⟩

theorem EntitiesOnly.of_entity {e : Char × List Char} (h : e ∈ entities) : EntitiesOnly e.2 := by
  intro before after hsplit
  refine ⟨e, h, ?_⟩
  have htail : ∀ e ∈ entities, '&' ∉ e.2.tail := by decide
  have htail := htail e h
  cases before with
  | nil => exact hsplit ▸ List.prefix_rfl
  | cons c before =>
    rw [hsplit] at htail
    simp at htail

/-- A character is written as itself, or as its entity. -/
theorem escapeChar_cases (c : Char) :
    (c ∉ entities.map (·.1) ∧ escapeChar c = [c]) ∨ ∃ e ∈ entities, e.1 = c ∧ escapeChar c = e.2 := by
  by_cases h : c ∈ entities.map (·.1)
  · have hall : ∀ e ∈ entities, escapeChar e.1 = e.2 := by decide
    obtain ⟨e, he, rfl⟩ := List.mem_map.mp h
    exact .inr ⟨e, he, rfl, hall e he⟩
  · refine .inl ⟨h, ?_⟩
    simp [entities] at h
    simp [escapeChar, h]

theorem entitiesOnly_escape (cs : List Char) : EntitiesOnly (escape cs) := by
  induction cs with
  | nil => exact .of_notMem (by simp [escape])
  | cons c cs ih =>
    rw [escape, List.flatMap_cons]
    refine .append ?_ ih
    rcases escapeChar_cases c with ⟨hc, h⟩ | ⟨e, he, -, h⟩
    · rw [h]
      exact .of_notMem (by simp [entities] at hc; simp [Ne.symm hc.1])
    · rw [h]
      exact .of_entity he

theorem mem_escape {c : Char} {cs : List Char} (h : c ∈ escape cs) : c ≠ '<' ∧ c ≠ '>' ∧ c ≠ '"' := by
  obtain ⟨d, -, hc⟩ := List.mem_flatMap.mp h
  rcases escapeChar_cases d with ⟨hd, he⟩ | ⟨e, hmem, -, he⟩
  · rw [he, List.mem_singleton] at hc
    subst hc
    simp [entities] at hd
    simp [hd]
  · have hall : ∀ e ∈ entities, ∀ c ∈ e.2, c ≠ '<' ∧ c ≠ '>' ∧ c ≠ '"' := by
      simp [entities]
    rw [he] at hc
    exact hall e hmem c hc

theorem noTag_escape (cs : List Char) : NoTag (escape cs) := fun _ h =>
  ⟨(mem_escape h).1, (mem_escape h).2.1⟩

/-! ## Elements -/

/-- The names of elements with content. -/
def elementNames : List (List Char) :=
  ["h1", "h2", "h3", "h4", "p", "ul", "li", "div", "span", "table", "thead", "tbody", "tr", "th",
    "td"].map String.toList

/-- The names of elements without content. -/
def voidNames : List (List Char) := ["hr", "img"].map String.toList

/-- The names of attributes. -/
def attributeNames : List (List Char) := ["style", "src"].map String.toList

/-- Attributes as they stand in a tag: names, each with a quoted value that nothing breaks out of. -/
inductive AttributeText : List Char → Prop
  | nil : AttributeText []
  | cons (name value rest : List Char) (hname : name ∈ attributeNames)
      (hvalue : ∀ c ∈ value, c ≠ '<' ∧ c ≠ '>' ∧ c ≠ '"') (hrest : AttributeText rest) :
      AttributeText (' ' :: name ++ ['=', '"'] ++ value ++ ['"'] ++ rest)

/-- Elements one after the other, properly nested, with texts among them if texts are allowed. Inside an
element they are. -/
inductive Nested : (texts : Bool) → List Char → Prop
  | nil (texts : Bool) : Nested texts []
  | text (cs rest : List Char) (hcs : NoTag cs) (hrest : Nested true rest) : Nested true (cs ++ rest)
  | element (texts : Bool) (name attributes content rest : List Char) (hname : name ∈ elementNames)
      (hattributes : AttributeText attributes) (hcontent : Nested true content)
      (hrest : Nested texts rest) :
      Nested texts ('<' :: (name ++ attributes) ++ ['>'] ++ content ++ ['<', '/'] ++ name ++ ['>'] ++ rest)
  | void (texts : Bool) (name attributes rest : List Char) (hname : name ∈ voidNames)
      (hattributes : AttributeText attributes) (hrest : Nested texts rest) :
      Nested texts ('<' :: (name ++ attributes) ++ [' ', '/', '>'] ++ rest)

mutual

/-- A node whose elements have known names and whose gaps are as high as a number says. -/
def Node.Sound : Node → Prop
  | .text _ => True
  | .element tag _ children => tag.name.toList ∈ elementNames ∧ AllSound children
  | .void .. => True
  | .gap height => NumberText height.toList

/-- Nodes of this kind. -/
def AllSound : List Node → Prop
  | [] => True
  | n :: ns => n.Sound ∧ AllSound ns

end

theorem allSound_append {ms ns : List Node} : AllSound (ms ++ ns) ↔ AllSound ms ∧ AllSound ns := by
  induction ms with
  | nil => simp [AllSound]
  | cons m ms ih => rw [List.cons_append, AllSound, AllSound, ih, and_assoc]

theorem name_mem_voidNames (t : VoidTag) : t.name.toList ∈ voidNames := by
  cases t <;> decide

theorem name_mem_attributeNames (a : Attribute) : a.name.toList ∈ attributeNames := by
  cases a <;> decide

theorem attributeText_print (attributes : Attributes) :
    AttributeText (attributes.flatMap printAttribute) := by
  induction attributes with
  | nil => exact .nil
  | cons a attributes ih =>
    exact .cons a.1.name.toList (escape a.2.toList) _ (name_mem_attributeNames a.1)
      (fun _ h => mem_escape h) ih

/-- Whether a node is an element. -/
def Node.isElement : Node → Bool
  | .text _ => false
  | .element .. => true
  | .void .. => true
  | .gap _ => true

/-- The style of a gap. -/
theorem attributeText_gap {height : List Char} (h : NumberText height) :
    AttributeText (" style=\"height:".toList ++ height ++ "px;\"".toList) := by
  have hvalue : ∀ c ∈ "height:".toList ++ height ++ "px;".toList, c ≠ '<' ∧ c ≠ '>' ∧ c ≠ '"' := by
    simp only [List.forall_mem_append]
    refine ⟨⟨by simp, fun c hc => ?_⟩, by simp⟩
    exact ⟨ne_of_mem_of_not_mem hc (h.not_markup '<' (by decide)),
      ne_of_mem_of_not_mem hc (h.not_markup '>' (by decide)),
      ne_of_mem_of_not_mem hc (h.not_markup '"' (by decide))⟩
  have hall := AttributeText.cons "style".toList _ [] (by decide) hvalue .nil
  simpa using hall

theorem printGap_eq (height : String) :
    printGap height = '<' :: ("div".toList ++ (" style=\"height:".toList ++ height.toList
      ++ "px;\"".toList)) ++ ['>'] ++ [] ++ ['<', '/'] ++ "div".toList ++ ['>'] := by
  have hopening : "<div style=\"height:".toList = '<' :: ("div".toList ++ " style=\"height:".toList) := by decide
  have hclosing : "px;\"></div>".toList = "px;\"".toList ++ ['>'] ++ ['<', '/'] ++ "div".toList ++ ['>'] := by decide
  unfold printGap
  rw [hopening, hclosing]
  simp only [List.cons_append, List.append_assoc, List.nil_append]

mutual

/-- A node that is written before nested elements; a text may only stand among texts. -/
theorem nested_print_append (texts : Bool) (rest : List Char) (hrest : Nested texts rest) :
    ∀ n : Node, n.Sound → (texts = true ∨ n.isElement) → Nested texts (n.print ++ rest)
  | .text s, _, h => by
    obtain rfl : texts = true := by simpa [Node.isElement] using h
    exact .text _ rest (noTag_escape _) hrest
  | .element tag attributes children, hsound, _ =>
    .element texts tag.name.toList _ (printNodes children) rest hsound.1 (attributeText_print attributes)
      (nested_printNodes true children hsound.2 fun _ _ => .inl rfl) hrest
  | .void tag attributes, _, _ =>
    .void texts tag.name.toList _ rest (name_mem_voidNames tag) (attributeText_print attributes) hrest
  | .gap height, hsound, _ => by
    rw [Node.print, printGap_eq]
    exact .element texts "div".toList _ [] rest (by decide) (attributeText_gap hsound) (.nil true) hrest

theorem nested_printNodes (texts : Bool) :
    ∀ ns : List Node, AllSound ns → (∀ n ∈ ns, texts = true ∨ n.isElement) → Nested texts (printNodes ns)
  | [], _, _ => .nil texts
  | n :: ns, hsound, h =>
    nested_print_append texts (printNodes ns)
      (nested_printNodes texts ns hsound.2 fun m hm => h m (List.mem_cons_of_mem n hm)) n hsound.1
      (h n List.mem_cons_self)

end

end DocTemplate.Html
