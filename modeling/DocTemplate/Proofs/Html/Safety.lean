import DocTemplate.Layout.Load
import DocTemplate.Proofs.Action
import DocTemplate.Proofs.Html.Grammar

/-!
# Documents that data cannot break out of

Every text of a layout, a context or a title ends up in a document as text or as the value of an
attribute, and never as markup.
-/

namespace DocTemplate.Html

open DocTemplate.Number

/-! ## Entities in the body -/

theorem name_noAmpersand {name : List Char} (h : name ∈ elementNames) : '&' ∉ name := by
  have hall : ∀ name ∈ elementNames, '&' ∉ name := by decide
  exact hall name h

theorem voidName_noAmpersand (t : VoidTag) : '&' ∉ t.name.toList := by
  cases t <;> decide

theorem attributeName_noAmpersand (a : Attribute) : '&' ∉ a.name.toList := by
  cases a <;> decide

theorem entitiesOnly_attributes (attributes : Attributes) :
    EntitiesOnly (attributes.flatMap printAttribute) := by
  induction attributes with
  | nil => exact .of_notMem (by simp)
  | cons a attributes ih =>
    rw [List.flatMap_cons]
    refine .append ?_ ih
    refine .append (.append (.append ?_ ?_) (entitiesOnly_escape _)) ?_
    · exact .of_notMem (by simp [attributeName_noAmpersand])
    · exact .of_notMem (by simp)
    · exact .of_notMem (by simp)

theorem entitiesOnly_printOpening {name : String} (h : '&' ∉ name.toList) (attributes : Attributes) :
    EntitiesOnly (printOpening name attributes) :=
  .append (.of_notMem h) (entitiesOnly_attributes attributes)

theorem entitiesOnly_gap {height : String} (h : NumberText height.toList) : EntitiesOnly (printGap height) := by
  refine .append (.append ?_ (.of_notMem (h.not_markup '&' (by decide)))) ?_
  · exact .of_notMem (by decide)
  · exact .of_notMem (by decide)

mutual

theorem entitiesOnly_print : ∀ n : Node, n.Sound → EntitiesOnly n.print
  | .text s, _ => entitiesOnly_escape s.toList
  | .element tag attributes children, hsound => by
    have hname := name_noAmpersand hsound.1
    have hopening := entitiesOnly_printOpening hname attributes
    have hcontent := entitiesOnly_printNodes children hsound.2
    rw [Node.print, ← List.singleton_append]
    refine .append (.append (.append (.append (.append (.append ?_ hopening) ?_) hcontent) ?_) ?_) ?_
    · exact .of_notMem (by simp)
    · exact .of_notMem (by simp)
    · exact .of_notMem (by simp)
    · exact .of_notMem hname
    · exact .of_notMem (by simp)
  | .void tag attributes, _ => by
    rw [Node.print, ← List.singleton_append]
    refine .append (.append ?_ (entitiesOnly_printOpening (voidName_noAmpersand tag) attributes)) ?_
    · exact .of_notMem (by simp)
    · exact .of_notMem (by simp)
  | .gap height, hsound => entitiesOnly_gap hsound

theorem entitiesOnly_printNodes : ∀ ns : List Node, AllSound ns → EntitiesOnly (printNodes ns)
  | [], _ => .of_notMem (by simp [printNodes])
  | n :: ns, hsound => .append (entitiesOnly_print n hsound.1) (entitiesOnly_printNodes ns hsound.2)

end

/-! ## The body of a layout -/

/-- Sound elements, with no text between them. -/
structure Blocks (ns : List Node) : Prop where
  sound : AllSound ns
  elements : ∀ n ∈ ns, n.isElement

namespace Blocks

variable {ms ns : List Node}

theorem nil : Blocks [] := ⟨trivial, nofun⟩

theorem append (hm : Blocks ms) (hn : Blocks ns) : Blocks (ms ++ ns) :=
  ⟨allSound_append.mpr ⟨hm.sound, hn.sound⟩, List.forall_mem_append.mpr ⟨hm.elements, hn.elements⟩⟩

theorem single {n : Node} (hn : n.Sound) (h : n.isElement) : Blocks [n] :=
  ⟨⟨hn, trivial⟩, List.forall_mem_singleton.mpr h⟩

theorem element {tag : Tag} {attributes : Attributes} (h : tag.name.toList ∈ elementNames) (hns : AllSound ns) :
    Blocks [.element tag attributes ns] := single ⟨h, hns⟩ rfl

theorem void (tag : VoidTag) (attributes : Attributes) : Blocks [.void tag attributes] := single trivial rfl

/-- An element that holds a text. -/
theorem textElement {tag : Tag} {attributes : Attributes} (h : tag.name.toList ∈ elementNames) (s : String) :
    Blocks [.element tag attributes [.text s]] := element h ⟨trivial, trivial⟩

theorem cons {n : Node} (hn : Blocks [n]) (hns : Blocks ns) : Blocks (n :: ns) := append hn hns

/-- What is made of each of some values is sound if what is made of one of them is. -/
theorem of_mapM {β : Type} {f : β → Except Failure Node} {bs : List β} (hf : ∀ b n, f b = .ok n → Blocks [n])
    (h : bs.mapM f = .ok ns) : Blocks ns := by
  induction bs generalizing ns with
  | nil => exact Except.ok.inj h ▸ nil
  | cons b bs ih =>
    obtain ⟨n, ns, hn, hns, rfl⟩ := mapM_cons_eq_ok_iff.mp h
    exact (hf b n hn).cons (ih hns)

theorem of_map {β : Type} {f : β → Node} (hf : ∀ b, Blocks [f b]) (bs : List β) : Blocks (bs.map f) := by
  induction bs with
  | nil => exact nil
  | cons b bs ih => exact (hf b).cons ih

end Blocks

section

variable {context : Value} {inside ns : List Node}

theorem blocks_headingNodes {c : Common} {style level : String}
    (hlevel : (Tag.h level).name.toList ∈ elementNames) (h : headingNodes context c style level = .ok ns) :
    Blocks ns := by
  obtain ⟨s, -, h⟩ := bind_eq_ok_iff.mp h
  exact Except.ok.inj h ▸ .textElement hlevel s

theorem blocks_paragraphNodes {c : Common} {style : String} (h : paragraphNodes context c style = .ok ns) :
    Blocks ns := by
  obtain ⟨s, -, h⟩ := bind_eq_ok_iff.mp h
  exact Except.ok.inj h ▸ .textElement (by decide) s

theorem blocks_listItems {items : List ListItem} (h : listItems context items = .ok ns) : Blocks ns := by
  obtain ⟨texts, -, h⟩ := bind_eq_ok_iff.mp h
  exact Except.ok.inj h ▸ .of_map (fun s => .textElement (by decide) s) _

theorem blocks_chipNodes {c : Chip} (h : chipNodes context c = .ok ns) : Blocks ns := by
  obtain ⟨label, -, h⟩ := bind_eq_ok_iff.mp h
  obtain rfl := Except.ok.inj h
  split
  · exact .nil
  · exact .textElement (by decide) label

theorem blocks_chips {chips : List Chip} {spans : List (List Node)}
    (h : chips.mapM (chipNodes context) = .ok spans) : Blocks spans.flatten := by
  induction chips generalizing spans with
  | nil => exact Except.ok.inj h ▸ .nil
  | cons c chips ih =>
    obtain ⟨span, spans, hspan, hspans, rfl⟩ := mapM_cons_eq_ok_iff.mp h
    exact (blocks_chipNodes hspan).append (ih hspans)

theorem blocks_bodyRow {columns : List Column} {row : Value} {n : Node} (h : bodyRow columns row = .ok n) :
    Blocks [n] := by
  obtain ⟨cells, hcells, h⟩ := bind_eq_ok_iff.mp h
  obtain rfl := Except.ok.inj h
  refine .element (by decide) (Blocks.of_mapM (fun c n hn => ?_) hcells).sound
  obtain ⟨s, -, hn⟩ := bind_eq_ok_iff.mp hn
  exact Except.ok.inj hn ▸ .textElement (by decide) s

theorem blocks_tableNodes {path : Option String} {columns : List Column} {showHeader : Bool}
    (h : tableNodes context path columns showHeader = .ok ns) : Blocks ns := by
  obtain ⟨rows, -, h⟩ := bind_eq_ok_iff.mp h
  obtain ⟨body, hbody, h⟩ := bind_eq_ok_iff.mp h
  obtain rfl := Except.ok.inj h
  have hname : Tag.th.name.toList ∈ elementNames := by decide
  have hcell : ∀ c : Column, Blocks [headCell c] := fun c => .textElement hname c.label
  have hcells : Blocks (columns.map headCell) := .of_map hcell columns
  have hrows : Blocks body := .of_mapM (fun _ _ => blocks_bodyRow) hbody
  refine .append ?_ (.element (by decide) hrows.sound)
  split
  · exact .element (by decide) (Blocks.element (by decide) hcells.sound).sound
  · exact .nil

theorem blocks_frame (style : String) (h : AllSound inside) : Blocks [frame style inside] :=
  .element (by decide) h

theorem blocks_grid {path : Option String} {columns : List Column} {showHeader : Bool} (style : String)
    (h : tableNodes context path columns showHeader = .ok ns) : Blocks [grid style ns] :=
  .element (by decide) (blocks_tableNodes h).sound

theorem headingLevel_listed (level : Int) :
    (Tag.h (toString (headingLevel level))).name.toList ∈ elementNames := by
  have hall : ∀ n ∈ [1, 2, 3, 4], (Tag.h (toString n)).name.toList ∈ elementNames := by decide
  exact hall _ (headingLevel_mem level)

/-- What a namesake shows, other than a heading or a spacer. -/
theorem blocks_namesakeNodes {c : Common} {style : String} {extras : Fields} {kind : Kind}
    (hkind : kind ∉ [Kind.heading, .spacer]) (h : namesakeNodes context c style extras kind = .ok ns) :
    Blocks ns := by
  cases kind with
  | heading | spacer => exact absurd (by decide) hkind
  | text => exact blocks_paragraphNodes h
  | list | chips =>
    obtain ⟨_, -, h⟩ := bind_eq_ok_iff.mp h
    exact Except.ok.inj h ▸ .element (by decide) trivial
  | divider => exact Except.ok.inj h ▸ .void ..
  | image =>
    obtain ⟨source, -, h⟩ := bind_eq_ok_iff.mp h
    split at h
    · obtain ⟨width, -, h⟩ := bind_eq_ok_iff.mp h
      obtain ⟨height, -, h⟩ := bind_eq_ok_iff.mp h
      obtain ⟨address, -, h⟩ := bind_eq_ok_iff.mp h
      exact Except.ok.inj h ▸ .void ..
    · exact Except.ok.inj h ▸ .nil
  | box =>
    obtain ⟨_, -, h⟩ := bind_eq_ok_iff.mp h
    exact Except.ok.inj h ▸ blocks_frame _ trivial
  | table =>
    obtain ⟨columns, -, h⟩ := bind_eq_ok_iff.mp h
    obtain ⟨path, -, h⟩ := bind_eq_ok_iff.mp h
    obtain ⟨showHeader, -, h⟩ := bind_eq_ok_iff.mp h
    obtain ⟨rows, -, h⟩ := bind_eq_ok_iff.mp h
    split at h
    · cases h
    · obtain ⟨parts, hparts, h⟩ := bind_eq_ok_iff.mp h
      exact Except.ok.inj h ▸ blocks_grid _ hparts

theorem blocks_shownNodes {c : Component} (hc : ∀ kind ∈ [Kind.heading, .spacer], ¬c.IsNamesake kind)
    (hinside : AllSound inside) (h : shownNodes context inside c = .ok ns) : Blocks ns := by
  cases c with
  | heading common level => exact blocks_headingNodes (headingLevel_listed level) h
  | text common => exact blocks_paragraphNodes h
  | list common items =>
    obtain ⟨lis, hlis, h⟩ := bind_eq_ok_iff.mp h
    exact Except.ok.inj h ▸ .element (by decide) (blocks_listItems hlis).sound
  | chips common chips =>
    obtain ⟨spans, hspans, h⟩ := bind_eq_ok_iff.mp h
    exact Except.ok.inj h ▸ .element (by decide) (blocks_chips hspans).sound
  | divider common => exact Except.ok.inj h ▸ .void ..
  | spacer common size =>
    refine Except.ok.inj h ▸ .single ?_ rfl
    rw [Node.Sound, String.toList_ofList]
    exact .wholeOrFull size
  | image common url width height =>
    obtain ⟨source, -, h⟩ := bind_eq_ok_iff.mp h
    obtain rfl := Except.ok.inj h
    unfold imageNodes
    split
    · exact .nil
    · exact .void ..
  | box common children => exact Except.ok.inj h ▸ blocks_frame _ hinside
  | table common path columns showHeader =>
    obtain ⟨parts, hparts, h⟩ := bind_eq_ok_iff.mp h
    exact Except.ok.inj h ▸ blocks_grid _ hparts
  | unknown common name extras =>
    rw [shownNodes] at h
    split at h
    · next kind hkind => exact blocks_namesakeNodes (fun hmem => hc kind hmem ⟨rfl, hkind⟩) h
    · exact Except.ok.inj h ▸ .nil

theorem blocks_contained {c : Component} (hc : ∀ kind ∈ [Kind.heading, .spacer], ¬c.IsNamesake kind)
    (hinside : AllSound inside) : Blocks (contained context inside c) := by
  unfold contained
  split
  · cases h : shownNodes context inside c with
    | error e => exact .nil
    | ok ns => exact blocks_shownNodes hc hinside h
  · exact .nil

end

mutual

theorem blocks_nodes (context : Value) : ∀ c : Component,
    (∀ k ∈ c.subtree, ∀ kind ∈ [Kind.heading, .spacer], ¬k.IsNamesake kind) → Blocks (nodes context c)
  | .box common children, h => by
    rw [Component.subtree, List.forall_mem_cons] at h
    exact blocks_contained h.1 (blocks_nodesOfAll context children h.2).sound
  | .heading .., h | .text .., h | .list .., h | .chips .., h | .divider .., h | .spacer .., h | .image .., h
  | .table .., h | .unknown .., h => blocks_contained (h _ (by simp [Component.subtree])) trivial

theorem blocks_nodesOfAll (context : Value) : ∀ cs : List Component,
    (∀ k ∈ Component.subtrees cs, ∀ kind ∈ [Kind.heading, .spacer], ¬k.IsNamesake kind) →
      Blocks (nodesOfAll context cs)
  | [], _ => .nil
  | c :: cs, h => by
    rw [Component.subtrees, List.forall_mem_append] at h
    exact (blocks_nodes context c h.1).append (blocks_nodesOfAll context cs h.2)

end

/-! ## Documents -/

/-- What stands before the title of every document. -/
def beforeTitle : List Char :=
  "<!DOCTYPE html>\n<html>\n  <head>\n    <meta charset=\"utf-8\" />\n    <title>".toList

/-- What stands between the title and the body of every document. -/
def afterTitle : List Char :=
  ("</title>\n    <style>" ++ styleSheet
    ++ "</style>\n  </head>\n  <body>\n    <div class=\"doc\">").toList

theorem opening_eq (title : Option String) :
    opening title = beforeTitle ++ escape (titleOrDefault title).toList ++ afterTitle := rfl

/-- A document is the same frame for all data around a title and a body. The title is text without
markup, the body is elements of known names with quoted values and text in between, and each `&` of
either begins an entity. Two kinds write what they are given as it is, the level of a heading into the name of an
element and the size of a spacer into a value: no component of theirs may have been loaded as one of an unknown
kind, whose fields nothing has checked. -/
theorem document_wellFormed (layout : Layout) (context : Value) (title : Option String)
    (h : ∀ c ∈ layout.components, ∀ kind ∈ [Kind.heading, .spacer], ¬c.IsNamesake kind) :
    ∃ titleText bodyText,
      (document layout context title).toList =
        beforeTitle ++ titleText ++ afterTitle ++ bodyText ++ closing ∧
      NoTag titleText ∧ EntitiesOnly titleText ∧
      Nested false bodyText ∧ EntitiesOnly bodyText := by
  have hbody := blocks_nodesOfAll context layout h
  refine ⟨escape (titleOrDefault title).toList, printNodes (body layout context), ?_,
    noTag_escape _, entitiesOnly_escape _, nested_printNodes false _ hbody.sound ?_,
    entitiesOnly_printNodes _ hbody.sound⟩
  · rw [document, String.toList_ofList, opening_eq]
  · exact fun n hn => .inr (hbody.elements n hn)

/-- A heading, and a text that has been loaded as a component of an unknown kind. -/
def noteLayout : Layout :=
  [.heading { id := "title", text := some "For <b>" } 7, .unknown { id := "note", text := some "\"&" } "text" []]

theorem noteLayout_wellFormed :
    (∀ c ∈ Layout.components noteLayout, ∀ kind ∈ [Kind.heading, .spacer], ¬c.IsNamesake kind) ∧
      ∃ titleText bodyText,
        (document noteLayout .null (some "<script>")).toList =
          beforeTitle ++ titleText ++ afterTitle ++ bodyText ++ closing ∧
        NoTag titleText ∧ EntitiesOnly titleText ∧ Nested false bodyText ∧ EntitiesOnly bodyText := by
  have hnone : ∀ c ∈ Layout.components noteLayout, ∀ kind ∈ [Kind.heading, .spacer], ¬c.IsNamesake kind := by
    simp [Layout.components, noteLayout, Component.subtrees, Component.subtree, Component.IsNamesake,
      Component.kind?, Component.shownKind?, Component.kindName]
    decide
  exact ⟨hnone, document_wellFormed noteLayout .null (some "<script>") hnone⟩

/-! ## What a namesake breaks out of -/

theorem count_attributeText {cs : List Char} (h : AttributeText cs) : cs.count '<' = 0 := by
  induction h with
  | nil => rfl
  | cons name value rest hname hvalue _ ih =>
    have hnames : ∀ name ∈ attributeNames, name.count '<' = 0 := by decide
    have hvalue : value.count '<' = 0 := List.count_eq_zero.mpr fun hmem => (hvalue _ hmem).1 rfl
    simp [List.count_append, hnames name hname, hvalue, ih]

/-- Every element has a slash, and at most two tags. -/
theorem Nested.count_le {texts : Bool} {cs : List Char} (h : Nested texts cs) :
    cs.count '<' ≤ 2 * cs.count '/' := by
  induction h with
  | nil => exact Nat.zero_le _
  | text cs rest hcs _ ih =>
    have hnone : cs.count '<' = 0 := List.count_eq_zero.mpr fun hmem => (hcs _ hmem).1 rfl
    simp only [List.count_append, hnone]
    omega
  | element texts name attributes content rest hname hattributes _ _ ihContent ihRest =>
    have hnames : ∀ name ∈ elementNames, name.count '<' = 0 := by decide
    simp [List.count_append, hnames name hname, count_attributeText hattributes]
    omega
  | void texts name attributes rest hname hattributes _ ih =>
    have hnames : ∀ name ∈ voidNames, name.count '<' = 0 := by decide
    simp [List.count_append, hnames name hname, count_attributeText hattributes]
    omega

/-- A spacer whose kind is named in bytes, so that nothing checks its size. -/
def scriptSource : Value :=
  .list [.record [("id", .text "s"), ("type", .bytes [0x73, 0x70, 0x61, 0x63, 0x65, 0x72]),
    ("size", .text "\"><script>")]]

/-- The size of a spacer that is loaded as a component of an unknown kind ends the value that it stands in. -/
theorem size_breaks_out : ∃ layout bodyText,
    loadLayout scriptSource = .ok layout ∧
      (document layout .null none).toList =
        beforeTitle ++ "Document".toList ++ afterTitle ++ bodyText ++ closing ∧
      bodyText = "<div style=\"height:\"><script>px;\"></div>".toList ∧ ¬Nested false bodyText := by
  refine ⟨[.unknown { id := "s" } "spacer" [("size", .text "\"><script>")]], _, rfl, ?_, rfl, ?_⟩
  · rw [document, String.toList_ofList, opening_eq]
    rfl
  · exact fun h => absurd h.count_le (by decide)

end DocTemplate.Html
