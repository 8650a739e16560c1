import DocTemplate.Proofs.Agreement.Depiction
import DocTemplate.Proofs.Page.Table

/-!
# Heads of tables

The heads of the columns of a table are the one text that elements and pages take from different places: the
elements show the label of a column, the pages show its key where it has no label. Main statement:
`heads_agree_iff_labelled`.
-/

namespace DocTemplate.Html

/-! ## Texts in elements of a name -/

/-- The texts of the elements with a name, in the order of the document. -/
def textsWithin (name : String) : List Mark → List String
  | [] => []
  | .opening n :: ms =>
    if n = name then String.ofList (textUntil name ms) :: textsWithin name ms else textsWithin name ms
  | .closing _ :: ms | .void _ :: ms | .char _ :: ms => textsWithin name ms

/-- Some texts are read in elements with a name in the text of nodes, whatever comes after them. -/
def Within (name : String) (ns : List Node) (texts : List String) : Prop :=
  ∀ rest, textsWithin name (readMarks (printNodes ns ++ rest)) = texts ++ textsWithin name (readMarks rest)

namespace Within

variable {name : String} {n : Node} {ms ns : List Node} {as bs : List String} {attributes : Attributes}

theorem texts_eq (h : Within name ns as) : textsWithin name (readMarks (printNodes ns)) = as := by
  simpa [textsWithin, readMarks] using h []

theorem nil : Within name [] [] := fun _ => rfl

theorem append (hm : Within name ms as) (hn : Within name ns bs) : Within name (ms ++ ns) (as ++ bs) := by
  intro rest
  rw [printNodes_append, List.append_assoc, hm, hn, List.append_assoc]

theorem cons (hn : Within name [n] as) (hns : Within name ns bs) : Within name (n :: ns) (as ++ bs) :=
  append hn hns

/-- What is made of each of some values has no such texts if nothing that is made of one of them has. -/
theorem of_mapM {β : Type} {f : β → Except Failure Node} {bs : List β}
    (hf : ∀ b n, f b = .ok n → Within name [n] []) (h : bs.mapM f = .ok ns) : Within name ns [] := by
  induction bs generalizing ns with
  | nil =>
    obtain rfl := Except.ok.inj h
    exact nil
  | cons b bs ih =>
    obtain ⟨n, ns, hn, hns, rfl⟩ := mapM_cons_eq_ok_iff.mp h
    exact (hf b n hn).cons (ih hns)

theorem textsWithin_chars (cs : List Char) (rest : List Mark) :
    textsWithin name (cs.map .char ++ rest) = textsWithin name rest := by
  induction cs with
  | nil => rfl
  | cons c cs ih => exact ih

theorem text (s : String) : Within name [.text s] [] := by
  intro rest
  rw [readMarks_print_text]
  exact textsWithin_chars s.toList _

/-- An element with another name has the texts of what it holds. -/
theorem element {tag : Tag} (hname : IsName tag.name) (h : tag.name ≠ name) (hns : Within name ns as) :
    Within name [.element tag attributes ns] as := by
  intro rest
  obtain ⟨after, hafter, hread⟩ := readMarks_print_element hname attributes ns rest
  rw [hread, textsWithin, if_neg h, hns, hafter, textsWithin]

theorem textElement {tag : Tag} (hname : IsName tag.name) (s : String) :
    Within tag.name [.element tag attributes [.text s]] [s] := by
  intro rest
  obtain ⟨after, hafter, hread⟩ := readMarks_print_element hname attributes [.text s] rest
  rw [hread, readMarks_print_text, hafter, textsWithin, if_pos rfl, textUntil_chars, textsWithin_chars, textsWithin,
    String.ofList_toList]
  rfl

end Within

/-! ## The parts of a table -/

theorem within_headCells (columns : List Column) :
    Within "th" (columns.map headCell) (columns.map (·.label)) := by
  induction columns with
  | nil => exact .nil
  | cons c columns ih =>
    have hname : IsName Tag.th.name := by decide
    exact (Within.textElement hname c.label).cons ih

/-- A row has no head. -/
theorem within_bodyRow {columns : List Column} {row : Value} {n : Node} (h : bodyRow columns row = .ok n) :
    Within "th" [n] [] := by
  obtain ⟨cells, hcells, h⟩ := bind_eq_ok_iff.mp h
  obtain rfl := Except.ok.inj h
  refine .element (by decide) (by decide) (.of_mapM (fun c n hn => ?_) hcells)
  obtain ⟨s, -, hn⟩ := bind_eq_ok_iff.mp hn
  obtain rfl := Except.ok.inj hn
  exact .element (by decide) (by decide) (.text s)

/-- The heads in the elements of a table are the labels of its columns. -/
theorem within_table {context : Value} {inside ns : List Node} {common : Common} {path : Option String}
    {columns : List Column} (h : shownNodes context inside (.table common path columns true) = .ok ns) :
    Within "th" ns (columns.map (·.label)) := by
  obtain ⟨parts, hparts, h⟩ := bind_eq_ok_iff.mp h
  obtain rfl := Except.ok.inj h
  obtain ⟨rows, -, hparts⟩ := bind_eq_ok_iff.mp hparts
  obtain ⟨body, hbody, hparts⟩ := bind_eq_ok_iff.mp hparts
  obtain rfl := Except.ok.inj hparts
  have hhead : Within "th" [.element .thead [] [.element .tr [] (columns.map headCell)]]
      (columns.map (·.label)) :=
    .element (by decide) (by decide) (.element (by decide) (by decide) (within_headCells columns))
  have hrows : Within "th" [.element .tbody [] body] [] :=
    .element (by decide) (by decide) (.of_mapM (fun _ _ => within_bodyRow) hbody)
  have hall := hhead.append hrows
  rw [List.append_nil] at hall
  exact .element (by decide) (by decide) hall

end DocTemplate.Html

namespace DocTemplate.Agreement

open Html Page

/-! ## Heads on pages -/

theorem textsOf_append (role : Role) (ls rs : List Mention) :
    textsOf role (ls ++ rs) = textsOf role ls ++ textsOf role rs := List.filterMap_append

theorem textsOf_eq_nil {role : Role} {mentions : List Mention} (h : ∀ q ∈ mentions, q.role ≠ role) :
    textsOf role mentions = [] :=
  List.filterMap_eq_nil_iff.mpr fun q hq => if_neg (h q hq)

variable {α : Type} {columns : List Column} {l : Line α} {ls : List (Line α)}

theorem mentions_cells {role : Role} {shown : Column → String} {cells : List (Op α)}
    (h : List.Forall₂ (IsCell role fun c => .ok (shown c)) columns cells) :
    cells.map Op.mention = columns.map fun c => ⟨role, some (shown c)⟩ := by
  induction h with
  | nil => rfl
  | cons hcell _ ih =>
    obtain ⟨text, htext, hmention⟩ := hcell
    cases htext
    rw [List.map_cons, List.map_cons, hmention, ih]

theorem textsOf_head (h : l.IsHead columns) :
    textsOf .tableHeader (l.ops.map Op.mention) = columns.map headText := by
  have hrule : textsOf .tableHeader [l.bottom.mention] = [] := by
    refine textsOf_eq_nil (List.forall_mem_singleton.mpr ?_)
    change l.bottom.role ≠ _
    rw [h.mark]
    decide
  have hcells : textsOf .tableHeader (l.cells.map Op.mention) = columns.map headText := by
    rw [mentions_cells h.cells, textsOf, List.filterMap_map]
    exact congrFun List.filterMap_eq_map columns
  rw [Line.ops, List.map_append, textsOf_append, hcells, List.map_singleton, hrule, List.append_nil]

/-- No part of a row is the head of a column. -/
theorem textsOf_row {row : Value} (h : l.IsRow columns row) :
    textsOf .tableHeader (l.ops.map Op.mention) = [] := by
  refine textsOf_eq_nil (List.forall_mem_map.mpr fun o ho => ?_)
  change o.role ≠ _
  rcases List.mem_append.mp ho with ho | ho
  · rw [role_of_isCell h.cells o ho]
    decide
  · rw [List.mem_singleton.mp ho, h.mark]
    decide

theorem textsOf_rows {rows : List Value} (h : List.Forall₂ (Line.IsRow columns) rows ls) :
    textsOf .tableHeader ((ls.flatMap Line.ops).map Op.mention) = [] := by
  induction h with
  | nil => rfl
  | cons hrow _ ih =>
    rw [List.flatMap_cons, List.map_append, textsOf_append, textsOf_row hrow, ih, List.append_nil]

variable [Length α] (d : Setup α)

/-- The heads on the pages of a table are the labels of its columns, and their keys where they have none. -/
theorem drawTable_heads {children : Draw α Unit} {common : Common} {path : Option String} {s t : Sheet α}
    (h : (d.drawKind children (.table common path columns true)).run.run s = (.ok (), t)) :
    ∃ new, opsOf t.log = opsOf s.log ++ new ∧ textsOf .tableHeader (new.map Op.mention) = columns.map headText := by
  obtain ⟨rows, _, hread, h⟩ := run_bind_ok h
  obtain ⟨-, rfl⟩ := run_liftM_ok hread
  obtain ⟨height, _, hheight, h⟩ := run_bind_ok h
  obtain ⟨x, -, rfl, rfl⟩ := Setup.run_size_ok hheight
  obtain ⟨_, s₁, hhead, h⟩ := run_bind_ok h
  obtain ⟨l, hl, hcolumns⟩ := run_drawHead_ok hhead
  obtain ⟨ls, hls, hrows⟩ := run_drawBody_ok h
  refine ⟨_, (DrawsLines.cons hl hls).ops_eq, ?_⟩
  rw [List.flatMap_cons, List.map_append, textsOf_append, textsOf_head hcolumns, textsOf_rows hrows, List.append_nil]

theorem headText_eq_label_iff (c : Column) : c.label = headText c ↔ (c.label = "" → c.key = "") := by
  unfold headText
  split
  · next h => rw [h, eq_comm, forall_prop_of_true rfl]
  · next h => exact iff_of_true rfl fun hempty => absurd hempty h

/-- What the head of a table says in its elements and on its pages, where nothing goes wrong in either: the
labels of its columns in their order, on the pages with the key of a column that has no label. So both say the
same exactly if each column has a label or no key. -/
theorem heads_agree_iff_labelled (common : Common) (path : Option String) (columns : List Column)
    (inside ns : List Node) (children : Draw α Unit) (s t : Sheet α)
    (hshown : shownNodes d.context inside (.table common path columns true) = .ok ns)
    (hdrawn : (d.drawKind children (.table common path columns true)).run.run s = (.ok (), t)) :
    textsWithin "th" (readMarks (printNodes ns)) = columns.map (·.label) ∧
    ∃ new, opsOf t.log = opsOf s.log ++ new ∧
      textsOf .tableHeader (new.map Op.mention) = columns.map headText ∧
      (textsWithin "th" (readMarks (printNodes ns)) = textsOf .tableHeader (new.map Op.mention) ↔
        ∀ c ∈ columns, c.label = "" → c.key = "") := by
  have hlabels : textsWithin "th" (readMarks (printNodes ns)) = columns.map (·.label) :=
    (within_table hshown).texts_eq
  obtain ⟨new, hnew, hheads⟩ := drawTable_heads d hdrawn
  refine ⟨hlabels, new, hnew, hheads, ?_⟩
  rw [hlabels, hheads, List.map_inj_left]
  exact forall₂_congr fun c _ => headText_eq_label_iff c

/-- An article, its price and, at the end, a column for marks. -/
def priceColumns : List Column :=
  [{ key := "sku", label := "Art. & No." }, { key := "price", label := "€" }, { key := "", label := "" }]

/-- A column that has a key and no label. -/
def namelessColumns : List Column := [{ key := "sku", label := "" }]

/-- A table of articles with some columns. -/
def priceTable (columns : List Column) : Component := .table { id := "prices" } (some "rows") columns true

/-- What tables of articles are drawn with. -/
def priceSetup : Setup Float :=
  ⟨.standard, .standard, .record [("rows", .list [.record [("sku", .text "A-1"), ("price", .int 3)]])], "Prices",
    .idle, pngPictures⟩

/-- Nothing goes wrong in the elements of the tables or on their pages. -/
theorem prices_are_shown (columns : List Column) (h : columns ∈ [priceColumns, namelessColumns]) :
    ∃ ns t, shownNodes priceSetup.context [] (priceTable columns) = .ok ns ∧
      (priceSetup.drawKind (pure ()) (priceTable columns)).run.run ⟨80.0, 1, #[]⟩ = (.ok (), t) := by
  have hboth : ∀ columns ∈ [priceColumns, namelessColumns],
      (shownNodes priceSetup.context [] (priceTable columns)).isOk ∧
        ((priceSetup.drawKind (pure ()) (priceTable columns)).run.run ⟨80.0, 1, #[]⟩).1 = .ok () := by
    decide +kernel
  obtain ⟨hshown, hdrawn⟩ := hboth columns h
  cases hns : shownNodes priceSetup.context [] (priceTable columns) with
  | error e =>
    rw [hns] at hshown
    cases hshown
  | ok ns => exact ⟨ns, _, rfl, Prod.ext hdrawn rfl⟩

theorem heads_agree_on_prices : ∃ ns t,
    shownNodes priceSetup.context [] (priceTable priceColumns) = .ok ns ∧
    (priceSetup.drawKind (pure ()) (priceTable priceColumns)).run.run ⟨80.0, 1, #[]⟩ = (.ok (), t) ∧
    textsWithin "th" (readMarks (printNodes ns)) = ["Art. & No.", "€", ""] ∧
    textsOf .tableHeader ((opsOf t.log).map Op.mention) = ["Art. & No.", "€", ""] := by
  obtain ⟨ns, t, hshown, hdrawn⟩ := prices_are_shown priceColumns (by simp)
  obtain ⟨hlabels, new, hnew, hheads, -⟩ :=
    heads_agree_iff_labelled priceSetup { id := "prices" } (some "rows") priceColumns [] ns (pure ()) _ t
      hshown hdrawn
  have hall : opsOf t.log = new := hnew
  exact ⟨ns, t, hshown, hdrawn, hlabels, hall ▸ hheads⟩

/-- A column without a label has an empty head in the elements and its key as a head on the pages. -/
theorem nameless_heads_differ : ∃ ns t,
    shownNodes priceSetup.context [] (priceTable namelessColumns) = .ok ns ∧
    (priceSetup.drawKind (pure ()) (priceTable namelessColumns)).run.run ⟨80.0, 1, #[]⟩ = (.ok (), t) ∧
    textsWithin "th" (readMarks (printNodes ns)) = [""] ∧
    textsOf .tableHeader ((opsOf t.log).map Op.mention) = ["sku"] := by
  obtain ⟨ns, t, hshown, hdrawn⟩ := prices_are_shown namelessColumns (by simp)
  obtain ⟨new, hnew, hheads⟩ := drawTable_heads priceSetup hdrawn
  have hall : opsOf t.log = new := hnew
  refine ⟨ns, t, hshown, hdrawn, ?_, hall ▸ hheads⟩
  rw [(within_table hshown).texts_eq]
  rfl

end DocTemplate.Agreement
