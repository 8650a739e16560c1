import DocTemplate.Proofs.Agreement.Depiction
import DocTemplate.Proofs.Html.Strict
import DocTemplate.Proofs.Layout.Namesake
import DocTemplate.Proofs.Page.Strict

/-!
# Elements and pages agree

The elements of a layout and its pages are made by two programs that share no state. Main statement:
where neither fails, both show the same content in the same order.
-/

namespace DocTemplate.Agreement

open Html Number Page Text

/-- Elements and what is drawn have the same content. -/
def Agree (inBody : Bool) (p : Preset) (ns : List Node) (mentions : List Mention) : Prop :=
  ∃ content, Tell inBody ns content ∧ Depicts p content mentions

namespace Agree

variable {inBody : Bool} {p : Preset} {ms ns : List Node} {ls rs : List Mention}

theorem nil : Agree inBody p [] [] := ⟨[], .nil, .nil⟩

theorem append (hl : Agree inBody p ms ls) (hr : Agree inBody p ns rs) :
    Agree inBody p (ms ++ ns) (ls ++ rs) := by
  obtain ⟨as, has, hls⟩ := hl
  obtain ⟨bs, hbs, hrs⟩ := hr
  exact ⟨as ++ bs, has.append hbs, hls.append hrs⟩

/-- Elements without content, and ornaments. -/
theorem ornaments (hns : Tell inBody ns []) (hls : ∀ mention ∈ ls, mention.role ∈ ornamentRoles) :
    Agree inBody p ns ls := ⟨[], hns, .ornaments hls⟩

theorem single {i : Item} (hns : Tell inBody ns [i]) (hls : Shows p i ls) : Agree inBody p ns ls :=
  ⟨[i], hns, .single hls⟩

theorem element {tag : Tag} {attributes : Attributes} (hname : IsName tag.name) (h : ¬holdsText tag.name)
    (hbody : tag.name ≠ "tbody") (hrow : ¬(tag.name = "tr" ∧ inBody)) (hns : Agree inBody p ns ls) :
    Agree inBody p [.element tag attributes ns] ls := by
  obtain ⟨as, has, hls⟩ := hns
  exact ⟨as, has.element hname h hbody hrow, hls⟩

end Agree

variable {α : Type} [Length α] (d : Setup α)

/-! ## Text -/

theorem holdsText_of_lineRole? {tag : String} {role : Role} (h : lineRole? tag = some role) :
    holdsText tag := by
  unfold lineRole? at h
  split at h
  · next htag => rw [holdsText, htag, Bool.true_or]
  · split at h
    · next htag => subst htag; decide
    · split at h
      · next htag => subst htag; decide
      · cases h

/-- The lines of a text show the element of the text. -/
theorem drawLines_agrees {inBody : Bool} {tag : Tag} {role : Role} {first content drawn : String}
    (hname : IsName tag.name) (hrole : lineRole? tag.name = some role) (hfirst : lead d.preset tag.name = .ok first)
    (hdrawn : squeeze drawn.toList = squeeze (first ++ content).toList) (attributes : Attributes)
    (size : α) (bold italic : Bool) (style : Style) :
    Records (d.drawLines drawn size bold italic style role)
      (Agree inBody d.preset [.element tag attributes [.text content]]) := by
  refine (records_drawLines d ..).mono ?_
  rintro _ ⟨lines, hlines, rfl⟩
  exact .single (.textElement hname (holdsText_of_lineRole? hrole) content)
    (.lines hrole hfirst (hlines.trans hdrawn))

theorem isHeading_h (level : String) : isHeading (Tag.h level).name := by
  rw [isHeading, Tag.name, String.toList_append]
  rfl

/-- Elements that are headings agree with their lines if the level is a number. -/
theorem drawHeading_agrees {common : Common} {level style : String} {ns : List Node}
    (hlevel : NumberText level.toList) (h : headingNodes d.context common style level = .ok ns) (s : Style) :
    Records (d.drawHeading common s level) (Agree false d.preset ns) := by
  obtain ⟨content, hcontent, h⟩ := bind_eq_ok_iff.mp h
  obtain rfl := Except.ok.inj h
  have hrole : lineRole? (Tag.h level).name = some .heading := if_pos (isHeading_h level)
  have hitem : (Tag.h level).name ≠ "li" := fun heq => absurd (heq ▸ isHeading_h level) (by decide)
  have hlines : ∀ size : Float, Records
      (liftM (interpolate common.text d.context) >>= fun content =>
        d.drawLines content (Length.ofFloat size) true s.italic s .heading)
      (Agree false d.preset [styled (.h level) style [.text content]]) := by
    intro size
    refine Records.read fun drawn hdrawn => ?_
    obtain rfl := Except.ok.inj (hcontent.symm.trans hdrawn)
    exact drawLines_agrees d (isName_h hlevel) hrole (if_neg hitem) (by rw [String.empty_append]) ..
  unfold Setup.drawHeading
  split
  · exact (Quiet.pure _).bind hlines
  · exact Records.read fun size _ => hlines size

theorem drawParagraph_agrees {common : Common} {style : String} {ns : List Node}
    (h : paragraphNodes d.context common style = .ok ns) (s : Style) :
    Records (d.drawParagraph common s) (Agree false d.preset ns) := by
  obtain ⟨content, hcontent, h⟩ := bind_eq_ok_iff.mp h
  obtain rfl := Except.ok.inj h
  refine (quiet_sizeOr d ..).bind fun size => Records.read fun drawn hdrawn => ?_
  obtain rfl := Except.ok.inj (hcontent.symm.trans hdrawn)
  exact drawLines_agrees d (by decide) rfl rfl (by rw [String.empty_append]) ..

/-! ## Lists -/

/-- The bullet and the blank behind it are not broken apart from the text of an item. -/
theorem squeeze_bullet (bullet content : String) :
    squeeze (bullet ++ " " ++ content).toList = squeeze (bullet ++ content).toList := by
  have hblank : squeeze " ".toList = [] := by decide
  simp only [String.toList_append, squeeze_append, hblank, List.append_nil]

theorem drawItems_agrees {bullet : String} (hbullet : d.preset.bullet = .ok bullet) (style : Style)
    (size : α) (items : List ListItem) (texts : List String)
    (h : items.mapM (·.shown d.context) = .ok texts) :
    Records (d.drawItems style size bullet items) (Agree false d.preset
      ((texts.filter (· != "")).map fun s => .element .li [] [.text s])) := by
  induction items generalizing texts with
  | nil =>
    obtain rfl := Except.ok.inj h
    exact .pure .nil
  | cons item items ih =>
    obtain ⟨content, rest, hcontent, hrest, rfl⟩ := mapM_cons_eq_ok_iff.mp h
    rw [Setup.drawItems]
    refine Records.read fun drawn hdrawn => ?_
    obtain rfl := Except.ok.inj (hcontent.symm.trans hdrawn)
    by_cases hne : content ≠ ""
    · rw [List.filter_cons_of_pos (by simpa using hne), List.map_cons, if_pos hne]
      have hlead : lead d.preset Tag.li.name = .ok bullet := hbullet
      have hlines : Records
          (d.drawLines (bullet ++ " " ++ content) size style.bold style.italic style .listItem)
          (Agree false d.preset [.element .li [] [.text content]]) :=
        drawLines_agrees d (by decide) rfl hlead (squeeze_bullet bullet content) ..
      exact hlines.bind (fun _ => ih rest hrest) fun _ _ hl hr => hl.append hr
    · rw [List.filter_cons_of_neg (by simpa using hne), if_neg hne]
      exact ih rest hrest

theorem drawList_agrees {items : List ListItem} {ns : List Node} (attributes : Attributes)
    (h : listItems d.context items = .ok ns) (style : Style) :
    Records (d.drawList style items) (Agree false d.preset [.element .ul attributes ns]) := by
  obtain ⟨texts, htexts, h⟩ := bind_eq_ok_iff.mp h
  obtain rfl := Except.ok.inj h
  refine (quiet_sizeOr d ..).bind fun size => Records.read fun bullet hbullet => ?_
  refine (drawItems_agrees d hbullet style size items texts htexts).mono fun new hnew => ?_
  exact hnew.element (by decide) (by decide) (by decide) (by decide)

/-! ## Chips -/

/-- A chip is its ground, which is an ornament, and its label. -/
theorem drawChip_agrees (m : ChipMeasures α) (style : Style) (c : Chip) (label : String) (x width : α)
    (attributes : Attributes) :
    Records (d.drawChip m style c label x width)
      (Agree false d.preset [.element .span attributes [.text label]]) := by
  refine Quiet.get.bind fun s =>
    (records_drawPlate ..).bind (fun _ => records_drawText ..) fun l r hl hr => ?_
  subst hl hr
  exact ⟨[.text "span" label], .textElement (by decide) (by decide) label, .ornament (by decide) (.single .chip)⟩

theorem drawChips_agrees (m : ChipMeasures α) (style : Style) (row? : Option α) (chips : List Chip)
    (spans : List (List Node)) (h : chips.mapM (chipNodes d.context) = .ok spans) :
    Records (d.drawChips m style row? chips) (Agree false d.preset spans.flatten) := by
  induction chips generalizing row? spans with
  | nil =>
    obtain rfl := Except.ok.inj h
    have hquiet : Quiet (d.drawChips m style row? []) := by
      cases row? with
      | none => exact .pure _
      | some x => exact quiet_moveDown _
    exact hquiet.mono fun _ hnew => hnew ▸ .nil
  | cons c chips ih =>
    obtain ⟨span, rest, hspan, hrest, rfl⟩ := mapM_cons_eq_ok_iff.mp h
    obtain ⟨label, hlabel, hspan⟩ := bind_eq_ok_iff.mp hspan
    obtain rfl := Except.ok.inj hspan
    rw [Setup.drawChips]
    refine Records.read fun drawn hdrawn => ?_
    obtain rfl := Except.ok.inj (hlabel.symm.trans hdrawn)
    have hchip : ∀ (x width : α) (next : Option α), Records
        (d.drawChip m style c label x width >>= fun _ => d.drawChips m style next chips)
        (Agree false d.preset ([styled .span (chipStyle c) [.text label]] ++ rest.flatten)) :=
      fun x width next => (drawChip_agrees d m style c label x width _).bind
        (fun _ => ih next rest hrest) fun _ _ hl hr => hl.append hr
    rw [List.flatten_cons]
    by_cases hempty : label = ""
    · rw [if_pos hempty, if_pos hempty]
      exact ih row? rest hrest
    · rw [if_neg hempty, if_neg hempty]
      refine Records.read fun width _ => ?_
      dsimp only
      split
      · exact hchip _ _ _
      · split
        · exact (quiet_moveDown _).bind fun _ => (quiet_ensureSpace d _).bind fun _ => hchip _ _ _
        · exact (quiet_ensureSpace d _).bind fun _ => hchip _ _ _

theorem drawChipRows_agrees {chips : List Chip} {spans : List (List Node)}
    (h : chips.mapM (chipNodes d.context) = .ok spans) (attributes : Attributes) (style : Style) :
    Records (d.drawChipRows style chips)
      (Agree false d.preset [.element .div attributes spans.flatten]) := by
  refine (quiet_sizeOr d ..).bind fun size => (quiet_size d _).bind fun padX =>
    (quiet_size d _).bind fun padY => (quiet_size d _).bind fun gap => Records.read fun font _ => ?_
  exact (drawChips_agrees d _ style none chips spans h).mono fun _ hnew =>
    hnew.element (by decide) (by decide) (by decide) (by decide)

/-! ## Rules, room and images -/

theorem drawDivider_agrees (attributes : Attributes) :
    Records d.drawDivider (Agree false d.preset [.void .hr attributes]) := by
  refine (quiet_size d _).bind fun height => (quiet_ensureSpace d _).bind fun _ =>
    Quiet.get.bind fun s => Records.quietly ?_ fun _ => quiet_moveDown _
  exact (records_drawLine ..).mono fun _ hnew => hnew ▸ .single .rule .rule

theorem drawSpacer_agrees (size : α) {height : String} (h : NumberText height.toList) :
    Records (d.drawSpacer size) (Agree false d.preset [.gap height]) := by
  have hquiet : Quiet (d.drawSpacer size) :=
    (quiet_ensureSpace d size).bind fun _ => quiet_moveDown size
  exact hquiet.mono fun _ hnew => hnew ▸ .ornaments (.gap (h.not_markup '>' (by decide))) nofun

/-- A picture and the frame in its place are images both. -/
theorem drawPicture_agrees (address : Except Failure String) (width height : Option Float)
    (attributes : Attributes) :
    Records (d.drawPicture address width height) (Agree false d.preset [.void .img attributes]) := by
  refine (quiet_givenOr d ..).bind fun w => (quiet_givenOr d ..).bind fun h =>
    (quiet_ensureSpace d _).bind fun _ => Quiet.get.bind fun s => Records.read fun source _ => ?_
  dsimp only
  split
  · refine (quiet_call _).bind fun _ => Records.quietly ?_ fun _ => quiet_moveDown _
    exact (records_record ..).mono fun _ hnew => hnew ▸ .single .image .image
  · refine Records.quietly ?_ fun _ => quiet_moveDown _
    exact (records_drawFrame ..).mono fun _ hnew => hnew ▸ .single .image .placeholder
  · rw [throw_bind]
    exact .fail

theorem drawImage_agrees {common : Common} {url : Option String} {source : String}
    (h : imageSource d.context url common.binding = .ok source) (style : String)
    (width height : Option Float) :
    Records (d.drawImage common url width height) (Agree false d.preset (imageNodes source style)) := by
  refine Records.read fun drawn hdrawn => ?_
  obtain rfl := Except.ok.inj (h.symm.trans hdrawn)
  rw [imageNodes]
  by_cases hempty : source = ""
  · rw [if_pos hempty, if_neg (not_not_intro hempty)]
    exact .pure .nil
  · rw [if_neg hempty, if_pos hempty]
    exact drawPicture_agrees d ..

/-! ## Tables -/

/-- The cells of a row, each with a text of its own size. -/
theorem records_drawCells (slot rowHeight : α) (font : String) (base : α) (role : Role) (index : Nat)
    (cells : List (Column × Except Failure String)) :
    Records (d.drawCells slot rowHeight font base role index cells) fun new =>
      ∃ texts : List String, cells.map (·.2) = texts.map .ok ∧ new = texts.map fun s => ⟨role, some s⟩ := by
  induction cells generalizing index with
  | nil => exact .pure ⟨[], rfl, rfl⟩
  | cons cell cells ih =>
    obtain ⟨column, content⟩ := cell
    rw [Setup.drawCells]
    refine Records.read fun text htext => (quiet_size d _).bind fun pad =>
      Records.read fun size _ => Quiet.get.bind fun s => ?_
    refine (records_drawText ..).bind (fun _ => ih (index + 1)) ?_
    rintro _ _ rfl ⟨texts, htexts, rfl⟩
    refine ⟨text :: texts, ?_, rfl⟩
    rw [List.map_cons, htexts, htext, List.map_cons]

theorem tell_bodyCells {columns : List Column} {row : Value} {ns : List Node} {texts : List String}
    (h : columns.mapM (fun c => do
      let s ← c.shown row
      .ok (styled .td (alignDeclaration c ++ "padding:6px 8px;border-bottom:1px solid #f1f5f9;")
        [.text s])) = .ok ns)
    (htexts : columns.map (·.shown row) = texts.map .ok) :
    Tell true ns (texts.map (.text "td")) := by
  induction columns generalizing ns texts with
  | nil =>
    obtain rfl := Except.ok.inj h
    obtain rfl := List.map_eq_nil_iff.mp htexts.symm
    exact .nil
  | cons c columns ih =>
    obtain ⟨n, ns, hn, hns, rfl⟩ := mapM_cons_eq_ok_iff.mp h
    cases texts with
    | nil => cases htexts
    | cons text texts =>
      obtain ⟨htext, htexts⟩ := List.cons.inj htexts
      obtain ⟨s, hs, hn⟩ := bind_eq_ok_iff.mp hn
      obtain rfl := Except.ok.inj hn
      obtain rfl := Except.ok.inj (htext.symm.trans hs)
      exact (Tell.textElement (by decide) (by decide) text).cons (ih hns htexts)

theorem depicts_cells (p : Preset) (texts : List String) :
    Depicts p (texts.map (.text "td")) (texts.map fun s => ⟨.tableCell, some s⟩) := by
  induction texts with
  | nil => exact .nil
  | cons text texts ih => exact .item .cell ih

/-- A row is its cells and, after them, the band that it takes up. -/
theorem drawCells_agree {columns : List Column} {row : Value} {n : Node}
    (h : bodyRow columns row = .ok n) (slot rowHeight : α) (font : String) (size : α) :
    Records (d.drawCells slot rowHeight font size .tableCell 0 (columns.map fun c => (c, c.shown row)))
      fun new => Agree true d.preset [n] (new ++ [⟨.tableRow, none⟩]) := by
  obtain ⟨cells, hcells, h⟩ := bind_eq_ok_iff.mp h
  obtain rfl := Except.ok.inj h
  refine (records_drawCells d ..).mono ?_
  rintro _ ⟨texts, htexts, rfl⟩
  rw [List.map_map] at htexts
  exact ⟨_, .row (tell_bodyCells hcells htexts), (depicts_cells d.preset texts).append (.single .row)⟩

theorem drawHead_agrees (slot rowHeight : α) (columns : List Column) :
    Records (d.drawHead slot rowHeight columns) fun new =>
      ∀ mention ∈ new, mention.role ∈ ornamentRoles := by
  refine (quiet_ensureSpace d _).bind fun _ => Records.read fun font _ => (quiet_size d _).bind fun size => ?_
  refine (records_drawCells d ..).bind (fun _ => Quiet.get.bind fun s =>
    Records.quietly (records_drawLine ..) fun _ => quiet_moveDown _) ?_
  rintro _ _ ⟨texts, -, rfl⟩ rfl mention hmention
  rcases List.mem_append.mp hmention with hmention | hmention
  · obtain ⟨text, -, rfl⟩ := List.mem_map.mp hmention
    exact List.mem_of_elem_eq_true rfl
  · obtain rfl := List.mem_singleton.mp hmention
    decide

theorem tell_head (columns : List Column) :
    Tell false [.element .thead [] [.element .tr [] (columns.map headCell)]] [] := by
  have hcells : Tell false (columns.map headCell) [] := by
    induction columns with
    | nil => exact .nil
    | cons c columns ih =>
      have hname : IsName Tag.th.name := by decide
      have hcell : Tell false [headCell c] [] :=
        .element hname (by decide) (by decide) (by decide) (.text c.label)
      exact hcell.cons ih
  exact .element (by decide) (by decide) (by decide) (by decide)
    (.element (by decide) (by decide) (by decide) (by decide) hcells)

theorem drawRows_agrees (slot rowHeight : α) (font : String) (size : α) (columns : List Column)
    (rows : List Value) (ns : List Node) (h : rows.mapM (bodyRow columns) = .ok ns) :
    Records (d.drawRows slot rowHeight font size columns rows) (Agree true d.preset ns) := by
  induction rows generalizing ns with
  | nil =>
    obtain rfl := Except.ok.inj h
    exact .pure .nil
  | cons row rows ih =>
    obtain ⟨n, ns, hn, hns, rfl⟩ := mapM_cons_eq_ok_iff.mp h
    rw [Setup.drawRows]
    have hband : ∀ (t : Sheet α), Records
        (record .row d.geometry.left (t.y - rowHeight) d.geometry.contentWidth rowHeight .tableRow
          >>= fun _ => moveDown rowHeight >>= fun _ => d.drawRows slot rowHeight font size columns rows)
        fun new => ∃ rest, new = [⟨.tableRow, none⟩] ++ rest ∧ Agree true d.preset ns rest := by
      intro t
      refine (records_record ..).bind (fun _ => (quiet_moveDown _).bind fun _ => ih ns hns) ?_
      rintro _ rest rfl hrest
      exact ⟨rest, rfl, hrest⟩
    refine (quiet_ensureSpace d _).bind fun _ =>
      (drawCells_agree d hn slot rowHeight font size).bind (fun _ => Quiet.get.bind hband) ?_
    rintro cells _ hcells ⟨rest, rfl, hrest⟩
    rw [← List.append_assoc]
    exact hcells.append hrest

theorem drawTable_agrees {path : Option String} {columns : List Column} {showHeader : Bool}
    {parts : List Node} (h : tableNodes d.context path columns showHeader = .ok parts)
    (attributes : Attributes) :
    Records (d.drawTable path columns showHeader)
      (Agree false d.preset [.element .table attributes parts]) := by
  suffices hparts : Records (d.drawTable path columns showHeader) (Agree false d.preset parts) from
    hparts.mono fun _ hnew => hnew.element (by decide) (by decide) (by decide) (by decide)
  obtain ⟨rows, hrows, h⟩ := bind_eq_ok_iff.mp h
  obtain ⟨body, hbody, h⟩ := bind_eq_ok_iff.mp h
  obtain rfl := Except.ok.inj h
  have hbodies : ∀ (slot rowHeight : α), Records
      (liftM (d.preset.font false false) >>= fun font => d.size .tableCellSize >>= fun size =>
        d.drawRows slot rowHeight font size columns rows)
      (Agree false d.preset [.element .tbody [] body]) := fun slot rowHeight => by
    refine Records.read fun font _ => (quiet_size d _).bind fun size => ?_
    refine (drawRows_agrees d slot rowHeight font size columns rows body hbody).mono ?_
    rintro new ⟨content, hcontent, hnew⟩
    exact ⟨content, hcontent.tableBody, hnew⟩
  refine Records.read fun drawn hdrawn => ?_
  obtain rfl := Except.ok.inj (hrows.symm.trans hdrawn)
  refine (quiet_size d _).bind fun rowHeight => ?_
  cases showHeader with
  | false => exact hbodies _ rowHeight
  | true =>
    refine (drawHead_agrees d _ rowHeight columns).bind (fun _ => hbodies _ rowHeight) fun l r hl hr => ?_
    exact (Agree.ornaments (tell_head columns) hl).append hr

/-! ## Boxes -/

/-- The border of a box is an ornament, drawn after what the box holds. -/
theorem drawBox_agrees {inside : Draw α Unit} {ns : List Node}
    (h : Records inside (Agree false d.preset ns)) (attributes : Attributes) (style : Style) :
    Records (d.drawBox style inside) (Agree false d.preset [.element .div attributes ns]) := by
  have hrest : ∀ (pad : α) (f : Sheet α → α → Sheet α → Draw α Unit),
      (∀ start inset s, Records (f start inset s) (· = [⟨.boxBorder, none⟩])) → Records
        (d.size .boxInset >>= fun inset => get >>= fun start => moveDown pad >>= fun _ =>
          inside >>= fun _ => moveDown pad >>= fun _ => get >>= f start inset)
        (Agree false d.preset [.element .div attributes ns]) := by
    intro pad f hf
    refine (quiet_size d _).bind fun inset => Quiet.get.bind fun start => (quiet_moveDown pad).bind fun _ =>
      h.bind (fun _ => (quiet_moveDown pad).bind fun _ => Quiet.get.bind (hf start inset)) ?_
    rintro l _ hl rfl
    have hborder : Agree false d.preset [] [⟨.boxBorder, none⟩] := .ornaments .nil (by decide)
    have hall := hl.append hborder
    rw [List.append_nil] at hall
    exact hall.element (by decide) (by decide) (by decide) (by decide)
  unfold Setup.drawBox
  cases style.padding with
  | none => exact (quiet_size d _).bind fun pad => hrest pad _ fun _ _ _ => records_drawFrame ..
  | some x => exact (Quiet.pure _).bind fun pad => hrest pad _ fun _ _ _ => records_drawFrame ..

/-! ## Namesakes -/

theorem drawNamesakeImage_agrees {common : Common} {style : String} {extras : Fields} {ns : List Node}
    (h : namesakeNodes d.context common style extras .image = .ok ns) :
    Records (d.drawNamesakeImage common extras) (Agree false d.preset ns) := by
  obtain ⟨source, hsource, h⟩ := bind_eq_ok_iff.mp h
  refine Records.read fun drawn hdrawn => ?_
  obtain rfl := Except.ok.inj (hsource.symm.trans hdrawn)
  by_cases hthere : source.isTruthy
  · rw [if_pos hthere] at h ⊢
    obtain ⟨width, -, h⟩ := bind_eq_ok_iff.mp h
    obtain ⟨height, -, h⟩ := bind_eq_ok_iff.mp h
    obtain ⟨address, -, h⟩ := bind_eq_ok_iff.mp h
    obtain rfl := Except.ok.inj h
    exact Records.read fun _ _ => Records.read fun _ _ => drawPicture_agrees d ..
  · rw [if_neg hthere] at h ⊢
    obtain rfl := Except.ok.inj h
    exact .pure .nil

/-- A table of columns that cannot be read is shown if it has neither a head nor rows. -/
theorem drawNamesakeTable_agrees {common : Common} {style : String} {extras : Fields} {ns : List Node}
    (h : namesakeNodes d.context common style extras .table = .ok ns) :
    Records (d.drawNamesakeTable extras) (Agree false d.preset ns) := by
  obtain ⟨columns, hcolumns, h⟩ := bind_eq_ok_iff.mp h
  obtain ⟨path, hpath, h⟩ := bind_eq_ok_iff.mp h
  obtain ⟨showHeader, hheader, h⟩ := bind_eq_ok_iff.mp h
  obtain ⟨rows, hrows, h⟩ := bind_eq_ok_iff.mp h
  refine Records.read fun _ hread => ?_
  obtain rfl := Except.ok.inj (hcolumns.symm.trans hread)
  refine Records.read fun _ hread => ?_
  obtain rfl := Except.ok.inj (hpath.symm.trans hread)
  refine Records.read fun _ hread => ?_
  obtain rfl := Except.ok.inj (hheader.symm.trans hread)
  have hparts : ∀ parts, tableNodes d.context path [] showHeader = .ok parts →
      Records (d.drawTable path [] showHeader) (Agree false d.preset [grid style parts]) :=
    fun parts hparts => drawTable_agrees d hparts _
  rcases columns with _ | _ | count
  · exact .fail
  · rw [if_neg fun hne => hne.1 rfl] at h
    obtain ⟨parts, htable, h⟩ := bind_eq_ok_iff.mp h
    obtain rfl := Except.ok.inj h
    exact hparts parts htable
  · split at h
    · cases h
    · next hnothing =>
      obtain ⟨parts, htable, h⟩ := bind_eq_ok_iff.mp h
      obtain rfl := Except.ok.inj h
      have hshown : ¬(showHeader || !rows.isEmpty) := fun hsome => hnothing ⟨nofun, hsome⟩
      refine Records.read fun _ hread => ?_
      obtain rfl := Except.ok.inj (hrows.symm.trans hread)
      refine (quiet_size d _).bind fun _ => ?_
      rw [if_neg hshown]
      obtain ⟨rfl, rfl⟩ : showHeader = false ∧ rows = [] := by simpa using hshown
      obtain rfl : [Node.element .tbody [] []] = parts := by
        rw [tableNodes, hrows] at htable
        exact Except.ok.inj htable
      have hempty : Tell false [.element .tbody [] []] [] := .tableBody .nil
      exact .pure ⟨[], hempty.element (by decide) (by decide) (by decide) (by decide), .nil⟩

theorem drawNamesake_agrees {common : Common} {style : String} {extras : Fields} {kind : Kind} {ns : List Node}
    (h : namesakeNodes d.context common style extras kind = .ok ns) (s : Style) :
    Records (d.drawNamesake common s extras kind) (Agree false d.preset ns) := by
  cases kind with
  | heading =>
    obtain ⟨level, hlevel, h⟩ := bind_eq_ok_iff.mp h
    refine Records.read fun drawn hdrawn => ?_
    obtain rfl := Except.ok.inj (hlevel.symm.trans hdrawn)
    exact drawHeading_agrees d (Namesake.numberText_level hlevel) h s
  | text => exact drawParagraph_agrees d h s
  | list =>
    obtain ⟨_, -, h⟩ := bind_eq_ok_iff.mp h
    obtain rfl := Except.ok.inj h
    have hnone : listItems d.context [] = .ok [] := rfl
    exact Records.read fun _ _ => drawList_agrees d _ hnone s
  | chips =>
    obtain ⟨_, -, h⟩ := bind_eq_ok_iff.mp h
    obtain rfl := Except.ok.inj h
    have hnone : [].mapM (chipNodes d.context) = .ok [] := rfl
    exact Records.read fun _ _ => drawChipRows_agrees d hnone _ s
  | divider =>
    obtain rfl := Except.ok.inj h
    exact drawDivider_agrees d _
  | spacer =>
    refine Records.read fun x hx => ?_
    cases hgap : Namesake.gap extras with
    | error e =>
      rw [namesakeNodes, hgap] at h
      cases h
    | ok height =>
      rw [namesakeNodes, hgap] at h
      obtain rfl := Except.ok.inj h
      exact drawSpacer_agrees d _ (Namesake.numberText_gap hx hgap)
  | image => exact drawNamesakeImage_agrees d h
  | box =>
    obtain ⟨_, -, h⟩ := bind_eq_ok_iff.mp h
    obtain rfl := Except.ok.inj h
    exact drawBox_agrees d (.reading _ .nil) _ s
  | table => exact drawNamesakeTable_agrees d h

/-! ## Layouts -/

/-- What a component shows and what is drawn of it agree if that is so of its children. -/
theorem drawKind_agrees {inside : List Node} {children : Draw α Unit}
    (hchildren : Records children (Agree false d.preset inside)) {c : Component} {ns : List Node}
    (h : shownNodes d.context inside c = .ok ns) :
    Records (d.drawKind children c) (Agree false d.preset ns) := by
  cases c with
  | heading common level => exact drawHeading_agrees d (numberText_headingLevel level) h _
  | text common => exact drawParagraph_agrees d h _
  | list common items =>
    obtain ⟨lis, hlis, h⟩ := bind_eq_ok_iff.mp h
    obtain rfl := Except.ok.inj h
    exact drawList_agrees d _ hlis _
  | chips common chips =>
    obtain ⟨spans, hspans, h⟩ := bind_eq_ok_iff.mp h
    obtain rfl := Except.ok.inj h
    exact drawChipRows_agrees d hspans _ _
  | divider common =>
    obtain rfl := Except.ok.inj h
    exact drawDivider_agrees d _
  | spacer common size =>
    obtain rfl := Except.ok.inj h
    exact drawSpacer_agrees d _ (by rw [String.toList_ofList]; exact .wholeOrFull size)
  | image common url width height =>
    obtain ⟨source, hsource, h⟩ := bind_eq_ok_iff.mp h
    obtain rfl := Except.ok.inj h
    exact drawImage_agrees d hsource _ _ _
  | box common cs =>
    obtain rfl := Except.ok.inj h
    exact drawBox_agrees d hchildren _ _
  | table common path columns showHeader =>
    obtain ⟨parts, hparts, h⟩ := bind_eq_ok_iff.mp h
    obtain rfl := Except.ok.inj h
    exact drawTable_agrees d hparts _
  | unknown common name extras =>
    rw [shownNodes] at h
    rw [Setup.drawKind]
    cases hkind : Kind.named? name with
    | some kind =>
      rw [hkind] at h
      exact drawNamesake_agrees d h _
    | none =>
      rw [hkind] at h
      obtain rfl := Except.ok.inj h
      exact .pure .nil

theorem shownOrFail_agrees {elements : Except Failure (List Node)} {children : Draw α Unit}
    (hchildren : ∀ inside, elements = .ok inside → Records children (Agree false d.preset inside))
    {c : Component} {ns : List Node} (h : shownOrFail d.context elements c = .ok ns) :
    Records (d.shownOrFail children c) (Agree false d.preset ns) := by
  rw [Setup.shownOrFail]
  rcases shownOrFail_cases h with ⟨hkind, rfl⟩ | ⟨hkind, hvisible, rfl⟩ | ⟨hkind, hvisible, ms, hms, h⟩
  · rw [if_pos hkind]
    exact .pure .nil
  all_goals
    rw [if_neg hkind]
    refine Records.read fun visible hdrawn => ?_
    obtain rfl := Except.ok.inj (hvisible.symm.trans hdrawn)
  · exact .pure .nil
  · exact (drawKind_agrees d (hchildren ms hms) h).quietly fun _ => .modify fun s => by
      unfold leaveMargin
      split <;> rfl

mutual

theorem drawOrFail_agrees : ∀ {c : Component} {ns : List Node},
    nodesOrFail d.context c = .ok ns → Records (d.drawOrFail c) (Agree false d.preset ns)
  | .box _ _, _, h => shownOrFail_agrees d (fun _ hinside => drawAllOrFail_agrees hinside) h
  | .heading .., _, h | .text .., _, h | .list .., _, h | .chips .., _, h | .divider .., _, h
  | .spacer .., _, h | .image .., _, h | .table .., _, h | .unknown .., _, h =>
    shownOrFail_agrees d (fun _ hinside => Except.ok.inj hinside ▸ .pure .nil) h

theorem drawAllOrFail_agrees : ∀ {cs : List Component} {ns : List Node},
    nodesOfAllOrFail d.context cs = .ok ns → Records (d.drawAllOrFail cs) (Agree false d.preset ns)
  | [], _, h => Except.ok.inj h ▸ .pure .nil
  | c :: cs, ns, h => by
    obtain ⟨ms, hms, h⟩ := bind_eq_ok_iff.mp h
    obtain ⟨ns', hns, h⟩ := bind_eq_ok_iff.mp h
    obtain rfl := Except.ok.inj h
    exact (drawOrFail_agrees hms).bind (fun _ => drawAllOrFail_agrees hns) fun _ _ hl hr => hl.append hr

end

theorem quiet_opening : Quiet d.opening :=
  (quiet_call _).bind fun _ => quiet_startPage d

/-- Where nothing goes wrong in the elements of a layout or on its pages, both show the same content in the
same order. -/
theorem body_agrees_with_pages (layout : Layout) (hbody : (bodyOrFail layout d.context).isOk)
    (hpages : (d.documentOrFail layout).isOk) :
    ∃ drawn, d.document layout = .ok drawn ∧
      SameContent d.preset (items false (readMarks (printNodes (body layout d.context))))
        (mentionsOf drawn.log) := by
  cases hns : bodyOrFail layout d.context with
  | error f =>
    rw [hns] at hbody
    cases hbody
  | ok ns =>
    cases hdrawn : d.documentOrFail layout with
    | error f =>
      rw [hdrawn] at hpages
      cases hpages
    | ok drawn =>
      refine ⟨drawn, d.document_of_documentOrFail hdrawn, ?_⟩
      rw [Setup.documentOrFail] at hdrawn
      split at hdrawn
      · cases hdrawn
      · next t ht =>
        obtain rfl := Except.ok.inj hdrawn
        have hall := (quiet_opening d).bind fun _ => drawAllOrFail_agrees d hns
        obtain ⟨new, hnew, content, hcontent, hdepicts⟩ := hall.added ht
        have hlog : mentionsOf (t.log.push (.call .showPage)) = new := by
          rw [mentionsOf_push_call, hnew]
          rfl
        rw [body_of_bodyOrFail hns, hcontent.items_eq, hlog]
        exact .of_depicts hdepicts

/-- A box with text, a list, chips and a table, and a rule below it. -/
def smallLayout : Layout :=
  [.box { id := "box" }
    [.heading { id := "title", text := some "For {{ name }}" } 1,
      .list { id := "list" } [{ label := some "first" }],
      .chips { id := "chips" } [{ label := some "new" }],
      .table { id := "table" } (some "rows") [{ key := "k", label := "K" }] true],
    .divider { id := "rule" }]

/-- What the small layout is drawn for. -/
def smallContext : Value :=
  .record [("name", .text "Ann"), ("rows", .list [.record [("k", .text "v & w")]])]

/-- Upright pages with a frame. -/
def smallSetup : Setup Float :=
  ⟨.standard, .standard, smallContext, "Small", frameHook .standard .standard, pngPictures⟩

theorem smallLayout_agrees :
    (bodyOrFail smallLayout smallContext).isOk ∧ (smallSetup.documentOrFail smallLayout).isOk ∧
      ∃ drawn, smallSetup.document smallLayout = .ok drawn ∧
        SameContent .standard (items false (readMarks (printNodes (body smallLayout smallContext))))
          (mentionsOf drawn.log) := by
  have hbody : (bodyOrFail smallLayout smallContext).isOk := by decide +kernel
  have hpages : (smallSetup.documentOrFail smallLayout).isOk := by decide +kernel
  exact ⟨hbody, hpages, body_agrees_with_pages smallSetup smallLayout hbody hpages⟩

end DocTemplate.Agreement
