import DocTemplate.Layout.Same
import DocTemplate.Proofs.Layout.ReadBack

/-!
# Round trips

Writing a layout that was read loses nothing: what is written is read back as the same layout. Main
statement: `dump_loses_nothing`.
-/

namespace DocTemplate

open Checked

/-- The loose values of what a component shares: those that its conditions compare with. -/
def Common.loose (c : Common) : List Value := c.visibleWhen.map (·.value)

mutual

/-- The loose values of a component and of what it holds. -/
def Component.loose : Component → List Value
  | .box c children => c.loose ++ looseOfAll children
  | .unknown c _ extras => c.loose ++ extras.map (·.2)
  | .heading c _ | .text c | .list c _ | .chips c _ | .divider c | .spacer c _ | .image c _ _ _
  | .table c _ _ _ => c.loose

/-- The loose values of components. -/
def looseOfAll : List Component → List Value
  | [] => []
  | c :: cs => c.loose ++ looseOfAll cs

end

/-- The loose values of a layout: they are of no type that reading would check. -/
def Layout.loose (layout : Layout) : List Value := looseOfAll layout

/-! ## Components of known kinds -/

theorem readChildren_append {shared : Fields} (h : ∀ f ∈ shared, f.1 ≠ "children") (own : Fields) :
    readChildren (shared ++ own) = readChildren own := by
  induction shared with
  | nil => rfl
  | cons f shared ih =>
    obtain ⟨key, v⟩ := f
    have hkey : (key == "children") = false := by simpa using h (key, v) List.mem_cons_self
    rw [List.cons_append, readChildren, hkey]
    exact ih fun g hg => h g (List.mem_cons_of_mem _ hg)

/-- A component of a known kind is read back if its own fields are, whatever stands before them. -/
theorem readComponent_dumpWith {c : Component} {k : Kind} (hname : c.kindName = k.name)
    (hcommon : c.common.Loaded) (hfinite : ∀ v ∈ c.common.loose, v.isFiniteData) {own : Fields}
    (hkeys : ∀ f ∈ own, f.1 ∉ sharedKeys) (hset : AllSet own)
    (hread : ∀ fields : Fields, readCommon fields = .accepted c.common →
      (∀ key ∉ sharedKeys, fields.lookup key = own.lookup key) →
      readChildren fields = readChildren own →
      readKind fields (fun _ => readChildren fields) k = .accepted c) :
    ∃ v, c.dumpWith own = .ok v ∧ readComponent v = .accepted c := by
  have hvalues : ∀ w ∈ c.common.visibleWhen, w.value.isFiniteData := fun w hw =>
    hfinite w.value (List.mem_map_of_mem hw)
  obtain ⟨shared, _, hdump, hback, hsame⟩ := hcommon.readsBack c.kindName
  obtain rfl := hsame hvalues
  refine ⟨.record (shared ++ own), bind_eq_ok_iff.mpr ⟨shared, hdump, rfl⟩, ?_⟩
  have hfields : dropNulls (shared ++ own) = shared ++ own :=
    dropNulls_eq_self (allSet_append.mpr ⟨hback.set, hset⟩)
  have htype : kindOf? (shared ++ own) = some k := by
    simp [kindOf?, Fields.get?, List.lookup_append, hback.kind, hname, Kind.named?_name]
  have hlookup : ∀ key ∉ sharedKeys, (shared ++ own).lookup key = own.lookup key := by
    intro key hkey
    have hnone : shared.lookup key = none :=
      lookup_eq_none_of_ne fun f hf => ne_of_mem_of_not_mem (hback.keys f hf) hkey
    rw [List.lookup_append, hnone, Option.none_or]
  have hchildren : readChildren (shared ++ own) = readChildren own :=
    readChildren_append (fun f hf => ne_of_mem_of_not_mem (hback.keys f hf) (by decide)) own
  rw [readComponent, hfields, htype]
  dsimp only
  rw [hread _ (hback.read own hkeys) hlookup hchildren, inside_accepted]

/-- The extras are what does not stand under a key that all components have. -/
theorem extrasOf_append {shared extras : Fields} (hshared : ∀ f ∈ shared, f.1 ∈ sharedKeys)
    (hconditions : (shared.lookup "visibleWhen").isSome) (hextras : ∀ f ∈ extras, f.1 ∉ sharedKeys) :
    extrasOf (shared ++ extras) = extras := by
  obtain ⟨v, hv⟩ := Option.isSome_iff_exists.mp hconditions
  have hfind : visibleWhenName.find? (shared ++ extras) = some ("visibleWhen", v) := by
    simp [FieldName.find?, visibleWhenName, List.lookup_append, hv]
  have hkept : extrasOf (shared ++ extras) =
      (shared ++ extras).filter fun f => decide (f.1 ∉ sharedKeys) := by
    rw [extrasOf, hfind]
    refine List.filter_congr fun f _ => ?_
    simp [sharedKeys, and_comm]
  rw [hkept, List.filter_append, List.filter_eq_nil_iff.mpr, List.filter_eq_self.mpr, List.nil_append]
  · exact fun f hf => decide_eq_true (hextras f hf)
  · exact fun f hf => by simp [hshared f hf]

section

variable {c : Common} (h : c.Loaded) (hfinite : ∀ v ∈ c.loose, v.isFiniteData)

include h hfinite

theorem readComponent_heading (level : Int) : ∃ v, (Component.heading c level).dump = .ok v ∧
    readComponent v = .accepted (.heading c level) := by
  refine readComponent_dumpWith (c := .heading c level) (k := .heading) rfl h hfinite
    (by simp [sharedKeys]) (by simp [Value.isNull]) fun fields hcommon hown _ => ?_
  have hlevel : withDefault fields (.word "level") 2 readWhole = .accepted level :=
    withDefault_eq_accepted (v := .int level) (hown "level" (by decide)) rfl
  rw [readKind, hcommon, hlevel]
  rfl

theorem readComponent_text : ∃ v, (Component.text c).dump = .ok v ∧
    readComponent v = .accepted (.text c) := by
  refine readComponent_dumpWith (c := .text c) (k := .text) rfl h hfinite (by simp) allSet_nil
    fun fields hcommon _ _ => ?_
  rw [readKind, hcommon]
  rfl

theorem readComponent_list (items : List ListItem) : ∃ v, (Component.list c items).dump = .ok v ∧
    readComponent v = .accepted (.list c items) := by
  refine readComponent_dumpWith (c := .list c items) (k := .list) rfl h hfinite
    (by simp [sharedKeys]) (by simp [Value.isNull]) fun fields hcommon hown _ => ?_
  have hitems : withDefault fields (.word "items") [] (readSequence readListItem) = .accepted items :=
    withDefault_eq_accepted (hown "items" (by decide)) (readSequence_map fun i _ => readListItem_dump i)
  rw [readKind, hcommon, hitems]
  rfl

theorem readComponent_chips (chips : List Chip) : ∃ v, (Component.chips c chips).dump = .ok v ∧
    readComponent v = .accepted (.chips c chips) := by
  refine readComponent_dumpWith (c := .chips c chips) (k := .chips) rfl h hfinite
    (by simp [sharedKeys]) (by simp [Value.isNull]) fun fields hcommon hown _ => ?_
  have hitems : withDefault fields (.word "items") [] (readSequence readChip) = .accepted chips :=
    withDefault_eq_accepted (hown "items" (by decide)) (readSequence_map fun i _ => readChip_dump i)
  rw [readKind, hcommon, hitems]
  rfl

theorem readComponent_divider : ∃ v, (Component.divider c).dump = .ok v ∧
    readComponent v = .accepted (.divider c) := by
  refine readComponent_dumpWith (c := .divider c) (k := .divider) rfl h hfinite (by simp) allSet_nil
    fun fields hcommon _ _ => ?_
  rw [readKind, hcommon]
  rfl

theorem readComponent_spacer {size : Float} (hsize : 0 ≤ size) :
    ∃ v, (Component.spacer c size).dump = .ok v ∧ readComponent v = .accepted (.spacer c size) := by
  refine readComponent_dumpWith (c := .spacer c size) (k := .spacer) rfl h hfinite
    (by simp [sharedKeys]) (by simp [Value.isNull]) fun fields hcommon hown _ => ?_
  have hread : withDefault fields (.word "size") 12.0 readSize = .accepted size :=
    withDefault_eq_accepted (v := .float size) (hown "size" (by decide)) (readSize_float hsize)
  rw [readKind, hcommon, hread]
  rfl

theorem readComponent_image (url : Option String) {width height : Option Float} (hwidth : Sized width)
    (hheight : Sized height) : ∃ v, (Component.image c url width height).dump = .ok v ∧
      readComponent v = .accepted (.image c url width height) := by
  refine readComponent_dumpWith (c := .image c url width height) (k := .image) rfl h hfinite
    (fun f hf => ?_) (by simp [Value.isNull]) fun fields hcommon hown _ => ?_
  · simp only [List.mem_append] at hf
    rcases hf with (hf | hf) | hf <;> simp [key_of_mem_entry hf, sharedKeys]
  have hurl : optional fields (.word "url") readText = .accepted url :=
    optional_readText (by simp [hown "url" (by decide), List.lookup_append])
  have hwidth : optional fields (.word "width") readSize = .accepted width :=
    optional_word_eq_accepted (by simp [hown "width" (by decide), List.lookup_append])
      fun x hx => readSize_float (hwidth x hx)
  have hheight : optional fields (.word "height") readSize = .accepted height :=
    optional_word_eq_accepted (by simp [hown "height" (by decide), List.lookup_append])
      fun x hx => readSize_float (hheight x hx)
  rw [readKind, hcommon, hurl, hwidth, hheight]
  rfl

theorem readComponent_table (path : Option String) {columns : List Column}
    (hcolumns : ∀ k ∈ columns, Sized k.width) (header : Bool) :
    ∃ v, (Component.table c path columns header).dump = .ok v ∧
      readComponent v = .accepted (.table c path columns header) := by
  refine readComponent_dumpWith (c := .table c path columns header) (k := .table) rfl h hfinite
    (fun f hf => ?_) (by simp [Value.isNull]) fun fields hcommon hown _ => ?_
  · simp only [List.mem_append, List.mem_cons, List.not_mem_nil, or_false] at hf
    rcases hf with hf | rfl | rfl
    · simp [key_of_mem_entry hf, sharedKeys]
    · simp [sharedKeys]
    · simp [sharedKeys]
  have hwire : fields.lookup "rowsBinding" = path.map .text := by
    simp [hown "rowsBinding" (by decide), List.lookup_append]
  have hpath : optional fields ⟨"rowsBinding", "rows_binding"⟩ readText = .accepted path :=
    optional_eq_accepted hwire
      (fun _ => by simp [hown "rows_binding" (by decide), List.lookup_append]) fun _ _ => rfl
  have hread : withDefault fields (.word "columns") [] (readSequence readColumn) = .accepted columns :=
    withDefault_eq_accepted (by simp [FieldName.word, hown "columns" (by decide), List.lookup_append])
      (readSequence_map fun k hk => readColumn_dump (hcolumns k hk))
  have hheader : withDefault fields ⟨"showHeader", "show_header"⟩ true readFlag = .accepted header :=
    withDefault_eq_accepted (v := .bool header)
      (by simp [hown "showHeader" (by decide), List.lookup_append]) rfl
  rw [readKind, hcommon, hpath, hread, hheader]
  rfl

theorem readComponent_box {children back : List Component} {inner : List Value}
    (hdump : dumpComponents children = .ok inner)
    (hinner : ∀ index : Nat, readComponents index inner = .accepted back) :
    ∃ v, (Component.box c children).dump = .ok v ∧ readComponent v = .accepted (.box c back) := by
  rw [Component.dump, hdump]
  refine readComponent_dumpWith (c := .box c back) (k := .box) rfl h hfinite
    (by simp [sharedKeys]) (by simp [Value.isNull]) fun fields hcommon _ hchildren => ?_
  have hread : readChildren fields = .accepted back := by
    rw [hchildren]
    simp [readChildren, Value.isNull, readChildList, hinner]
  rw [readKind, hcommon, hread]
  rfl

end

/-- An unknown component is read back as one of its kind: neither the kind nor an extra is taken for something
known. It is what it was, if its loose values are finite. -/
theorem readComponent_unknown {c : Common} {kind : String} {extras : Fields} (h : c.Loaded)
    (hkind : Kind.named? kind = none) (hextras : ExtrasLoaded extras) :
    ∃ v back, (Component.unknown c kind extras).dump = .ok v ∧ readComponent v = .accepted back ∧
      back.kindName = kind ∧
      ((∀ v ∈ (Component.unknown c kind extras).loose, v.isFiniteData) → back = .unknown c kind extras) := by
  obtain ⟨shared, common, hdump, hback, hsame⟩ := h.readsBack kind
  obtain ⟨own, hown⟩ := Value.exists_toPlainFields hextras.plain
  have hkeys : ∀ f ∈ dropNulls own, f.1 ∉ sharedKeys := fun f hf => by
    obtain ⟨g, hg, hkey⟩ := Value.exists_mem_of_toPlainFields hown (List.mem_filter.mp hf).1
    exact hkey ▸ hextras.own g hg
  refine ⟨.record (shared ++ own), .unknown common kind (dropNulls own), ?_, ?_, rfl, fun hfinite => ?_⟩
  · rw [Component.dump]
    exact bind_eq_ok_iff.mpr ⟨own, hown, bind_eq_ok_iff.mpr ⟨shared, hdump, rfl⟩⟩
  · have hfields : dropNulls (shared ++ own) = shared ++ dropNulls own := by
      rw [dropNulls_append, dropNulls_eq_self hback.set]
    have htype : (shared ++ dropNulls own).lookup "type" = some (.text kind) := by
      simp [List.lookup_append, hback.kind]
    have hname : required (shared ++ dropNulls own) (.word "type") readText = .accepted kind :=
      required_eq_accepted htype rfl
    have hleft := extrasOf_append hback.keys hback.conditions hkeys
    rw [readComponent, hfields]
    simp only [kindOf?, Fields.get?, htype, hkind]
    rw [readUnknown, hback.read _ hkeys, hname, hleft]
    rfl
  · obtain ⟨hcommon, hvalues⟩ := List.forall_mem_append.mp hfinite
    rw [Value.toPlainFields_eq_self hextras.plain (List.forall_mem_map.mp hvalues)] at hown
    obtain rfl := Except.ok.inj hown
    rw [hsame (List.forall_mem_map.mp hcommon), dropNulls_eq_self hextras.set]

/-! ## Layouts -/

mutual

/-- A component that was read is written as what is read as the same component. -/
theorem readComponent_dump : ∀ {c : Component}, c.Loaded → (∀ v ∈ c.loose, v.isFiniteData) →
    ∃ v, c.dump = .ok v ∧ readComponent v = .accepted c
  | .heading _ level, h, hfinite => readComponent_heading h hfinite level
  | .text _, h, hfinite => readComponent_text h hfinite
  | .list _ items, h, hfinite => readComponent_list h hfinite items
  | .chips _ chips, h, hfinite => readComponent_chips h hfinite chips
  | .divider _, h, hfinite => readComponent_divider h hfinite
  | .spacer _ _, ⟨h, hsize⟩, hfinite => readComponent_spacer h hfinite hsize
  | .image _ url _ _, ⟨h, hwidth, hheight⟩, hfinite =>
    readComponent_image h hfinite url hwidth hheight
  | .box c children, ⟨h, hchildren⟩, hfinite => by
    obtain ⟨hcommon, hinner⟩ := List.forall_mem_append.mp hfinite
    obtain ⟨inner, hdump, hread⟩ := readComponents_dump hchildren hinner
    exact readComponent_box h hcommon hdump hread
  | .table _ path _ header, ⟨h, hcolumns⟩, hfinite =>
    readComponent_table h hfinite path hcolumns header
  | .unknown .., ⟨h, hkind, hextras⟩, hfinite => by
    obtain ⟨v, back, hdump, hread, -, hsame⟩ := readComponent_unknown h hkind hextras
    exact ⟨v, hdump, hsame hfinite ▸ hread⟩

/-- Components that were read are written as what is read as the same components. -/
theorem readComponents_dump : ∀ {cs : List Component}, LoadedAll cs →
    (∀ v ∈ looseOfAll cs, v.isFiniteData) →
    ∃ vs, dumpComponents cs = .ok vs ∧ ∀ index : Nat, readComponents index vs = .accepted cs
  | [], _, _ => ⟨[], rfl, fun _ => rfl⟩
  | c :: cs, ⟨h, hrest⟩, hfinite => by
    obtain ⟨hfirst, hlater⟩ := List.forall_mem_append.mp hfinite
    obtain ⟨v, hdump, hread⟩ := readComponent_dump h hfirst
    obtain ⟨vs, hdumps, hreads⟩ := readComponents_dump hrest hlater
    refine ⟨v :: vs, ?_, fun index => ?_⟩
    · rw [dumpComponents, hdump, hdumps]
      rfl
    · rw [readComponents, hread, hreads (index + 1)]
      rfl

end

/-- A layout that is read from plain data, and that has no infinity among its loose values, is written as
what is read as the same layout and is written the same again. -/
theorem dump_loses_nothing {source : Value} (hplain : source.isPlain) {layout : Layout}
    (hload : loadLayout source = .ok layout) (hfinite : ∀ v ∈ layout.loose, v.isFiniteData) :
    ∃ dump reloaded, dumpLayout layout = .ok dump ∧ loadLayout (.list dump) = .ok reloaded ∧
      reloaded = layout ∧ dumpLayout reloaded = .ok dump := by
  obtain ⟨dump, hdump, hread⟩ := readComponents_dump (loaded_of_loadLayout hplain hload) hfinite
  have hreload : loadLayout (.list dump) = .ok layout :=
    loadLayout_eq_ok_iff.mpr ⟨.list dump, dump, rfl, rfl, hread 0⟩
  exact ⟨dump, layout, hdump, hreload, rfl, hdump⟩

/-- A component of an unknown kind in a box, with a null among the loose values that it keeps. -/
def gaugeSource : Value :=
  .record [("components", .list [.record [
    ("id", .text "frame"),
    ("type", .text "box"),
    ("label", .null),
    ("children", .list [.record [
      ("id", .text "level"),
      ("type", .text "gauge"),
      ("unit", .list [.null, .int 1]),
      ("visible_when", .record [("field", .text "child.level"), ("operator", .text "equals"),
        ("value", .list [.null, .int 2])])]])]])]

/-- The layout of the gauge. -/
def gaugeLayout : Layout :=
  [.box { id := "frame" } [.unknown
    { id := "level", visibleWhen := [⟨"child.level", .equals, .list [.null, .int 2]⟩] } "gauge"
    [("unit", .list [.null, .int 1])]]]

theorem gaugeLayout_loses_nothing :
    gaugeSource.isPlain ∧ loadLayout gaugeSource = .ok gaugeLayout ∧
      (∀ v ∈ gaugeLayout.loose, v.isFiniteData) ∧
      ∃ dump reloaded, dumpLayout gaugeLayout = .ok dump ∧ loadLayout (.list dump) = .ok reloaded ∧
        reloaded = gaugeLayout ∧ dumpLayout reloaded = .ok dump := by
  have hplain : gaugeSource.isPlain := by decide +kernel
  have hload : loadLayout gaugeSource = .ok gaugeLayout := rfl
  have hfinite : ∀ v ∈ gaugeLayout.loose, v.isFiniteData := by decide +kernel
  exact ⟨hplain, hload, hfinite, dump_loses_nothing hplain hload hfinite⟩

/-! ## Infinities -/

/-- A condition that compares with a number beyond all doubles: it is read as infinity. -/
def overflowSource : Value :=
  .text ("[\x7b\"id\":\"x\",\"type\":\"text\",\"visibleWhen\":\x7b\"field\":\"a\"," ++
    "\"operator\":\"equals\",\"value\":1e999\x7d\x7d]")

/-- An infinity among the loose values is lost. The layout here holds no value that is not a number: it is
the same as itself. -/
theorem infinity_is_lost : overflowSource.isPlain ∧ ∃ layout, loadLayout overflowSource = .ok layout ∧
    sameLayout layout layout ∧ ∃ dump, dumpLayout layout = .ok dump ∧
      ∃ reloaded, loadLayout (.list dump) = .ok reloaded ∧ sameLayout reloaded layout = false := by
  refine ⟨by decide +kernel, ?_⟩
  have hlost : (loadLayout overflowSource).toOption.any fun layout =>
      sameLayout layout layout && (dumpLayout layout).toOption.any fun dump =>
        (loadLayout (.list dump)).toOption.any fun reloaded => !sameLayout reloaded layout := by
    decide +kernel
  obtain ⟨layout, hload, hlost⟩ := exists_ok_of_any hlost
  obtain ⟨hsame, hlost⟩ := Bool.and_eq_true_iff.mp hlost
  obtain ⟨dump, hdump, hlost⟩ := exists_ok_of_any hlost
  obtain ⟨reloaded, hreload, hlost⟩ := exists_ok_of_any hlost
  exact ⟨layout, hload, hsame, dump, hdump, reloaded, hreload, by simpa using hlost⟩

end DocTemplate
