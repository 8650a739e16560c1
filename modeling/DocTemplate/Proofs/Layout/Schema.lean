import DocTemplate.Proofs.Layout.Readings

/-!
# Nodes of a raw layout

A raw layout is made of nodes, records of seven classes, each of which stands where its class is read. What an
edit of a node changes in the reading of the layout is no more than what it changes in the reading of the
node, wherever the node stands. Main statement: `EditedLayout.agree`.
-/

namespace DocTemplate.Schema

open Checked

/-- The classes of records that a raw layout is made of. -/
inductive Node
  | component
  | style
  | border
  | condition
  | listItem
  | chip
  | column

namespace Node

/-- What a node is read as. -/
def Result : Node → Type
  | component => Component
  | style => Style
  | border => Border
  | condition => Condition
  | listItem => ListItem
  | chip => Chip
  | column => Column

def read : (n : Node) → Value → Checked n.Result
  | component => readComponent
  | style => readStyle
  | border => readBorder
  | condition => readCondition
  | listItem => readListItem
  | chip => readChip
  | column => readColumn

end Node

/-- Where nodes stand: one by itself, many in a list or tuple, or, for conditions, either. -/
inductive Site
  | one (n : Node)
  | many (n : Node)
  | conditions

namespace Site

def Result : Site → Type
  | one n => n.Result
  | many n => List n.Result
  | conditions => List Condition

def read : (s : Site) → Value → Checked s.Result
  | one n => n.read
  | many n => readSequence n.read
  | conditions => readConditions

end Site

/-- Under which fields of a node further nodes stand. Which fields of a component are read depends on its
kind, and the conditions are those under the spelling that comes first. -/
inductive Leads : Node → Fields → String → Site → Prop
  | style {fields : Fields} : Leads .component fields "style" (.one .style)
  | conditions {fields : Fields} {key : String} {v : Value}
    (h : visibleWhenName.find? (dropNulls fields) = some (key, v)) : Leads .component fields key .conditions
  | items {fields : Fields} (h : kindOf? (dropNulls fields) = some .list) :
    Leads .component fields "items" (.many .listItem)
  | chips {fields : Fields} (h : kindOf? (dropNulls fields) = some .chips) :
    Leads .component fields "items" (.many .chip)
  | columns {fields : Fields} (h : kindOf? (dropNulls fields) = some .table) :
    Leads .component fields "columns" (.many .column)
  | children {fields : Fields} (h : kindOf? (dropNulls fields) = some .box) :
    Leads .component fields "children" (.many .component)
  | border {fields : Fields} : Leads .style fields "border" (.one .border)

section

variable (edit : Node → Fields → Fields → Prop)

/-- An edit of one node of what stands at a site: of the node itself, or of one further inside. -/
inductive Edited : Site → Value → Value → Prop
  | here {n : Node} {fs gs : Fields} (h : edit n fs gs) : Edited (.one n) (.record fs) (.record gs)
  | field {n : Node} {s : Site} {v w : Value} (before : Fields) (key : String) (after : Fields)
    (hfirst : ∀ f ∈ before, f.1 ≠ key) (hleads : Leads n (before ++ (key, v) :: after) key s)
    (h : Edited s v w) :
    Edited (.one n) (.record (before ++ (key, v) :: after)) (.record (before ++ (key, w) :: after))
  | inList {n : Node} {v w : Value} (before after : List Value) (h : Edited (.one n) v w) :
    Edited (.many n) (.list (before ++ v :: after)) (.list (before ++ w :: after))
  | inTuple {n : Node} {v w : Value} (before after : List Value) (h : Edited (.one n) v w) :
    Edited (.many n) (.tuple (before ++ v :: after)) (.tuple (before ++ w :: after))
  | condition {v w : Value} (h : Edited (.one .condition) v w) : Edited .conditions v w
  | conditions {v w : Value} (h : Edited (.many .condition) v w) : Edited .conditions v w

/-- An edit of one node of a raw layout: a list or tuple of components, or a record that holds one. -/
inductive EditedLayout : Value → Value → Prop
  | components {v w : Value} (h : Edited edit (.many .component) v w) : EditedLayout v w
  | wrapped {v w : Value} (before after : Fields) (hfirst : ∀ f ∈ before, f.1 ≠ "components")
    (h : Edited edit (.many .component) v w) :
    EditedLayout (.record (before ++ ("components", v) :: after))
      (.record (before ++ ("components", w) :: after))

end

/-! ## Components as records -/

theorem readComponents_eq (index : Nat) (vs : List Value) :
    readComponents index vs = .itemsFrom index (vs.map readComponent) := by
  induction vs generalizing index with
  | nil => rfl
  | cons v vs ih => rw [readComponents, ih, List.map_cons, itemsFrom]

theorem readChildList_eq (v : Value) : readChildList v = readSequence readComponent v := by
  cases v with
  | list items => rw [readChildList, readComponents_eq, readSequence, Value.items?]
  | tuple items => rw [readChildList, readComponents_eq, readSequence, Value.items?]
  | _ => rfl

/-- The children of a box are read as a field that may be missing. -/
theorem readChildren_eq (fields : Fields) : readChildren fields =
    withDefault (dropNulls fields) (.word "children") [] (readSequence readComponent) := by
  induction fields with
  | nil => rfl
  | cons f fields ih =>
    obtain ⟨key, v⟩ := f
    by_cases hnull : v.isNull
    · rw [readChildren, ih]
      simp [dropNulls, hnull]
    · by_cases hkey : key = "children"
      · subst hkey
        rw [readChildren, readChildList_eq]
        simp [dropNulls, hnull, withDefault, FieldName.find?, FieldName.word]
      · rw [readChildren, ih]
        simp [dropNulls, hnull, hkey, withDefault, FieldName.find?, FieldName.word, Ne.symm hkey]

/-- A component as its fields are read that are set. -/
def readSet (fields : Fields) : Checked Component :=
  match kindOf? fields with
  | some kind => (readKind fields
      (fun _ => withDefault fields (.word "children") [] (readSequence readComponent)) kind).inside kind.name
  | none => (readUnknown fields).inside "unknown"

theorem readComponent_record (fields : Fields) : readComponent (.record fields) = readSet (dropNulls fields) := by
  rw [readComponent, readSet]
  cases kindOf? (dropNulls fields) with
  | none => rfl
  | some kind =>
    exact congrArg (fun children => (readKind (dropNulls fields) (fun _ => children) kind).inside kind.name)
      (readChildren_eq fields)

/-! ## Nodes with fields that are read alike -/

section

variable (spell : String → String) (fs gs : Fields)

/-- The fields of two styles are read alike. -/
structure StyleAlike : Prop where
  fontSize : FieldAlike spell readSize fs gs ⟨"fontSize", "font_size"⟩
  bold : FieldAlike spell readFlag fs gs (.word "bold")
  italic : FieldAlike spell readFlag fs gs (.word "italic")
  color : FieldAlike spell readText fs gs (.word "color")
  background : FieldAlike spell readText fs gs (.word "background")
  padding : FieldAlike spell readSize fs gs (.word "padding")
  marginBottom : FieldAlike spell readSize fs gs ⟨"marginBottom", "margin_bottom"⟩
  align : FieldAlike spell readText fs gs (.word "align")
  border : FieldAlike spell readBorder fs gs (.word "border")

/-- The fields that all components have are read alike. -/
structure CommonAlike : Prop where
  id : FieldAlike spell readText fs gs (.word "id")
  text : FieldAlike spell readText fs gs (.word "text")
  label : FieldAlike spell readText fs gs (.word "label")
  binding : FieldAlike spell readText fs gs (.word "binding")
  style : FieldAlike spell readStyle fs gs (.word "style")
  visibleWhen : FieldAlike spell readConditions fs gs visibleWhenName

/-- The fields of a kind's own are read alike. -/
inductive OwnAlike : Kind → Prop
  | heading (level : FieldAlike spell readWhole fs gs (.word "level")) : OwnAlike .heading
  | text : OwnAlike .text
  | list (items : FieldAlike spell (readSequence readListItem) fs gs (.word "items")) : OwnAlike .list
  | chips (items : FieldAlike spell (readSequence readChip) fs gs (.word "items")) : OwnAlike .chips
  | divider : OwnAlike .divider
  | spacer (size : FieldAlike spell readSize fs gs (.word "size")) : OwnAlike .spacer
  | image (url : FieldAlike spell readText fs gs (.word "url"))
    (width : FieldAlike spell readSize fs gs (.word "width"))
    (height : FieldAlike spell readSize fs gs (.word "height")) : OwnAlike .image
  | box (children : FieldAlike spell (readSequence readComponent) fs gs (.word "children")) : OwnAlike .box
  | table (rowsBinding : FieldAlike spell readText fs gs ⟨"rowsBinding", "rows_binding"⟩)
    (columns : FieldAlike spell (readSequence readColumn) fs gs (.word "columns"))
    (showHeader : FieldAlike spell readFlag fs gs ⟨"showHeader", "show_header"⟩) : OwnAlike .table

/-- The fields of two components are read alike: they are of one kind, or of one unknown kind with the same
extras. -/
structure ComponentAlike : Prop where
  common : CommonAlike spell fs gs
  kind : kindOf? fs = kindOf? gs
  own : ∀ k, kindOf? fs = some k → OwnAlike spell fs gs k
  type : FieldAlike spell readText fs gs (.word "type")
  extras : kindOf? fs = none → extrasOf fs = extrasOf gs

end

variable {spell : String → String} {fs gs : Fields}

theorem StyleAlike.agree (h : StyleAlike spell (dropNulls fs) (dropNulls gs)) :
    Agree spell (readStyle (.record fs)) (readStyle (.record gs)) := by
  have hsizes := (h.fontSize.optional.map Style.mk).seq (h.bold.withDefault false)
  have hcolors := ((hsizes.seq (h.italic.withDefault false)).seq h.color.optional).seq h.background.optional
  exact (((hcolors.seq h.padding.optional).seq h.marginBottom.optional).seq h.align.optional).seq
    h.border.optional

theorem CommonAlike.agree (h : CommonAlike spell fs gs) : Agree spell (readCommon fs) (readCommon gs) := by
  have htexts := ((h.id.required.map Common.mk).seq h.text.optional).seq h.label.optional
  exact ((htexts.seq h.binding.optional).seq h.style.optional).seq (h.visibleWhen.withDefault [])

theorem OwnAlike.agree {kind : Kind} (h : OwnAlike spell fs gs kind) (hcommon : CommonAlike spell fs gs)
    (children children' : Unit → Checked (List Component))
    (hchildren : FieldAlike spell (readSequence readComponent) fs gs (.word "children") →
      Agree spell (children ()) (children' ())) :
    Agree spell (readKind fs children kind) (readKind gs children' kind) := by
  have hc := hcommon.agree
  cases h with
  | heading level => exact (hc.map _).seq (level.withDefault 2)
  | text => exact hc.map _
  | list items => exact (hc.map _).seq (items.withDefault [])
  | chips items => exact (hc.map _).seq (items.withDefault [])
  | divider => exact hc.map _
  | spacer size => exact (hc.map _).seq (size.withDefault 12.0)
  | image url width height => exact (((hc.map _).seq url.optional).seq width.optional).seq height.optional
  | box children => exact (hc.map _).seq (hchildren children)
  | table rowsBinding columns showHeader =>
    exact (((hc.map _).seq rowsBinding.optional).seq (columns.withDefault [])).seq (showHeader.withDefault true)

theorem ComponentAlike.agree (h : ComponentAlike spell (dropNulls fs) (dropNulls gs)) :
    Agree spell (readComponent (.record fs)) (readComponent (.record gs)) := by
  rw [readComponent_record, readComponent_record, readSet, readSet, ← h.kind]
  cases hkind : kindOf? (dropNulls fs) with
  | some kind => exact ((h.own kind hkind).agree h.common _ _ fun hchildren => hchildren.withDefault []).inside rfl
  | none =>
    dsimp only
    rw [readUnknown, readUnknown, h.extras hkind]
    exact ((h.common.agree.map _).seq h.type.required).inside rfl

/-- A node is read off the fields that are set. -/
theorem Node.read_congr (n : Node) {fs gs : Fields} (h : dropNulls fs = dropNulls gs) :
    n.read (.record fs) = n.read (.record gs) := by
  cases n with
  | component =>
    change readComponent (.record fs) = readComponent (.record gs)
    rw [readComponent_record, readComponent_record, h]
  | style =>
    change readStyle (.record fs) = readStyle (.record gs)
    simp only [readStyle, readRecord, h]
  | border =>
    change readBorder (.record fs) = readBorder (.record gs)
    simp only [readBorder, readRecord, h]
  | condition =>
    change readCondition (.record fs) = readCondition (.record gs)
    simp only [readCondition, readRecord, h]
  | listItem =>
    change readListItem (.record fs) = readListItem (.record gs)
    simp only [readListItem, readRecord, h]
  | chip =>
    change readChip (.record fs) = readChip (.record gs)
    simp only [readChip, readRecord, h]
  | column =>
    change readColumn (.record fs) = readColumn (.record gs)
    simp only [readColumn, readRecord, h]

/-! ## One field exchanged -/

section

variable {before after : Fields} {key : String} {v w : Value}

theorem lookup_exchanged (hfirst : ∀ f ∈ before, f.1 ≠ key) (name : String) :
    (before ++ (key, v) :: after).lookup name =
      if name = key then some v else (before ++ after).lookup name := by
  rw [List.lookup_append, List.lookup_append, lookup_field]
  by_cases hname : name = key
  · rw [if_pos hname, if_pos hname, hname, lookup_eq_none_of_ne hfirst, Option.none_or]
  · rw [if_neg hname, if_neg hname]

/-- A field that is not the one exchanged is found as before. -/
theorem find?_exchanged (hfirst : ∀ f ∈ before, f.1 ≠ key) {name : FieldName} (hwire : name.wire ≠ key)
    (hspelled : name.spelled ≠ key) : name.find? (before ++ (key, v) :: after) = name.find? (before ++ after) := by
  simp only [FieldName.find?, lookup_exchanged hfirst, if_neg hwire, if_neg hspelled]

/-- With one field exchanged, all fields are read alike if that field is. -/
theorem fieldAlike_exchanged {α : Type} {read : Value → Checked α} (hfirst : ∀ f ∈ before, f.1 ≠ key)
    {name : FieldName} (h : key = name.wire ∨ key = name.spelled → Agree spell (read v) (read w)) :
    FieldAlike spell read (before ++ (key, v) :: after) (before ++ (key, w) :: after) name := by
  unfold FieldAlike FieldName.find?
  simp only [lookup_exchanged hfirst]
  by_cases hwire : name.wire = key
  · rw [if_pos hwire, if_pos hwire]
    exact .found rfl (h (.inl hwire.symm))
  · rw [if_neg hwire, if_neg hwire]
    cases (before ++ after).lookup name.wire with
    | some u => exact .of_eq rfl
    | none =>
      by_cases hspelled : name.spelled = key
      · rw [if_pos hspelled, if_pos hspelled]
        exact .found rfl (h (.inr hspelled.symm))
      · rw [if_neg hspelled, if_neg hspelled]
        exact .of_eq rfl

theorem key_of_find? {fields : Fields} {name : FieldName} {key : String} {v : Value}
    (h : name.find? fields = some (key, v)) : key = name.wire ∨ key = name.spelled := by
  unfold FieldName.find? at h
  split at h
  · exact .inl (Prod.mk.inj (Option.some.inj h)).1.symm
  · obtain ⟨u, -, hu⟩ := Option.map_eq_some_iff.mp h
    exact .inr (Prod.mk.inj hu).1.symm

/-- The kind of a component is named by its type alone. -/
theorem kindOf?_exchanged (hfirst : ∀ f ∈ before, f.1 ≠ key) (hkey : key ≠ "type") :
    kindOf? (before ++ (key, v) :: after) = kindOf? (before ++ (key, w) :: after) := by
  simp only [kindOf?, Fields.get?, lookup_exchanged hfirst, if_neg (Ne.symm hkey)]

/-- A field is found under the same name when one is exchanged. -/
theorem foundKey_exchanged (hfirst : ∀ f ∈ before, f.1 ≠ key) (name : FieldName) :
    (name.find? (before ++ (key, v) :: after)).map (·.1) =
      (name.find? (before ++ (key, w) :: after)).map (·.1) := by
  have h : FieldAlike id (fun _ => accepted ()) (before ++ (key, v) :: after) (before ++ (key, w) :: after) name :=
    fieldAlike_exchanged hfirst fun _ => rfl
  exact h.spelled_eq

theorem filter_exchanged {p : String × Value → Bool} (hv : ¬p (key, v)) (hw : ¬p (key, w)) :
    (before ++ (key, v) :: after).filter p = (before ++ (key, w) :: after).filter p := by
  rw [List.filter_append, List.filter_append, List.filter_cons_of_neg hv, List.filter_cons_of_neg hw]

/-- The extras stay when a field is exchanged that is none of them. -/
theorem extrasOf_exchanged (hfirst : ∀ f ∈ before, f.1 ≠ key) (hkey : key = "style" ∨
    (visibleWhenName.find? (before ++ (key, v) :: after)).map (·.1) = some key) :
    extrasOf (before ++ (key, v) :: after) = extrasOf (before ++ (key, w) :: after) := by
  unfold extrasOf
  rw [← foundKey_exchanged (v := v) (w := w) hfirst]
  rcases hkey with rfl | hkey
  · apply filter_exchanged <;> simp
  · rw [hkey]
    apply filter_exchanged <;> simp

theorem dropNulls_exchanged (hv : v.isNull = false) :
    dropNulls (before ++ (key, v) :: after) = dropNulls before ++ (key, v) :: dropNulls after := by
  rw [dropNulls_append, dropNulls, dropNulls, dropNulls, List.filter_cons_of_pos (by simp [hv])]

theorem dropNulls_null (before after : Fields) (key : String) :
    dropNulls (before ++ (key, .null) :: after) = dropNulls (before ++ after) := by
  rw [dropNulls_append, dropNulls_append]
  rfl

theorem first_dropNulls (hfirst : ∀ f ∈ before, f.1 ≠ key) : ∀ f ∈ dropNulls before, f.1 ≠ key :=
  fun f hf => hfirst f (List.mem_filter.mp hf).1

/-- What is read of two styles that differ in their borders. -/
theorem styleAlike_exchanged (hfirst : ∀ f ∈ before, f.1 ≠ "border") (h : Agree spell (readBorder v) (readBorder w)) :
    StyleAlike spell (before ++ ("border", v) :: after) (before ++ ("border", w) :: after) where
  fontSize := fieldAlike_exchanged hfirst (by simp)
  bold := fieldAlike_exchanged hfirst (by simp [FieldName.word])
  italic := fieldAlike_exchanged hfirst (by simp [FieldName.word])
  color := fieldAlike_exchanged hfirst (by simp [FieldName.word])
  background := fieldAlike_exchanged hfirst (by simp [FieldName.word])
  padding := fieldAlike_exchanged hfirst (by simp [FieldName.word])
  marginBottom := fieldAlike_exchanged hfirst (by simp)
  align := fieldAlike_exchanged hfirst (by simp [FieldName.word])
  border := fieldAlike_exchanged hfirst fun _ => h

/-- The fields under which further nodes may stand in a component. -/
def leadingKeys : List String := ["style", "visibleWhen", "visible_when", "items", "columns", "children"]

theorem other_key {name : FieldName} (hkey : key ∈ leadingKeys) (hwire : name.wire ∉ leadingKeys)
    (hspelled : name.spelled ∉ leadingKeys) {P : Prop} (h : key = name.wire ∨ key = name.spelled) : P := by
  rcases h with rfl | rfl
  · exact absurd hkey hwire
  · exact absurd hkey hspelled

/-- What is read of two components that differ in one field under which further nodes stand: that field is
read as one of all components, or as one of the kind. -/
theorem componentAlike_exchanged (hfirst : ∀ f ∈ before, f.1 ≠ key) (hkey : key ∈ leadingKeys)
    (hstyle : key = "style" → Agree spell (readStyle v) (readStyle w))
    (hconditions : key = "visibleWhen" ∨ key = "visible_when" →
      Agree spell (readConditions v) (readConditions w))
    (hown : ∀ k, kindOf? (before ++ (key, v) :: after) = some k →
      OwnAlike spell (before ++ (key, v) :: after) (before ++ (key, w) :: after) k)
    (hextras : kindOf? (before ++ (key, v) :: after) = none → key = "style" ∨
      (visibleWhenName.find? (before ++ (key, v) :: after)).map (·.1) = some key) :
    ComponentAlike spell (before ++ (key, v) :: after) (before ++ (key, w) :: after) where
  common := {
    id := fieldAlike_exchanged hfirst (other_key hkey (by decide) (by decide))
    text := fieldAlike_exchanged hfirst (other_key hkey (by decide) (by decide))
    label := fieldAlike_exchanged hfirst (other_key hkey (by decide) (by decide))
    binding := fieldAlike_exchanged hfirst (other_key hkey (by decide) (by decide))
    style := fieldAlike_exchanged hfirst (by simpa [FieldName.word] using hstyle)
    visibleWhen := fieldAlike_exchanged hfirst hconditions }
  kind := kindOf?_exchanged hfirst fun h => absurd (h ▸ hkey) (by decide)
  own := hown
  type := fieldAlike_exchanged hfirst (other_key hkey (by decide) (by decide))
  extras hnone := extrasOf_exchanged hfirst (hextras hnone)

/-- The fields of a kind's own are read alike when one is exchanged, if it is read alike where it is one of
them. -/
theorem ownAlike_exchanged (hfirst : ∀ f ∈ before, f.1 ≠ key) (hkey : key ∈ leadingKeys) {k : Kind}
    (hitems : key = "items" → k = .list →
      Agree spell (readSequence readListItem v) (readSequence readListItem w))
    (hchips : key = "items" → k = .chips → Agree spell (readSequence readChip v) (readSequence readChip w))
    (hcolumns : key = "columns" → k = .table →
      Agree spell (readSequence readColumn v) (readSequence readColumn w))
    (hchildren : key = "children" → k = .box →
      Agree spell (readSequence readComponent v) (readSequence readComponent w)) :
    OwnAlike spell (before ++ (key, v) :: after) (before ++ (key, w) :: after) k := by
  have hother {α : Type} {read : Value → Checked α} {name : FieldName} (hwire : name.wire ∉ leadingKeys)
      (hspelled : name.spelled ∉ leadingKeys) :
      FieldAlike spell read (before ++ (key, v) :: after) (before ++ (key, w) :: after) name :=
    fieldAlike_exchanged hfirst (other_key hkey hwire hspelled)
  cases k with
  | heading => exact .heading (hother (by decide) (by decide))
  | text => exact .text
  | list => exact .list (fieldAlike_exchanged hfirst fun h => hitems (by simpa [FieldName.word] using h) rfl)
  | chips => exact .chips (fieldAlike_exchanged hfirst fun h => hchips (by simpa [FieldName.word] using h) rfl)
  | divider => exact .divider
  | spacer => exact .spacer (hother (by decide) (by decide))
  | image =>
    exact .image (hother (by decide) (by decide)) (hother (by decide) (by decide)) (hother (by decide) (by decide))
  | box => exact .box (fieldAlike_exchanged hfirst fun h => hchildren (by simpa [FieldName.word] using h) rfl)
  | table =>
    exact .table (hother (by decide) (by decide))
      (fieldAlike_exchanged hfirst fun h => hcolumns (by simpa [FieldName.word] using h) rfl)
      (hother (by decide) (by decide))

/-- A component is read alike when a field of its own kind is exchanged that is read alike. -/
theorem component_agree_of_own (hfirst : ∀ f ∈ before, f.1 ≠ key) (hv : v.isNull = false) (hw : w.isNull = false)
    (hkey : key ∈ ["items", "columns", "children"]) {kind : Kind}
    (hkind : kindOf? (dropNulls (before ++ (key, v) :: after)) = some kind)
    (hown : OwnAlike spell (dropNulls before ++ (key, v) :: dropNulls after)
      (dropNulls before ++ (key, w) :: dropNulls after) kind) :
    Agree spell (readComponent (.record (before ++ (key, v) :: after)))
      (readComponent (.record (before ++ (key, w) :: after))) := by
  have hleading : key ∈ leadingKeys := by
    simp only [List.mem_cons, List.not_mem_nil, or_false] at hkey
    rcases hkey with rfl | rfl | rfl <;> decide
  have hcommon {name : String} (hname : name ∉ ["items", "columns", "children"]) {P : Prop} (h : key = name) : P :=
    absurd (h ▸ hkey) hname
  rw [dropNulls_exchanged hv] at hkind
  apply ComponentAlike.agree
  rw [dropNulls_exchanged hv, dropNulls_exchanged hw]
  refine componentAlike_exchanged (first_dropNulls hfirst) hleading (hcommon (by decide)) ?_ (fun k hk => ?_) ?_
  · rintro (h | h)
    · exact hcommon (by decide) h
    · exact hcommon (by decide) h
  · obtain rfl := Option.some.inj (hkind.symm.trans hk)
    exact hown
  · intro hnone
    rw [hkind] at hnone
    cases hnone

/-- A node is read alike when a field is exchanged under which further nodes stand that are read alike. -/
theorem Leads.agree {n : Node} {s : Site} (hleads : Leads n (before ++ (key, v) :: after) key s)
    (hfirst : ∀ f ∈ before, f.1 ≠ key) (hv : v.isNull = false) (hw : w.isNull = false)
    (h : Agree spell (s.read v) (s.read w)) :
    Agree spell (n.read (.record (before ++ (key, v) :: after))) (n.read (.record (before ++ (key, w) :: after))) := by
  have hset := first_dropNulls hfirst
  cases hleads with
  | border =>
    apply StyleAlike.agree
    rw [dropNulls_exchanged hv, dropNulls_exchanged hw]
    exact styleAlike_exchanged hset h
  | style =>
    apply ComponentAlike.agree
    rw [dropNulls_exchanged hv, dropNulls_exchanged hw]
    exact componentAlike_exchanged hset (by decide) (fun _ => h) (by simp)
      (fun k _ => ownAlike_exchanged hset (by decide) (by simp) (by simp) (by simp) (by simp)) fun _ => .inl rfl
  | conditions hfind =>
    apply ComponentAlike.agree
    rw [dropNulls_exchanged hv] at hfind
    rw [dropNulls_exchanged hv, dropNulls_exchanged hw]
    have hkey : key = "visibleWhen" ∨ key = "visible_when" := key_of_find? hfind
    have hleading : key ∈ leadingKeys := by rcases hkey with rfl | rfl <;> decide
    have hown {name : String} (hname : name ∉ ["visibleWhen", "visible_when"]) {P : Prop} (h : key = name) : P :=
      absurd (by simpa [h] using hkey) hname
    exact componentAlike_exchanged hset hleading (hown (by decide)) (fun _ => h)
      (fun k _ => ownAlike_exchanged hset hleading (hown (by decide)) (hown (by decide)) (hown (by decide))
        (hown (by decide)))
      fun _ => .inr (by rw [hfind]; rfl)
  | items hkind =>
    exact component_agree_of_own hfirst hv hw (by decide) hkind
      (ownAlike_exchanged hset (by decide) (fun _ _ => h) (by simp) (by simp) (by simp))
  | chips hkind =>
    exact component_agree_of_own hfirst hv hw (by decide) hkind
      (ownAlike_exchanged hset (by decide) (by simp) (fun _ _ => h) (by simp) (by simp))
  | columns hkind =>
    exact component_agree_of_own hfirst hv hw (by decide) hkind
      (ownAlike_exchanged hset (by decide) (by simp) (by simp) (fun _ _ => h) (by simp))
  | children hkind =>
    exact component_agree_of_own hfirst hv hw (by decide) hkind
      (ownAlike_exchanged hset (by decide) (by simp) (by simp) (by simp) fun _ _ => h)

end

/-! ## Edits -/

section

variable {edit : Node → Fields → Fields → Prop}

/-- What is edited is a record, a list or a tuple, and stays one. -/
theorem Edited.isNull {s : Site} {v w : Value} (h : Edited edit s v w) : v.isNull = false ∧ w.isNull = false := by
  induction h with
  | here _ => exact ⟨rfl, rfl⟩
  | field _ _ _ _ _ _ _ => exact ⟨rfl, rfl⟩
  | inList _ _ _ _ => exact ⟨rfl, rfl⟩
  | inTuple _ _ _ _ => exact ⟨rfl, rfl⟩
  | condition _ ih => exact ih
  | conditions _ ih => exact ih

/-- Whatever stands at a site is read alike before and after an edit of one node, if the node is. -/
theorem Edited.agree (hedit : ∀ n fs gs, edit n fs gs → Agree spell (n.read (.record fs)) (n.read (.record gs)))
    {s : Site} {v w : Value} (h : Edited edit s v w) : Agree spell (s.read v) (s.read w) := by
  induction h with
  | here h => exact hedit _ _ _ h
  | field _ _ _ hfirst hleads hin ih => exact hleads.agree hfirst hin.isNull.1 hin.isNull.2 ih
  | inList before after _ ih =>
    simp only [Site.read, readSequence, Value.items?, List.map_append, List.map_cons]
    exact ih.itemsFrom _ _ 0
  | inTuple before after _ ih =>
    simp only [Site.read, readSequence, Value.items?, List.map_append, List.map_cons]
    exact ih.itemsFrom _ _ 0
  | condition hin ih =>
    -- one condition is read as a list of it
    cases hin with
    | here _ => exact ih.itemsFrom [] [] 0
    | field _ _ _ _ _ _ => exact ih.itemsFrom [] [] 0
  | conditions hin ih =>
    cases hin with
    | inList _ _ _ => exact ih
    | inTuple _ _ _ => exact ih

/-- The components of a raw layout are found and read alike before and after an edit of one node, if the node
is read alike. -/
theorem EditedLayout.agree (hedit : ∀ n fs gs, edit n fs gs → Agree spell (n.read (.record fs)) (n.read (.record gs)))
    {v w : Value} (h : EditedLayout edit v w) : ∃ items others, rawComponents v = .ok items ∧
      rawComponents w = .ok others ∧ Agree spell (readComponents 0 items) (readComponents 0 others) := by
  have hmany : ∀ {v w : Value}, Edited edit (.many .component) v w → ∃ items others, v.items? = some items ∧
      w.items? = some others ∧ rawComponents v = .ok items ∧ rawComponents w = .ok others ∧
      Agree spell (readComponents 0 items) (readComponents 0 others) := by
    intro v w h
    have hread := h.agree hedit
    cases h with
    | inList _ _ _ => exact ⟨_, _, rfl, rfl, rfl, rfl, by rwa [readComponents_eq, readComponents_eq]⟩
    | inTuple _ _ _ => exact ⟨_, _, rfl, rfl, rfl, rfl, by rwa [readComponents_eq, readComponents_eq]⟩
  cases h with
  | components h =>
    obtain ⟨items, others, -, -, hitems, hothers, hread⟩ := hmany h
    exact ⟨items, others, hitems, hothers, hread⟩
  | wrapped _ _ hfirst h =>
    obtain ⟨items, others, hv, hw, -, -, hread⟩ := hmany h
    refine ⟨items, others, ?_, ?_, hread⟩
    · simp [rawComponents, lookup_exchanged hfirst, hv]
    · simp [rawComponents, lookup_exchanged hfirst, hw]

end

end DocTemplate.Schema
