import DocTemplate.Proofs.Layout.Loaded

/-!
# Reading back what was written

Every part of a layout is read from its own record as what it was, if its sizes are not negative and its
loose values are plain and finite.
-/

namespace DocTemplate

open Checked

/-! ## Fields of a record that was written -/

@[simp] theorem Checked.map_accepted {α β : Type} (f : α → β) (a : α) :
    f <$> accepted a = accepted (f a) := rfl

@[simp] theorem Checked.inside_accepted {α : Type} (name : String) (a : α) :
    (accepted a).inside name = accepted a := rfl

/-- None of the fields is null. -/
def AllSet (fields : Fields) : Prop := ∀ f ∈ fields, ¬f.2.isNull

theorem dropNulls_eq_self {fields : Fields} (h : AllSet fields) : dropNulls fields = fields :=
  List.filter_eq_self.mpr fun f hf => by simpa using h f hf

theorem dropNulls_append (fields more : Fields) : dropNulls (fields ++ more) = dropNulls fields ++ dropNulls more :=
  List.filter_append ..

@[simp] theorem allSet_nil : AllSet [] := by simp [AllSet]

@[simp] theorem allSet_cons {f : String × Value} {fields : Fields} :
    AllSet (f :: fields) ↔ ¬f.2.isNull ∧ AllSet fields := List.forall_mem_cons

@[simp] theorem allSet_append {fields more : Fields} :
    AllSet (fields ++ more) ↔ AllSet fields ∧ AllSet more := List.forall_mem_append

@[simp] theorem lookup_field (key name : String) (v : Value) (fields : Fields) :
    ((name, v) :: fields).lookup key = if key = name then some v else fields.lookup key := by
  by_cases h : key = name
  · simp [h]
  · simp [List.lookup_cons, h, beq_false_of_ne]

theorem lookup_eq_none_of_ne {fields : Fields} {key : String} (h : ∀ f ∈ fields, f.1 ≠ key) :
    fields.lookup key = none :=
  List.lookup_eq_none_iff.mpr fun f hf => bne_iff_ne.mpr (h f hf).symm

section

variable {α : Type} {toValue : α → Value} {read : Value → Checked α}

@[simp] theorem allSet_entry {key : String} {a? : Option α} (h : ∀ a, ¬(toValue a).isNull) :
    AllSet (entry key toValue a?) := by
  cases a? with
  | none => exact allSet_nil
  | some a => exact allSet_cons.mpr ⟨h a, allSet_nil⟩

theorem key_of_mem_entry {key : String} {a? : Option α} {f : String × Value}
    (hf : f ∈ entry key toValue a?) : f.1 = key := by
  cases a? with
  | none => cases hf
  | some a => rw [List.mem_singleton.mp hf]

@[simp] theorem lookup_entry (key name : String) (a? : Option α) :
    (entry name toValue a?).lookup key = if key = name then a?.map toValue else none := by
  cases a? with
  | none => simp [entry]
  | some a => exact lookup_field ..

variable {fields : Fields} {name : FieldName}

theorem required_eq_accepted {a : α} {v : Value} (h : fields.lookup name.wire = some v)
    (hread : read v = .accepted a) : required fields name read = .accepted a := by
  simp [required, FieldName.find?, h, hread]

theorem withDefault_eq_accepted {default a : α} {v : Value} (h : fields.lookup name.wire = some v)
    (hread : read v = .accepted a) : withDefault fields name default read = .accepted a := by
  simp [withDefault, FieldName.find?, h, hread]

theorem optional_eq_accepted {a? : Option α} (hwire : fields.lookup name.wire = a?.map toValue)
    (hspelled : a? = none → fields.lookup name.spelled = none)
    (hread : ∀ a ∈ a?, read (toValue a) = .accepted a) : optional fields name read = .accepted a? := by
  cases a? with
  | none => simp [optional, withDefault, FieldName.find?, hwire, hspelled rfl]
  | some a => simp [optional, withDefault, FieldName.find?, hwire, hread a rfl]

theorem optional_word_eq_accepted {key : String} {a? : Option α}
    (h : fields.lookup key = a?.map toValue) (hread : ∀ a ∈ a?, read (toValue a) = .accepted a) :
    optional fields (.word key) read = .accepted a? := by
  refine optional_eq_accepted h (fun hnone => ?_) hread
  rwa [hnone] at h

theorem readSequence_map {as : List α} (h : ∀ a ∈ as, read (toValue a) = .accepted a) :
    readSequence read (.list (as.map toValue)) = .accepted as := by
  have hitems : ∀ index : Nat, Checked.itemsFrom index ((as.map toValue).map read) = .accepted as := by
    induction as with
    | nil => exact fun _ => rfl
    | cons a as ih =>
      intro index
      rw [List.map_cons, List.map_cons, Checked.itemsFrom, h a List.mem_cons_self,
        ih fun b hb => h b (List.mem_cons_of_mem a hb)]
      rfl
  exact hitems 0

end

theorem readSize_float {x : Float} (h : 0 ≤ x) : readSize (.float x) = .accepted x := by
  simp [readSize, readDouble, charsOf?, Checked.andThen, h]

theorem optional_readSize {fields : Fields} {name : FieldName} {size : Option Float}
    (hsize : Sized size) (hwire : fields.lookup name.wire = size.map .float)
    (hspelled : size = none → fields.lookup name.spelled = none) :
    optional fields name readSize = .accepted size :=
  optional_eq_accepted hwire hspelled fun x hx => readSize_float (hsize x hx)

theorem optional_readText {fields : Fields} {key : String} {s? : Option String}
    (h : fields.lookup key = s?.map .text) : optional fields (.word key) readText = .accepted s? :=
  optional_word_eq_accepted h fun _ _ => rfl

/-! ## Styles -/

theorem readBorder_dump {b : Border} (h : Sized b.width) : readBorder b.dump = .accepted b := by
  rw [readBorder, Border.dump, readRecord]
  generalize hfields : entry "width" .float b.width ++ entry "color" .text b.color = fields
  have hset : dropNulls fields = fields := dropNulls_eq_self (by simp [← hfields, Value.isNull])
  have hwidth : optional fields (.word "width") readSize = .accepted b.width :=
    optional_word_eq_accepted (by simp [← hfields, List.lookup_append])
      fun x hx => readSize_float (h x hx)
  have hcolor : optional fields (.word "color") readText = .accepted b.color :=
    optional_readText (by simp [← hfields, List.lookup_append])
  rw [hset, hwidth, hcolor]
  rfl

theorem readStyle_dump {s : Style} (h : s.Loaded) : readStyle s.dump = .accepted s := by
  rw [readStyle, Style.dump, readRecord]
  generalize hfields : entry "fontSize" .float s.fontSize
    ++ [("bold", .bool s.bold), ("italic", .bool s.italic)] ++ entry "color" .text s.color
    ++ entry "background" .text s.background ++ entry "padding" .float s.padding
    ++ entry "marginBottom" .float s.marginBottom ++ entry "align" .text s.align
    ++ entry "border" Border.dump s.border = fields
  have hset : dropNulls fields = fields :=
    dropNulls_eq_self (by simp [← hfields, Value.isNull, Border.dump])
  have hfont : optional fields ⟨"fontSize", "font_size"⟩ readSize = .accepted s.fontSize :=
    optional_readSize h.fontSize (by simp [← hfields, List.lookup_append])
      fun _ => by simp [← hfields, List.lookup_append]
  have hbold : withDefault fields (.word "bold") false readFlag = .accepted s.bold :=
    withDefault_eq_accepted (v := .bool s.bold)
      (by simp [← hfields, FieldName.word, List.lookup_append]) rfl
  have hitalic : withDefault fields (.word "italic") false readFlag = .accepted s.italic :=
    withDefault_eq_accepted (v := .bool s.italic)
      (by simp [← hfields, FieldName.word, List.lookup_append]) rfl
  have hcolor : optional fields (.word "color") readText = .accepted s.color :=
    optional_readText (by simp [← hfields, List.lookup_append])
  have hbackground : optional fields (.word "background") readText = .accepted s.background :=
    optional_readText (by simp [← hfields, List.lookup_append])
  have hpadding : optional fields (.word "padding") readSize = .accepted s.padding :=
    optional_word_eq_accepted (by simp [← hfields, List.lookup_append])
      fun x hx => readSize_float (h.padding x hx)
  have hmargin : optional fields ⟨"marginBottom", "margin_bottom"⟩ readSize = .accepted s.marginBottom :=
    optional_readSize h.marginBottom (by simp [← hfields, List.lookup_append])
      fun _ => by simp [← hfields, List.lookup_append]
  have halign : optional fields (.word "align") readText = .accepted s.align :=
    optional_readText (by simp [← hfields, List.lookup_append])
  have hborder : optional fields (.word "border") readBorder = .accepted s.border :=
    optional_word_eq_accepted (by simp [← hfields, List.lookup_append])
      fun b hb => readBorder_dump (h.border b hb)
  rw [hset, hfont, hbold, hitalic, hcolor, hbackground, hpadding, hmargin, halign, hborder]
  rfl

/-! ## Conditions -/

theorem Operator.named?_name (o : Operator) : named? o.name = some o := by cases o <;> rfl

theorem Align.named?_name (a : Align) : named? a.name = some a := by cases a <;> rfl

theorem readChoice_name {α : Type} {named? : String → Option α} {reason : Reason} {s : String} {a : α}
    (h : named? s = some a) : readChoice named? reason (.text s) = .accepted a := by
  simp [readChoice, h]

theorem Value.eq_null_of_isNull {v : Value} (h : v.isNull) : v = .null := by
  cases v with
  | null => rfl
  | _ => cases h

/-- A condition is read back with the plain form of its value; a value that is null is left out. -/
theorem readCondition_dump {k : Condition} {w : Value} (hw : k.value.toPlain = .ok w) :
    ∃ v, k.dump = .ok v ∧ readCondition v = .accepted { k with value := w } := by
  have hdump : k.dump = .ok (.record ([("field", .text k.field), ("operator", .text k.operator.name)]
      ++ if k.value.isNull then [] else [("value", w)])) := by
    rw [Condition.dump, hw]
    rfl
  have hleft : dropNulls ([("field", .text k.field), ("operator", .text k.operator.name)]
      ++ if k.value.isNull then [] else [("value", w)]) =
      [("field", .text k.field), ("operator", .text k.operator.name)]
        ++ if w.isNull then [] else [("value", w)] := by
    cases hnull : k.value.isNull with
    | true =>
      rw [Value.eq_null_of_isNull hnull] at hw
      obtain rfl := Except.ok.inj hw
      rfl
    | false => cases w <;> rfl
  refine ⟨_, hdump, ?_⟩
  rw [readCondition, readRecord, hleft]
  generalize hfields : [("field", Value.text k.field), ("operator", .text k.operator.name)]
      ++ (if w.isNull then [] else [("value", w)]) = fields
  have hfield : required fields (.word "field") readText = .accepted k.field :=
    required_eq_accepted (v := .text k.field) (by simp [← hfields, FieldName.word]) rfl
  have hoperator : withDefault fields (.word "operator") .exists
      (readChoice Operator.named? .notOperator) = .accepted k.operator :=
    withDefault_eq_accepted (by simp [← hfields, FieldName.word])
      (readChoice_name k.operator.named?_name)
  have hvalue : withDefault fields (.word "value") .null .accepted = .accepted w := by
    cases hnull : w.isNull with
    | true =>
      have hmissing : fields.lookup "value" = none := by simp [← hfields, hnull]
      simp [withDefault, FieldName.find?, FieldName.word, hmissing, Value.eq_null_of_isNull hnull]
    | false => exact withDefault_eq_accepted (by simp [← hfields, FieldName.word, hnull]) rfl
  rw [hfield, hoperator, hvalue]
  rfl

/-- Conditions whose values are plain are read back: as they were, if the values are finite. -/
theorem readConditions_dump {ks : List Condition} (hplain : ∀ k ∈ ks, k.value.isPlain) :
    ∃ vs js, ks.mapM Condition.dump = .ok vs ∧ readConditions (.list vs) = .accepted js ∧
      ((∀ k ∈ ks, k.value.isFiniteData) → js = ks) := by
  have hitems : ∃ vs js, ks.mapM Condition.dump = .ok vs ∧
      (∀ index : Nat, Checked.itemsFrom index (vs.map readCondition) = .accepted js) ∧
      ((∀ k ∈ ks, k.value.isFiniteData) → js = ks) := by
    induction ks with
    | nil => exact ⟨[], [], rfl, fun _ => rfl, fun _ => rfl⟩
    | cons k ks ih =>
      obtain ⟨hk, hrest⟩ := List.forall_mem_cons.mp hplain
      obtain ⟨w, hw⟩ := Value.exists_toPlain hk
      obtain ⟨v, hdump, hread⟩ := readCondition_dump hw
      obtain ⟨vs, js, hdumps, hreads, hsame⟩ := ih hrest
      refine ⟨v :: vs, { k with value := w } :: js,
        mapM_cons_eq_ok_iff.mpr ⟨v, vs, hdump, hdumps, rfl⟩, fun index => ?_, fun hfinite => ?_⟩
      · rw [List.map_cons, Checked.itemsFrom, hread, hreads (index + 1)]
        rfl
      · obtain ⟨hvalue, hfinite⟩ := List.forall_mem_cons.mp hfinite
        obtain rfl := Except.ok.inj (hw.symm.trans (Value.toPlain_eq_self hk hvalue))
        rw [hsame hfinite]
  obtain ⟨vs, js, hdumps, hreads, hsame⟩ := hitems
  exact ⟨vs, js, hdumps, hreads 0, hsame⟩

/-! ## Items, chips and columns -/

theorem readListItem_dump (i : ListItem) : readListItem i.dump = .accepted i := by
  rw [readListItem, ListItem.dump, readRecord]
  generalize hfields : entry "label" .text i.label ++ entry "binding" .text i.binding = fields
  have hset : dropNulls fields = fields := dropNulls_eq_self (by simp [← hfields, Value.isNull])
  have hlabel : optional fields (.word "label") readText = .accepted i.label :=
    optional_readText (by simp [← hfields, List.lookup_append])
  have hbinding : optional fields (.word "binding") readText = .accepted i.binding :=
    optional_readText (by simp [← hfields, List.lookup_append])
  rw [hset, hlabel, hbinding]
  rfl

theorem readChip_dump (c : Chip) : readChip c.dump = .accepted c := by
  rw [readChip, Chip.dump, readRecord]
  generalize hfields : entry "label" .text c.label ++ entry "color" .text c.color = fields
  have hset : dropNulls fields = fields := dropNulls_eq_self (by simp [← hfields, Value.isNull])
  have hlabel : optional fields (.word "label") readText = .accepted c.label :=
    optional_readText (by simp [← hfields, List.lookup_append])
  have hcolor : optional fields (.word "color") readText = .accepted c.color :=
    optional_readText (by simp [← hfields, List.lookup_append])
  rw [hset, hlabel, hcolor]
  rfl

theorem FormatKind.named?_name (f : FormatKind) : named? f.name = some f := by cases f <;> rfl

theorem readColumn_dump {k : Column} (h : Sized k.width) : readColumn k.dump = .accepted k := by
  rw [readColumn, Column.dump, readRecord]
  generalize hfields : [("key", Value.text k.key), ("label", .text k.label)]
    ++ entry "binding" .text k.binding ++ entry "width" .float k.width
    ++ entry "align" (.text ·.name) k.align ++ entry "format" (.text ·.name) k.format = fields
  have hset : dropNulls fields = fields := dropNulls_eq_self (by simp [← hfields, Value.isNull])
  have hkey : required fields (.word "key") readText = .accepted k.key :=
    required_eq_accepted (v := .text k.key) (by simp [← hfields, FieldName.word]) rfl
  have hlabel : required fields (.word "label") readText = .accepted k.label :=
    required_eq_accepted (v := .text k.label) (by simp [← hfields, FieldName.word]) rfl
  have hbinding : optional fields (.word "binding") readText = .accepted k.binding :=
    optional_readText (by simp [← hfields, List.lookup_append])
  have hwidth : optional fields (.word "width") readSize = .accepted k.width :=
    optional_word_eq_accepted (by simp [← hfields, List.lookup_append])
      fun x hx => readSize_float (h x hx)
  have halign : optional fields (.word "align") (readChoice Align.named? .notAlign) =
      .accepted k.align :=
    optional_word_eq_accepted (by simp [← hfields, List.lookup_append])
      fun a _ => readChoice_name a.named?_name
  have hformat : optional fields (.word "format") (readChoice FormatKind.named? .notFormat) =
      .accepted k.format :=
    optional_word_eq_accepted (by simp [← hfields, List.lookup_append])
      fun f _ => readChoice_name f.named?_name
  rw [hset, hkey, hlabel, hbinding, hwidth, halign, hformat]
  rfl

/-! ## What all components have -/

/-- The fields that a component shares, given its conditions as they are written. -/
def Common.written (c : Common) (kind : String) (conditions : List Value) : Fields :=
  [("id", .text c.id)] ++ entry "text" .text c.text ++ entry "label" .text c.label
    ++ entry "binding" .text c.binding ++ entry "style" Style.dump c.style
    ++ [("visibleWhen", .list conditions), ("type", .text kind)]

theorem Common.dump_eq_written {c : Common} {conditions : List Value}
    (h : c.visibleWhen.mapM Condition.dump = .ok conditions) (kind : String) :
    c.dump kind = .ok (c.written kind conditions) :=
  bind_eq_ok_iff.mpr ⟨conditions, h, rfl⟩

theorem mem_sharedKeys_of_mem_written {c : Common} {kind : String} {conditions : List Value}
    {f : String × Value} (hf : f ∈ c.written kind conditions) : f.1 ∈ sharedKeys := by
  simp only [Common.written, List.mem_append, List.mem_cons, List.not_mem_nil, or_false] at hf
  rcases hf with ((((rfl | hf) | hf) | hf) | hf) | rfl | rfl
  · simp [sharedKeys]
  · simp [key_of_mem_entry hf, sharedKeys]
  · simp [key_of_mem_entry hf, sharedKeys]
  · simp [key_of_mem_entry hf, sharedKeys]
  · simp [key_of_mem_entry hf, sharedKeys]
  · simp [sharedKeys]
  · simp [sharedKeys]

theorem allSet_written (c : Common) (kind : String) (conditions : List Value) :
    AllSet (c.written kind conditions) := by
  simp [Common.written, Value.isNull, Style.dump]

theorem lookup_type_written (c : Common) (kind : String) (conditions : List Value) :
    (c.written kind conditions).lookup "type" = some (.text kind) := by
  simp [Common.written, List.lookup_append]

/-- What a component shares is read back with the conditions that are read, whatever fields of its own stand
behind it. -/
theorem readCommon_written {c : Common} (h : c.Loaded) {kind : String} {conditions : List Value}
    {ks : List Condition} (hconditions : readConditions (.list conditions) = .accepted ks) {own : Fields}
    (hown : ∀ f ∈ own, f.1 ∉ sharedKeys) :
    readCommon (c.written kind conditions ++ own) = .accepted { c with visibleWhen := ks } := by
  have hnone : ∀ key ∈ sharedKeys, own.lookup key = none := fun key hkey =>
    lookup_eq_none_of_ne fun f hf => (ne_of_mem_of_not_mem hkey (hown f hf)).symm
  generalize hfields : c.written kind conditions ++ own = fields
  have hid : required fields (.word "id") readText = .accepted c.id :=
    required_eq_accepted (v := .text c.id) (by simp [← hfields, Common.written, FieldName.word]) rfl
  have htext : optional fields (.word "text") readText = .accepted c.text :=
    optional_readText
      (by simp [← hfields, Common.written, List.lookup_append, hnone "text" (by decide)])
  have hlabel : optional fields (.word "label") readText = .accepted c.label :=
    optional_readText
      (by simp [← hfields, Common.written, List.lookup_append, hnone "label" (by decide)])
  have hbinding : optional fields (.word "binding") readText = .accepted c.binding :=
    optional_readText
      (by simp [← hfields, Common.written, List.lookup_append, hnone "binding" (by decide)])
  have hstyle : optional fields (.word "style") readStyle = .accepted c.style :=
    optional_word_eq_accepted
      (by simp [← hfields, Common.written, List.lookup_append, hnone "style" (by decide)])
      fun s hs => readStyle_dump (h.style s hs)
  have hvisible : withDefault fields visibleWhenName [] readConditions = .accepted ks :=
    withDefault_eq_accepted
      (by simp [← hfields, Common.written, visibleWhenName, List.lookup_append]) hconditions
  rw [readCommon, hid, htext, hlabel, hbinding, hstyle, hvisible]
  rfl

/-- A record of what a component shares and of fields of its own is read back as what it shares. -/
structure ReadsBack (c : Common) (kind : String) (shared : Fields) : Prop where
  keys : ∀ f ∈ shared, f.1 ∈ sharedKeys
  set : AllSet shared
  kind : shared.lookup "type" = some (.text kind)
  conditions : (shared.lookup "visibleWhen").isSome
  read : ∀ own : Fields, (∀ f ∈ own, f.1 ∉ sharedKeys) → readCommon (shared ++ own) = .accepted c

/-- What a component shares is read back: as it was, if the values of its conditions are finite. -/
theorem Common.Loaded.readsBack {c : Common} (h : c.Loaded) (kind : String) :
    ∃ shared back, c.dump kind = .ok shared ∧ ReadsBack back kind shared ∧
      ((∀ k ∈ c.visibleWhen, k.value.isFiniteData) → back = c) := by
  obtain ⟨conditions, ks, hdumps, hreads, hsame⟩ := readConditions_dump h.visibleWhen
  refine ⟨c.written kind conditions, { c with visibleWhen := ks },
    Common.dump_eq_written hdumps kind, ?_, fun hfinite => by rw [hsame hfinite]⟩
  exact {
    keys := fun f hf => mem_sharedKeys_of_mem_written hf
    set := allSet_written c kind conditions
    kind := lookup_type_written c kind conditions
    conditions := by simp [Common.written, List.lookup_append]
    read := fun own hown => readCommon_written h hreads hown }

end DocTemplate
