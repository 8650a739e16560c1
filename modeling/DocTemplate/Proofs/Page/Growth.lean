import DocTemplate.Proofs.Page.Flow

/-!
# Rows that are appended

A table with more rows ends at a spot that is not earlier, and so does all that is drawn below it. Main
statement: `later_start_ends_later`.
-/

namespace DocTemplate.Page

open DocTemplate.Number (isFinite)

/-- The same setup with another context. -/
def Setup.within {α : Type} (d : Setup α) (context : Value) : Setup α := { d with context := context }

section

variable {α : Type} (d : Setup α) (context : Value)

@[simp] theorem within_geometry : (d.within context).geometry = d.geometry := rfl

@[simp] theorem within_preset : (d.within context).preset = d.preset := rfl

variable [Length α]

@[simp] theorem within_size (s : SizeSetting) : (d.within context).size s = d.size s := rfl

@[simp] theorem within_ensureSpace (height : α) :
    (d.within context).ensureSpace height = d.ensureSpace height := rfl

@[simp] theorem within_drawCells (slot rowHeight : α) (font : String) (base : α) (role : Role) (index : Nat)
    (cells : List (Column × Except Failure String)) :
    (d.within context).drawCells slot rowHeight font base role index cells =
      d.drawCells slot rowHeight font base role index cells := by
  induction cells generalizing index with
  | nil => rfl
  | cons cell cells ih => simp [Setup.drawCells, ih]

@[simp] theorem within_drawHead (slot rowHeight : α) (columns : List Column) :
    (d.within context).drawHead slot rowHeight columns = d.drawHead slot rowHeight columns := by
  simp [Setup.drawHead]

@[simp] theorem within_drawRows (slot rowHeight : α) (font : String) (size : α) (columns : List Column)
    (rows : List Value) : (d.within context).drawRows slot rowHeight font size columns rows =
      d.drawRows slot rowHeight font size columns rows := by
  induction rows with
  | nil => rfl
  | cons row rows ih => simp [Setup.drawRows, ih]

end

/-- In another context components leave the cursor where they leave it in this one, but for tables that have
more rows, be they namesakes, and for boxes of such components. -/
inductive Grows (d : Setup Float) (context : Value) : Component → Prop
  | alike (c : Component)
      (h : ∀ s, ((d.within context).placeComponent s c).spot = (d.placeComponent s c).spot) :
      Grows d context c
  | table (common : Common) (path : Option String) (columns : List Column) (showHeader : Bool)
      (rows more : List Value) (hrows : tableRows d.context path = .ok rows)
      (hmore : tableRows context path = .ok (rows ++ more))
      (hvisible : allHold context common.visibleWhen = allHold d.context common.visibleWhen) :
      Grows d context (.table common path columns showHeader)
  | namesake (common : Common) (name : String) (extras : Fields) (path : Option String) (rows more : List Value)
      (hname : Kind.named? name = some .table) (hpath : Namesake.rowsPath extras = .ok path)
      (hrows : tableRows d.context path = .ok rows) (hmore : tableRows context path = .ok (rows ++ more))
      (hvisible : allHold context common.visibleWhen = allHold d.context common.visibleWhen) :
      Grows d context (.unknown common name extras)
  | box (common : Common) (children : List Component) (h : ∀ c ∈ children, Grows d context c)
      (hvisible : allHold context common.visibleWhen = allHold d.context common.visibleWhen) :
      Grows d context (.box common children)

/-- What is done second ends later, if it begins later. -/
def Leads (top : Float) (F G : Sheet Float → Sheet Float) : Prop :=
  ∀ s t, s.y ≤ top → t.y ≤ top → s.spot ≤ t.spot → (F s).spot ≤ (G t).spot

/-- What is done second ends later than the same is done first. -/
def Extends (top : Float) (F G : Sheet Float → Sheet Float) : Prop :=
  ∀ s, s.y ≤ top → (F s).spot ≤ (G s).spot

section

variable {top : Float} {F F' G G' : Sheet Float → Sheet Float}

theorem Leads.comp (hF : Flows top F) (hG : Flows top G) (h : Leads top F G) (h' : Leads top F' G') :
    Leads top (fun s => F' (F s)) fun s => G' (G s) := fun s t hs ht hle =>
  h' _ _ (hF.within s hs) (hG.within t ht) (h s t hs ht hle)

theorem Flows.leads (hF : Flows top F) (h : Extends top F G) : Leads top F G := fun s t hs ht hle =>
  Spot.le_trans (hF.mono s t hs ht hle) (h t ht)

theorem Extends.refl (hF : Flows top F) : Extends top F F := fun s hs =>
  Spot.le_self (Number.left_of_le (hF.within s hs))

end

/-! ## Longer actions -/

section

variable {top : Float} {m n : Draw Float Unit}

theorem after_bind {α : Type} (m n : Draw α Unit) (s : Sheet α) :
    after (m >>= fun _ => n) s = if (outcome m s).1 then after n (after m s) else after m s := by
  unfold after outcome
  rw [run_bind]
  generalize m.run.run s = r
  obtain ⟨f | _, t⟩ := r <;> rfl

/-- An action ends later with another one after it. -/
theorem Extends.more (hm : Flows top (after m)) (hn : Flows top (after n)) :
    Extends top (after m) (after (m >>= fun _ => n)) := by
  intro s hs
  rw [after_bind]
  split
  · exact hn.later _ (hm.within s hs)
  · exact Spot.le_self (Number.left_of_le (hm.within s hs))

theorem Extends.prepend {m' : Draw Float Unit} (hn : Flows top (after n))
    (h : Extends top (after m) (after m')) :
    Extends top (after (n >>= fun _ => m)) (after (n >>= fun _ => m')) := by
  intro s hs
  rw [after_bind, after_bind]
  split
  · exact h _ (hn.within s hs)
  · exact Spot.le_self (Number.left_of_le (hn.within s hs))

theorem Extends.read {β : Type} {x : Except Failure β} {f g : β → Draw Float Unit}
    (h : ∀ b, x = .ok b → Extends top (after (f b)) (after (g b))) :
    Extends top (after (liftM x >>= f)) (after (liftM x >>= g)) := by
  cases hx : x with
  | error e => exact .refl .id
  | ok b => exact h b hx

end

/-! ## Tables -/

section

variable {d : Setup Float}

/-- The rows of a table are drawn one part after the other. -/
theorem drawRows_append (slot rowHeight : Float) (font : String) (size : Float) (columns : List Column)
    (rows more : List Value) :
    d.drawRows slot rowHeight font size columns (rows ++ more) =
      d.drawRows slot rowHeight font size columns rows >>= fun _ =>
        d.drawRows slot rowHeight font size columns more := by
  induction rows with
  | nil => rfl
  | cons row rows ih =>
    rw [List.cons_append, Setup.drawRows, Setup.drawRows, ih]
    simp only [bind_assoc]

theorem within_drawTable {α : Type} [Length α] (d : Setup α) (context : Value) (path : Option String)
    (columns : List Column) (showHeader : Bool) : (d.within context).drawTable path columns showHeader =
      liftM (tableRows context path) >>= d.drawBody columns showHeader := by
  have hbody : (d.within context).drawBody columns showHeader = d.drawBody columns showHeader := by
    funext rows
    simp [Setup.drawBody]
  rw [drawTable_eq, hbody]
  rfl

theorem Extends.size (hpreset : d.preset.SizesIn IsExtent) (s : SizeSetting)
    {f g : Float → Draw Float Unit} {top : Float}
    (h : ∀ x, IsExtent x → Extends top (after (f x)) (after (g x))) :
    Extends top (after (d.size s >>= f)) (after (d.size s >>= g)) := by
  rw [size_bind, size_bind]
  exact .read fun x hx => h x (hpreset.size s x hx)

/-- A table ends later with more rows. -/
theorem extends_drawBody (htop : d.geometry.top ≤ d.geometry.top) (hpreset : d.preset.SizesIn IsExtent)
    (columns : List Column) (showHeader : Bool) (rows more : List Value) :
    Extends d.geometry.top (after (d.drawBody columns showHeader rows))
      (after (d.drawBody columns showHeader (rows ++ more))) := by
  refine .size hpreset .tableRowHeight fun x hx => ?_
  have hslot := isFinite_twice_margin_of_slot d (max columns.length 1)
  dsimp only
  generalize d.geometry.contentWidth / Length.ofNat (max columns.length 1) = slot at hslot
  have hrows : Extends d.geometry.top
      (after (liftM (d.preset.font false false) >>= fun font => d.size .tableCellSize >>= fun size =>
        d.drawRows slot x font size columns rows))
      (after (liftM (d.preset.font false false) >>= fun font => d.size .tableCellSize >>= fun size =>
        d.drawRows slot x font size columns (rows ++ more))) := by
    refine .read fun font _ => .size hpreset .tableCellSize fun base hbase => ?_
    rw [drawRows_append]
    exact .more (.of_descends htop (descends_drawRows htop hx hbase.nonneg hslot rows))
      (.of_descends htop (descends_drawRows htop hx hbase.nonneg hslot more))
  split
  · exact .prepend (.of_descends htop (descends_drawHead htop hpreset hx hslot columns)) hrows
  · exact hrows

/-- What a table draws whose columns fail where its first row begins. -/
def Setup.failRows {α : Type} [Length α] (d : Setup α) (showHeader : Bool) (rows : List Value) : Draw α Unit := do
  let rowHeight ← d.size .tableRowHeight
  if showHeader || !rows.isEmpty then do
    d.ensureSpace rowHeight
    throw .missingMember

/-- With more rows there is room made for the first of them where there was before. -/
theorem extends_failRows (htop : d.geometry.top ≤ d.geometry.top) (hpreset : d.preset.SizesIn IsExtent)
    (showHeader : Bool) (rows more : List Value) :
    Extends d.geometry.top (after (d.failRows showHeader rows)) (after (d.failRows showHeader (rows ++ more))) := by
  refine .size hpreset .tableRowHeight fun x hx => ?_
  have hdescends : Descends d True (d.ensureSpace x >>= fun _ => throw .missingMember) :=
    .band hx.nonneg (.stop fun _ => rfl)
  have hfail := Flows.of_descends htop hdescends
  by_cases hrows : showHeader || !rows.isEmpty
  · have hall : showHeader || !(rows ++ more).isEmpty := by
      cases rows <;> simp_all
    rw [if_pos hrows, if_pos hall]
    exact .refl hfail
  · rw [if_neg hrows]
    split
    · exact fun s hs => hfail.later s hs
    · exact .refl .id

section

variable (htop : d.geometry.top ≤ d.geometry.top) (hpreset : d.preset.SizesIn IsExtent) {context : Value}
  {path : Option String} {rows more : List Value} (hrows : tableRows d.context path = .ok rows)
  (hmore : tableRows context path = .ok (rows ++ more))

include htop hpreset hrows hmore

theorem extends_drawTable (columns : List Column) (showHeader : Bool) :
    Extends d.geometry.top (after (d.drawTable path columns showHeader))
      (after ((d.within context).drawTable path columns showHeader)) := by
  rw [drawTable_eq, within_drawTable, after_read_ok hrows, after_read_ok hmore]
  exact extends_drawBody htop hpreset columns showHeader rows more

theorem extends_drawNamesakeTable {extras : Fields} (hpath : Namesake.rowsPath extras = .ok path) :
    Extends d.geometry.top (after (d.drawNamesakeTable extras))
      (after ((d.within context).drawNamesakeTable extras)) := by
  unfold Setup.drawNamesakeTable
  refine .read fun columns _ => .read fun path' hpath' => .read fun showHeader _ => ?_
  cases hpath.symm.trans hpath'
  rcases columns with - | - | columns
  · exact .refl .id
  · exact extends_drawTable htop hpreset hrows hmore [] showHeader
  · change Extends _ (after (liftM (tableRows d.context path) >>= d.failRows showHeader))
      (after (liftM (tableRows context path) >>= d.failRows showHeader))
    rw [after_read_ok hrows, after_read_ok hmore]
    exact extends_failRows htop hpreset showHeader rows more

end

end

/-! ## Components -/

section

variable {d : Setup Float} {context : Value}

theorem leads_place {children children' : Draw Float Unit} {c : Component}
    (hvisible : allHold context c.common.visibleWhen = allHold d.context c.common.visibleWhen)
    (hc : ∀ x ∈ c.sizes, IsExtent x) (hF : Flows d.geometry.top (after (d.drawKind children c)))
    (hG : Flows d.geometry.top (after ((d.within context).drawKind children' c)))
    (h : Leads d.geometry.top (after (d.drawKind children c))
      (after ((d.within context).drawKind children' c))) :
    Leads d.geometry.top (d.place children c) ((d.within context).place children' c) := by
  have hmargin : Flows d.geometry.top (leaveMargin c.style) :=
    flows_leaveMargin fun x hx => hc x (style_sizes_subset c hx)
  have hsame : c.isVisible (d.within context).context = c.isVisible d.context := hvisible
  unfold Setup.place
  rw [hsame]
  split
  · exact Flows.id.leads (.refl .id)
  · split
    · exact Flows.id.leads (.refl .id)
    · exact Leads.comp hF hG h (hmargin.leads (.refl hmargin))
    · exact hmargin.leads (.refl hmargin)

theorem leads_drawBox (hpreset : d.preset.SizesIn IsExtent) {style : Style}
    (hstyle : ∀ x ∈ style.sizes, IsExtent x) {F G : Sheet Float → Sheet Float}
    (hF : Flows d.geometry.top F) (hG : Flows d.geometry.top G) (h : Leads d.geometry.top F G) :
    Leads d.geometry.top (after (d.drawBox style (modify F))) (after (d.drawBox style (modify G))) := by
  intro s t hs ht hle
  rcases spot_drawBox hpreset hstyle with hspot | ⟨x, hx, hspot⟩
  · rw [hspot, hspot]
    exact hle
  · have hlower : Flows d.geometry.top fun s => { s with y := s.y - x } := .lower hx
    have hsame := hlower.leads (.refl hlower)
    have hinside := Leads.comp hlower hlower hsame h
    rw [hspot, hspot]
    exact Leads.comp (hF.comp hlower) (hG.comp hlower) hinside hsame s t hs ht hle

variable (hcontent : 0.0 ≤ d.geometry.contentHeight) (hpreset : d.preset.SizesIn IsExtent)

include hcontent hpreset

theorem leads_placeAll {cs : List Component} (hcs : ∀ k ∈ Component.subtrees cs, ∀ x ∈ k.sizes, IsExtent x)
    (h : ∀ c ∈ cs, Leads d.geometry.top (fun s => d.placeComponent s c)
      fun s => (d.within context).placeComponent s c) :
    Leads d.geometry.top (fun s => d.placeAll s cs) fun s => (d.within context).placeAll s cs := by
  induction cs with
  | nil => exact Flows.id.leads (.refl .id)
  | cons c cs ih =>
    rw [Component.subtrees] at hcs
    have hc : ∀ k ∈ c.subtree, ∀ x ∈ k.sizes, IsExtent x := fun k hk => hcs k (List.mem_append_left _ hk)
    have hrest := ih (fun k hk => hcs k (List.mem_append_right _ hk)) fun k hk =>
      h k (List.mem_cons_of_mem _ hk)
    exact Leads.comp (flows_placeComponent hcontent hpreset c hc)
      (flows_placeComponent (d := d.within context) hcontent hpreset c hc) (h c List.mem_cons_self) hrest

theorem leads_placeComponent {c : Component} (hgrows : Grows d context c)
    (hc : ∀ k ∈ c.subtree, ∀ x ∈ k.sizes, IsExtent x) :
    Leads d.geometry.top (fun s => d.placeComponent s c) fun s => (d.within context).placeComponent s c := by
  have htop := top_le_top hcontent
  induction hgrows with
  | alike c h =>
    intro s t hs ht hle
    rw [h]
    exact (flows_placeComponent hcontent hpreset c hc).mono s t hs ht hle
  | table common path columns showHeader rows more hrows hmore hvisible =>
    have hsizes := hc (.table common path columns showHeader) (by simp [Component.subtree])
    have hF : Flows d.geometry.top (after (d.drawTable path columns showHeader)) :=
      .of_descends htop (descends_drawTable htop hpreset path columns showHeader)
    have hG : Flows d.geometry.top (after ((d.within context).drawTable path columns showHeader)) :=
      .of_descends (d := d.within context) htop
        (descends_drawTable (d := d.within context) htop hpreset path columns showHeader)
    exact leads_place hvisible hsizes hF hG
      (hF.leads (extends_drawTable htop hpreset hrows hmore columns showHeader))
  | namesake common name extras path rows more hname hpath hrows hmore hvisible =>
    have hsizes := hc (.unknown common name extras) (by simp [Component.subtree])
    have hdraw (d : Setup Float) :
        d.drawKind (pure ()) (.unknown common name extras) = d.drawNamesakeTable extras := by
      rw [Setup.drawKind, hname]
      rfl
    have hF : Flows d.geometry.top (after (d.drawNamesakeTable extras)) :=
      .of_descends htop (descends_drawNamesakeTable htop hpreset)
    have hG : Flows d.geometry.top (after ((d.within context).drawNamesakeTable extras)) :=
      .of_descends (d := d.within context) htop (descends_drawNamesakeTable (d := d.within context) htop hpreset)
    have hleads := hF.leads (extends_drawNamesakeTable htop hpreset hrows hmore hpath)
    rw [← hdraw] at hF hG
    rw [← hdraw, ← hdraw (d.within context)] at hleads
    exact leads_place hvisible hsizes hF hG hleads
  | box common children h hvisible ih =>
    rw [Component.subtree] at hc
    have hbox := hc _ List.mem_cons_self
    have hstyle : ∀ x ∈ (Component.box common children).style.sizes, IsExtent x := fun x hx =>
      hbox x (style_sizes_subset _ hx)
    have hchildren : ∀ k ∈ Component.subtrees children, ∀ x ∈ k.sizes, IsExtent x := fun k hk =>
      hc k (List.mem_cons_of_mem _ hk)
    have hF := flows_placeAll hcontent hpreset children hchildren
    have hG := flows_placeAll (d := d.within context) hcontent hpreset children hchildren
    refine leads_place hvisible hbox (flows_drawBox hpreset hstyle hF) (flows_drawBox hpreset hstyle hG) ?_
    refine leads_drawBox hpreset hstyle hF hG (leads_placeAll hcontent hpreset hchildren fun k hk => ?_)
    exact ih k hk fun e he => hchildren e (subtree_subset hk he)

end

/-! ## Whole documents -/

theorem within_opening {α : Type} [Length α] (d : Setup α) (context : Value) :
    (d.within context).opening.run.run (blank (d.within context).geometry) =
      d.opening.run.run (blank d.geometry) := rfl

/-- The pages of documents that are begun alike are in the order of the spots where their components end. -/
theorem pageCount_le {d : Setup Float} {context : Value} {layout : Layout} {drawn : Drawn Float}
    (hcontent : 0.0 ≤ d.geometry.contentHeight)
    (h : Leads d.geometry.top (fun s => d.placeAll s layout) fun s => (d.within context).placeAll s layout)
    (hdrawn : d.document layout = .ok drawn) :
    ∃ drawn', (d.within context).document layout = .ok drawn' ∧ drawn.pageCount ≤ drawn'.pageCount := by
  obtain ⟨made, -, hopening⟩ := d.after_opening
  unfold Setup.document at hdrawn ⊢
  unfold after at hopening
  rw [within_opening]
  generalize d.opening.run.run (blank d.geometry) = r at hdrawn hopening
  obtain ⟨f | _, s⟩ := r
  · cases hdrawn
  · cases hdrawn
    have hs : s.y ≤ d.geometry.top := by
      have hy : s.y = d.geometry.top := congrArg Sheet.y hopening
      rw [hy]
      exact top_le_top hcontent
    refine ⟨_, rfl, ?_⟩
    exact (h s s hs hs (Spot.le_self (Number.left_of_le hs))).elim Nat.le_of_lt fun h => h.1.le

/-- Sizes of loaded components are not negative, if those are not that nothing has checked. -/
theorem isExtent_of_loaded {cs : List Component}
    (hloaded : ∀ c ∈ cs, ∃ layout : Layout, layout.IsLoaded ∧ c ∈ layout) (hloose : ∀ x ∈ Layout.looseSizes cs, 0 ≤ x)
    (hfinite : ∀ x ∈ Layout.sizes cs, isFinite x = true) :
    ∀ k ∈ Component.subtrees cs, ∀ x ∈ k.sizes, IsExtent x := by
  intro k hk x hx
  obtain ⟨c, hc, hkc⟩ := exists_of_mem_subtrees hk
  obtain ⟨layout, hlayout, hmem⟩ := hloaded c hc
  refine ⟨hfinite x (List.mem_flatMap.mpr ⟨k, hk, hx⟩), ?_⟩
  rcases k.mem_sizes hx with hx | hx
  · exact hlayout.sizedAlone (subtree_subset hmem hkc) x hx
  · exact hloose x (List.mem_flatMap.mpr ⟨k, hk, hx⟩)

/-- What is drawn from a later spot ends at a later spot, whatever fails on the way, if the sizes are not negative
that nothing has checked. So nothing that is drawn below a table ends earlier if the table has more rows, and a
document does not have fewer pages. -/
theorem later_start_ends_later (g : Geometry Float) (p : Preset) (hook : Option (PageHook Float))
    (pictures : Pictures Float) (context : Value) (title : Option String) (cs : List Component)
    (hloaded : ∀ c ∈ cs, ∃ layout : Layout, layout.IsLoaded ∧ c ∈ layout) (hloose : ∀ x ∈ Layout.looseSizes cs, 0 ≤ x)
    (hfinite : ∀ x ∈ Layout.sizes cs, isFinite x = true) (hpreset : p.SizesIn IsExtent)
    (hcontent : 0.0 ≤ g.contentHeight) :
    let d : Setup Float :=
      ⟨g, p, context, (given? title).getD defaultTitle, hook.getD (frameHook g p), pictures⟩
    (∀ s t : Sheet Float, s.y ≤ g.top → t.y ≤ g.top → s.spot ≤ t.spot →
      (d.placeAll s cs).spot ≤ (d.placeAll t cs).spot) ∧
    (∀ common path columns showHeader following rows more context',
      cs = .table common path columns showHeader :: following → tableRows context path = .ok rows →
      tableRows context' path = .ok (rows ++ more) →
      allHold context' common.visibleWhen = allHold context common.visibleWhen →
      ∀ s : Sheet Float, s.y ≤ g.top →
        (d.placeAll (d.placeComponent s (.table common path columns showHeader)) following).spot ≤
          (d.placeAll ((d.within context').placeComponent s (.table common path columns showHeader))
            following).spot) ∧
    ∀ context', (∀ c ∈ cs, Grows d context' c) →
      ∀ drawn, drawDocument g p hook pictures cs context title = .ok drawn →
      ∃ drawn', drawDocument g p hook pictures cs context' title = .ok drawn' ∧
        drawn.pageCount ≤ drawn'.pageCount := by
  intro d
  have hsizes := isExtent_of_loaded hloaded hloose hfinite
  refine ⟨(flows_placeAll (d := d) hcontent hpreset cs hsizes).mono, ?_, ?_⟩
  · rintro common path columns showHeader following rows more context' rfl hrows hmore hvisible s hs
    rw [Component.subtrees] at hsizes
    have htable : ∀ k ∈ Component.subtree (.table common path columns showHeader), ∀ x ∈ k.sizes,
        IsExtent x := fun k hk => hsizes k (List.mem_append_left _ hk)
    have hfollowing := flows_placeAll (d := d) hcontent hpreset following fun k hk =>
      hsizes k (List.mem_append_right _ hk)
    have hleads := leads_placeComponent (d := d) hcontent hpreset
      (.table common path columns showHeader rows more hrows hmore hvisible) htable
    exact hfollowing.mono _ _ ((flows_placeComponent (d := d) hcontent hpreset _ htable).within s hs)
      ((flows_placeComponent (d := d.within context') hcontent hpreset _ htable).within s hs)
      (hleads s s hs hs (Spot.le_self (Number.left_of_le hs)))
  · intro context' hgrows drawn hdrawn
    have hleads : Leads d.geometry.top (fun s => d.placeAll s cs) fun s =>
        (d.within context').placeAll s cs :=
      leads_placeAll (d := d) hcontent hpreset hsizes fun c hc =>
        leads_placeComponent (d := d) hcontent hpreset (hgrows c hc) fun k hk =>
          hsizes k (subtree_subset hc hk)
    exact pageCount_le (d := d) hcontent hleads hdrawn

/-- Two tables with a row for every guest, the second one at the bottom of the page; the gap between them is a
namesake. -/
def guestsSource : Value :=
  .list [.record [("id", .text "guests"), ("type", .text "table"), ("rowsBinding", .text "guests"),
      ("showHeader", .bool false), ("columns", .list [.record [("key", .text "name"), ("label", .text "Name")]])],
    .record [("id", .text "gap"), ("type", .bytes [0x73, 0x70, 0x61, 0x63, 0x65, 0x72]), ("size", .float 720.0)],
    .record [("id", .text "places"), ("type", .text "table"), ("rowsBinding", .text "guests"),
      ("showHeader", .bool false),
      ("columns", .list [.record [("key", .text "place"), ("label", .text "Place")]])]]

def guestsLayout : Layout :=
  [.table { id := "guests" } (some "guests") [{ key := "name", label := "Name" }] false,
    .unknown { id := "gap" } "spacer" [("size", .float 720.0)],
    .table { id := "places" } (some "guests") [{ key := "place", label := "Place" }] false]

def guestList (names : List String) : Value :=
  .record [("guests", .list (names.map fun name => .record [("name", .text name)]))]

/-- With a second guest the places go to a second page. -/
theorem guestsLayout_grows :
    (∀ c ∈ guestsLayout, ∃ layout : Layout, layout.IsLoaded ∧ c ∈ layout) ∧
      (∀ x ∈ guestsLayout.looseSizes, 0 ≤ x) ∧ (∀ x ∈ guestsLayout.sizes, isFinite x = true) ∧
      Preset.standard.SizesIn IsExtent ∧
      0.0 ≤ (Geometry.standard : Geometry Float).contentHeight ∧
      ∃ drawn drawn' : Drawn Float,
        drawDocument .standard .standard none pngPictures guestsLayout (guestList ["first"]) none = .ok drawn ∧
        drawDocument .standard .standard none pngPictures guestsLayout (guestList ["first", "second"]) none =
          .ok drawn' ∧
        drawn.pageCount = 1 ∧ drawn'.pageCount = 2 ∧ drawn.pageCount ≤ drawn'.pageCount := by
  have hloaded : ∀ c ∈ guestsLayout, ∃ layout : Layout, layout.IsLoaded ∧ c ∈ layout := fun c hc =>
    ⟨guestsLayout, .fromValue guestsSource rfl, hc⟩
  have hloose : ∀ x ∈ guestsLayout.looseSizes, 0 ≤ x := by decide +kernel
  have hfinite : ∀ x ∈ guestsLayout.sizes, isFinite x = true := by decide +kernel
  have hcontent : 0.0 ≤ (Geometry.standard : Geometry Float).contentHeight := by decide +kernel
  have hone : (drawDocument (.standard : Geometry Float) .standard none pngPictures guestsLayout
      (guestList ["first"]) none).toOption.any fun drawn => drawn.pageCount == 1 := by decide +kernel
  have htwo : (drawDocument (.standard : Geometry Float) .standard none pngPictures guestsLayout
      (guestList ["first", "second"]) none).toOption.any fun drawn => drawn.pageCount == 2 := by
    decide +kernel
  obtain ⟨drawn, hdrawn, hpages⟩ := exists_ok_of_any hone
  have hflow := later_start_ends_later .standard .standard none pngPictures (guestList ["first"]) none guestsLayout
    hloaded hloose hfinite sizesIn_standard hcontent
  have hgrows : ∀ c ∈ guestsLayout, Grows ⟨.standard, .standard, guestList ["first"],
      (given? none).getD defaultTitle, frameHook .standard .standard, pngPictures⟩
      (guestList ["first", "second"]) c := by
    simp only [guestsLayout, List.mem_cons, List.not_mem_nil, or_false]
    rintro c (rfl | rfl | rfl)
    · exact .table _ _ _ _ [.record [("name", .text "first")]] [.record [("name", .text "second")]] rfl rfl rfl
    · exact .alike _ fun s => rfl
    · exact .table _ _ _ _ [.record [("name", .text "first")]] [.record [("name", .text "second")]] rfl rfl rfl
  obtain ⟨drawn', hdrawn', hle⟩ := hflow.2.2 (guestList ["first", "second"]) hgrows drawn hdrawn
  rw [hdrawn'] at htwo
  exact ⟨hloaded, hloose, hfinite, sizesIn_standard, hcontent, drawn, drawn', hdrawn, hdrawn', by simpa using hpages,
    by simpa [Except.toOption] using htwo, hle⟩

/-- A spacer whose kind is named in bytes, so that nothing checks its size, and a high picture below it. -/
def reversedSource : Value :=
  .list [.record [("id", .text "lift"), ("type", .bytes [0x73, 0x70, 0x61, 0x63, 0x65, 0x72]), ("size", .int (-400))],
    .record [("id", .text "picture"), ("type", .text "image"), ("url", .text "p.png"), ("height", .float 700.0)]]

def reversedLayout : Layout :=
  [.unknown { id := "lift" } "spacer" [("size", .int (-400))],
    .image { id := "picture" } (some "p.png") none (some 700.0)]

/-- What the picture is drawn with. -/
def reversedSetup : Setup Float :=
  ⟨.standard, .standard, .record [], defaultTitle, frameHook .standard .standard, pngPictures⟩

/-- From the top of the second page the picture ends higher on that page than from the bottom of the first one: the
spacer makes room for it above the top. -/
theorem negative_spacer_reverses_order :
    reversedLayout.IsLoaded ∧ (∀ x ∈ reversedLayout.sizes, isFinite x = true) ∧ Preset.standard.SizesIn IsExtent ∧
      0.0 ≤ reversedSetup.geometry.contentHeight ∧
      ∃ s t : Sheet Float, s.y ≤ reversedSetup.geometry.top ∧ t.y ≤ reversedSetup.geometry.top ∧ s.spot ≤ t.spot ∧
        (reversedSetup.placeAll s reversedLayout).page = (reversedSetup.placeAll t reversedLayout).page ∧
        (reversedSetup.placeAll s reversedLayout).y < (reversedSetup.placeAll t reversedLayout).y := by
  refine ⟨.fromValue reversedSource rfl, by decide +kernel, sizesIn_standard, by decide +kernel,
    ⟨reversedSetup.geometry.margin + 10.0, 1, #[]⟩, ⟨reversedSetup.geometry.top, 2, #[]⟩, by decide +kernel,
    by decide +kernel, .inl (by decide), ?_, ?_⟩
  · decide +kernel
  · decide +kernel

end DocTemplate.Page
