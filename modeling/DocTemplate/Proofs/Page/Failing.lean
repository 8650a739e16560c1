import DocTemplate.Proofs.Layout.Hidden

/-!
# Failing components

A component whose drawing fails keeps what it has drawn before it fails. Where it fails at once, with no
margin below it, it leaves no trace on the pages. Main statement: `failing_leaves_no_trace`.
-/

namespace DocTemplate.Page

open DocTemplate.Calendar

variable {α β γ : Type}

/-- An action that fails at once, wherever it is begun. -/
def Fails (m : Draw α β) : Prop := ∀ s, ∃ f, m.run.run s = (.error f, s)

/-- After a reading, which does nothing to the sheet, comes a failure. -/
theorem Fails.read {x : Except Failure β} {f : β → Draw α γ} (h : ∀ b, x = .ok b → Fails (f b)) :
    Fails (liftM x >>= f) := by
  intro s
  rw [run_bind, run_liftM]
  cases hx : x with
  | error e => exact ⟨e, rfl⟩
  | ok b => exact h b hx s

theorem Fails.of_read {x : Except Failure β} {e : Failure} (hx : x = .error e) (f : β → Draw α γ) :
    Fails (liftM x >>= f) := by
  apply Fails.read
  intro b hb
  rw [hx] at hb
  cases hb

variable [Length α]

/-- A component whose conditions cannot be followed, or whose drawing fails at once. -/
def Setup.FailsAtOnce (d : Setup α) (c : Component) : Prop :=
  (∃ f, c.isVisible d.context = .error f) ∨ ∀ children : Draw α Unit, Fails (d.drawKind children c)

/-- One list of components comes from another one by removing, at any depth, components that fail at once and
have no margin below them. -/
inductive Pruned (d : Setup α) : List Component → List Component → Prop
  | nil : Pruned d [] []
  | keep (c : Component) {cs ds : List Component} (rest : Pruned d cs ds) : Pruned d (c :: cs) (c :: ds)
  | inside (common : Common) {inner inner' cs ds : List Component} (children : Pruned d inner inner')
    (rest : Pruned d cs ds) : Pruned d (.box common inner :: cs) (.box common inner' :: ds)
  | remove {c : Component} (h : d.FailsAtOnce c) (hmargin : nonzero? c.style.marginBottom = none)
    {cs ds : List Component} (rest : Pruned d cs ds) : Pruned d (c :: cs) ds

/-! ## What cannot be read -/

variable (d : Setup α)

theorem fails_size {f : α → Draw α β} (s : SizeSetting) (h : ∀ x, Fails (f x)) : Fails (d.size s >>= f) := by
  rw [Setup.size, bind_assoc]
  exact .read fun _ _ => h _

theorem fails_sizeOr {f : α → Draw α β} (x? : Option Float) (s : SizeSetting) (h : ∀ x, Fails (f x)) :
    Fails (d.sizeOr x? s >>= f) := by
  unfold Setup.sizeOr Setup.givenOr
  split
  · exact h _
  · exact fails_size d s h

/-- What of a component cannot be read from a context, so that it fails at once: its text, the address of its
image, the rows of its table, or the first of its items that has a text. -/
inductive Unreadable (context : Value) : Component → Prop
  | heading (common : Common) (level : Int) {e : Failure} (h : interpolate common.text context = .error e) :
    Unreadable context (.heading common level)
  | text (common : Common) {e : Failure} (h : interpolate common.text context = .error e) :
    Unreadable context (.text common)
  | list (common : Common) (blank : List ListItem) (item : ListItem) (items : List ListItem) {e : Failure}
    (hblank : ∀ b ∈ blank, b.shown context = .ok "") (h : item.shown context = .error e) :
    Unreadable context (.list common (blank ++ item :: items))
  | chips (common : Common) (blank : List Chip) (c : Chip) (chips : List Chip) {e : Failure}
    (hblank : ∀ b ∈ blank, interpolate b.label context = .ok "")
    (h : interpolate c.label context = .error e) :
    Unreadable context (.chips common (blank ++ c :: chips))
  | image (common : Common) (url : Option String) (width height : Option Float) {e : Failure}
    (h : imageSource context url common.binding = .error e) :
    Unreadable context (.image common url width height)
  | table (common : Common) (path : Option String) (columns : List Column) (showHeader : Bool) {e : Failure}
    (h : tableRows context path = .error e) : Unreadable context (.table common path columns showHeader)

theorem fails_drawItems (style : Style) (size : α) (bullet : String) (blank : List ListItem)
    (item : ListItem) (items : List ListItem) {e : Failure} (hblank : ∀ b ∈ blank, b.shown d.context = .ok "")
    (h : item.shown d.context = .error e) :
    Fails (d.drawItems style size bullet (blank ++ item :: items)) := by
  induction blank with
  | nil => exact .of_read h _
  | cons b blank ih =>
    obtain ⟨hb, hblank⟩ := List.forall_mem_cons.mp hblank
    refine .read fun content hcontent => ?_
    rw [hb] at hcontent
    cases hcontent
    exact ih hblank

theorem fails_drawChips (m : ChipMeasures α) (style : Style) (blank : List Chip) (c : Chip)
    (chips : List Chip) {e : Failure} (hblank : ∀ b ∈ blank, interpolate b.label d.context = .ok "")
    (h : interpolate c.label d.context = .error e) :
    Fails (d.drawChips m style none (blank ++ c :: chips)) := by
  induction blank with
  | nil =>
    rw [List.nil_append, Setup.drawChips]
    exact .of_read h _
  | cons b blank ih =>
    obtain ⟨hb, hblank⟩ := List.forall_mem_cons.mp hblank
    rw [List.cons_append, Setup.drawChips]
    refine .read fun label hlabel => ?_
    rw [hb] at hlabel
    cases hlabel
    exact ih hblank

/-- What cannot be read fails at once. -/
theorem Unreadable.failsAtOnce {c : Component} (h : Unreadable d.context c) : d.FailsAtOnce c := by
  refine .inr fun children => ?_
  cases h with
  | heading common level h =>
    have hread : ∀ x : Float, Fails (liftM (interpolate common.text d.context) >>= fun content =>
        d.drawLines content (Length.ofFloat x) true (Component.heading common level).style.italic
          (Component.heading common level).style .heading) := fun x => .of_read h _
    change Fails (d.drawHeading common _ (toString (headingLevel level)))
    unfold Setup.drawHeading
    split
    · exact hread _
    · exact .read fun x _ => hread x
  | text common h => exact fails_sizeOr d _ _ fun _ => .of_read h _
  | list common blank item items hblank h =>
    exact fails_sizeOr d _ _ fun _ => .read fun _ _ => fails_drawItems d _ _ _ blank item items hblank h
  | chips common blank c chips hblank h =>
    exact fails_sizeOr d _ _ fun _ => fails_size d _ fun _ => fails_size d _ fun _ => fails_size d _ fun _ =>
      .read fun _ _ => fails_drawChips d _ _ blank c chips hblank h
  | image common url width height h => exact .of_read h _
  | table common path columns showHeader h => exact .of_read h _

/-! ## Documents -/

section

variable {d} {s : Sheet α}

theorem leaveMargin_of_none {style : Style} (h : nonzero? style.marginBottom = none) (s : Sheet α) :
    leaveMargin style s = s := by
  simp only [leaveMargin, h]

theorem place_of_failsAtOnce {c : Component} (h : d.FailsAtOnce c)
    (hmargin : nonzero? c.style.marginBottom = none) (children : Draw α Unit) (s : Sheet α) :
    d.place children c s = s := by
  unfold Setup.place
  split
  · rfl
  · rcases h with ⟨e, he⟩ | hdraw
    · rw [he]
      exact leaveMargin_of_none hmargin s
    · obtain ⟨e, he⟩ := hdraw children s
      split
      · rfl
      · rw [after, he]
        exact leaveMargin_of_none hmargin s
      · exact leaveMargin_of_none hmargin s

theorem placeComponent_of_failsAtOnce {c : Component} (h : d.FailsAtOnce c)
    (hmargin : nonzero? c.style.marginBottom = none) (s : Sheet α) : d.placeComponent s c = s := by
  cases c with
  | box common children =>
    rw [Setup.placeComponent]
    exact place_of_failsAtOnce h hmargin _ s
  | _ =>
    rw [Setup.placeComponent]
    · exact place_of_failsAtOnce h hmargin _ s
    · simp

/-- Drawing ends in the same state without what fails at once, wherever the cursor is. -/
theorem Pruned.placeAll_eq {cs ds : List Component} (h : Pruned d cs ds) (s : Sheet α) :
    d.placeAll s cs = d.placeAll s ds := by
  induction h generalizing s with
  | nil => rfl
  | keep c _ ih => rw [Setup.placeAll, Setup.placeAll, ih]
  | inside common _ _ ihChildren ihRest =>
    rw [Setup.placeAll, Setup.placeAll, placeComponent_box_congr d common ihChildren, ihRest]
  | remove hfails hmargin _ ih => rw [Setup.placeAll, placeComponent_of_failsAtOnce hfails hmargin, ih]

end

/-- Without components that fail at once, at any depth, the pages stay the same: the drawn parts with their
places, the calls on the canvas, the page starts and the count of pages. -/
theorem failing_leaves_no_trace (g : Geometry α) (p : Preset) (hook : Option (PageHook α))
    (pictures : Pictures α) {layout other : Layout} (context : Value) (title : Option String)
    (h : Pruned ⟨g, p, context, (given? title).getD defaultTitle, hook.getD (frameHook g p), pictures⟩ layout
      other) :
    drawDocument g p hook pictures layout context title =
      drawDocument g p hook pictures other context title := by
  unfold drawDocument Setup.document
  dsimp only
  split
  · rfl
  · next s _ => rw [h.placeAll_eq s]

/-- What a document without a title is drawn with on standard pages. -/
def standardSetup (context : Value) : Setup Float :=
  ⟨.standard, .standard, context, defaultTitle, frameHook .standard .standard, pngPictures⟩

/-- A moment on the last day that there is, and after it in universal time. -/
def lateMoment : Moment :=
  ⟨⟨9999, 12, 31, rfl⟩, 84600000000, some (-7200000000), by decide, by simp [dayLength]⟩

def lateContext : Value := .record [("due", .moment lateMoment)]

/-- A list and an image of that moment. -/
def lateList : Component := .list { id := "dates" } [{}, { binding := some "due" }]

def lateImage : Component := .image { id := "picture", binding := some "due" } none none none

/-- Neither the list, which is in a box, nor the image below the box is missed. -/
theorem late_moments_leave_no_trace :
    Pruned (standardSetup lateContext) [.box { id := "box" } [lateList, .divider { id := "rule" }], lateImage]
        [.box { id := "box" } [.divider { id := "rule" }]] ∧
      drawDocument (.standard : Geometry Float) .standard none pngPictures
          [.box { id := "box" } [lateList, .divider { id := "rule" }], lateImage] lateContext none =
        drawDocument .standard .standard none pngPictures [.box { id := "box" } [.divider { id := "rule" }]]
          lateContext none := by
  have hlist : Unreadable lateContext lateList := .list _ [{}] _ [] (by simp; rfl) rfl
  have himage : Unreadable lateContext lateImage := .image _ _ _ _ rfl
  have h : Pruned (standardSetup lateContext)
      [.box { id := "box" } [lateList, .divider { id := "rule" }], lateImage]
      [.box { id := "box" } [.divider { id := "rule" }]] :=
    .inside _ (.remove (hlist.failsAtOnce _) rfl (.keep _ .nil)) (.remove (himage.failsAtOnce _) rfl .nil)
  exact ⟨h, failing_leaves_no_trace .standard .standard none pngPictures lateContext none h⟩

/-! ## A table that fails halfway -/

/-- A table of days, as it is read and as it is. -/
def daysSource : Value :=
  .list [.record [("id", .text "days"), ("type", .text "table"), ("rowsBinding", .text "days"),
    ("columns", .list [.record [("key", .text "day"), ("label", .text "Day"), ("format", .text "date")]])]]

def daysTable : Component :=
  .table { id := "days" } (some "days") [{ key := "day", label := "Day", format := some .date }] true

/-- Two days, the second one in no year that there is. -/
def daysContext : Value :=
  .record [("days", .list [.record [("day", .text "2024-01-01")],
    .record [("day", .text "9999-12-31T23:30:00-02:00")]])]

/-- Where a table fails at its second row, its head and its first row stay. -/
theorem failing_table_leaves_rows :
    loadLayout daysSource = .ok [daysTable] ∧
      (∃ f s, ((standardSetup daysContext).drawKind (pure ()) daysTable).run.run (blank .standard) =
        (.error f, s)) ∧
      nonzero? daysTable.style.marginBottom = none ∧
      ∃ drawn bare : Drawn Float,
        drawDocument .standard .standard none pngPictures [daysTable] daysContext none = .ok drawn ∧
        drawDocument .standard .standard none pngPictures [] daysContext none = .ok bare ∧
        (opsOf drawn.log).length = 4 ∧ opsOf bare.log = [] := by
  have hfails : ∃ f s, ((standardSetup daysContext).drawKind (pure ()) daysTable).run.run
      (blank .standard) = (.error f, s) := by
    have hnone : (((standardSetup daysContext).drawKind (pure ()) daysTable).run.run
        (blank .standard)).1.toOption.isNone := by decide +kernel
    generalize ((standardSetup daysContext).drawKind (pure ()) daysTable).run.run
      (blank .standard) = r at hnone ⊢
    obtain ⟨f | _, s⟩ := r
    · exact ⟨f, s, rfl⟩
    · cases hnone
  have hdrawn : (drawDocument (.standard : Geometry Float) .standard none pngPictures [daysTable] daysContext
      none).toOption.any fun drawn => (opsOf drawn.log).length == 4 := by decide +kernel
  have hbare : (drawDocument (.standard : Geometry Float) .standard none pngPictures [] daysContext
      none).toOption.any fun drawn => (opsOf drawn.log).isEmpty := by decide +kernel
  obtain ⟨drawn, hdrawn, hfour⟩ := exists_ok_of_any hdrawn
  obtain ⟨bare, hbare, hnone⟩ := exists_ok_of_any hbare
  refine ⟨rfl, hfails, rfl, drawn, bare, hdrawn, hbare, ?_, ?_⟩
  · simpa using hfour
  · simpa using hnone

end DocTemplate.Page
