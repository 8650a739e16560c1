import DocTemplate.Html.Document
import DocTemplate.Page.Document
import DocTemplate.Proofs.Layout.RoundTrip

/-!
# Hidden components

What is hidden for a context leaves no trace in a document: neither in its elements nor on its pages, where
it moves no cursor, leaves no margin and begins no page. Main statement: `hidden_leaves_no_trace`.
-/

namespace DocTemplate

open Html Page

/-- A component that is not shown: its kind has no known name, or one of its conditions does not hold. -/
def Component.Hidden (context : Value) (c : Component) : Prop :=
  Kind.named? c.kindName = none ∨ c.isVisible context = .ok false

/-- One list of components comes from another one by changes to what is hidden: at any depth, hidden
components are removed or stand where other hidden components stood. -/
inductive Retouched (context : Value) : List Component → List Component → Prop
  | nil : Retouched context [] []
  | keep (c : Component) {cs ds : List Component} (rest : Retouched context cs ds) :
    Retouched context (c :: cs) (c :: ds)
  | inside (common : Common) {inner inner' cs ds : List Component}
    (children : Retouched context inner inner') (rest : Retouched context cs ds) :
    Retouched context (.box common inner :: cs) (.box common inner' :: ds)
  | remove {c : Component} (h : c.Hidden context) {cs ds : List Component}
    (rest : Retouched context cs ds) : Retouched context (c :: cs) ds
  | exchange {c d : Component} (hc : c.Hidden context) (hd : d.Hidden context)
    {cs ds : List Component} (rest : Retouched context cs ds) : Retouched context (c :: cs) (d :: ds)

variable {context : Value}

/-! ## Elements -/

theorem contained_of_hidden {c : Component} (h : c.Hidden context) (children : List Node) :
    contained context children c = [] := by
  rcases h with hkind | hvisible
  · exact contained_of_shownKind?_none hkind
  · rw [contained, hvisible]

theorem nodes_of_hidden {c : Component} (h : c.Hidden context) : nodes context c = [] := by
  cases c with
  | box common children =>
    rw [nodes]
    exact contained_of_hidden h _
  | _ =>
    rw [nodes]
    · exact contained_of_hidden h _
    · simp

/-- Components have the same elements when what is hidden among them is changed. -/
theorem Retouched.nodesOfAll_eq {cs ds : List Component} (h : Retouched context cs ds) :
    nodesOfAll context cs = nodesOfAll context ds := by
  induction h with
  | nil => rfl
  | keep c _ ih => rw [nodesOfAll, nodesOfAll, ih]
  | inside common _ _ ihChildren ihRest =>
    -- a box is contained by itself: its visibility and style are those of its common part
    have hbox : ∀ inner inner' : List Component,
        nodesOfAll context inner = nodesOfAll context inner' →
        nodes context (.box common inner) = nodes context (.box common inner') := by
      intro inner inner' hinner
      rw [nodes, nodes, hinner]
      rfl
    rw [nodesOfAll, nodesOfAll, hbox _ _ ihChildren, ihRest]
  | remove hc _ ih => rw [nodesOfAll, nodes_of_hidden hc, ih, List.nil_append]
  | exchange hc hd _ ih => rw [nodesOfAll, nodesOfAll, nodes_of_hidden hc, nodes_of_hidden hd, ih]

/-! ## Pages -/

section

variable {α : Type} [Length α] (d : Setup α)

theorem place_of_hidden {c : Component} (h : c.Hidden d.context) (children : Draw α Unit) (s : Sheet α) :
    d.place children c s = s := by
  unfold Setup.place
  rcases h with hkind | hvisible
  · exact if_pos (Option.isNone_iff_eq_none.mpr hkind)
  · rw [hvisible]
    split <;> rfl

theorem placeComponent_of_hidden {c : Component} (h : c.Hidden d.context) (s : Sheet α) :
    d.placeComponent s c = s := by
  cases c with
  | box common children =>
    rw [Setup.placeComponent]
    exact place_of_hidden d h _ s
  | _ =>
    rw [Setup.placeComponent]
    · exact place_of_hidden d h _ s
    · simp

/-- A box is drawn around what its children draw. -/
theorem placeComponent_box_congr (common : Common) {inner inner' : List Component}
    (h : ∀ t, d.placeAll t inner = d.placeAll t inner') (s : Sheet α) :
    d.placeComponent s (.box common inner) = d.placeComponent s (.box common inner') := by
  rw [Setup.placeComponent, Setup.placeComponent, funext h]
  rfl

/-- Drawing ends in the same state when what is hidden is changed, wherever the cursor is. -/
theorem Retouched.placeAll_eq {cs ds : List Component} (h : Retouched d.context cs ds) (s : Sheet α) :
    d.placeAll s cs = d.placeAll s ds := by
  induction h generalizing s with
  | nil => rfl
  | keep c _ ih => rw [Setup.placeAll, Setup.placeAll, ih]
  | inside common _ _ ihChildren ihRest =>
    rw [Setup.placeAll, Setup.placeAll, placeComponent_box_congr d common ihChildren, ihRest]
  | remove hc _ ih => rw [Setup.placeAll, placeComponent_of_hidden d hc, ih]
  | exchange hc hd _ ih =>
    rw [Setup.placeAll, Setup.placeAll, placeComponent_of_hidden d hc, placeComponent_of_hidden d hd,
      ih]

theorem Retouched.document_eq {layout other : Layout} (h : Retouched d.context layout other) :
    d.document layout = d.document other := by
  unfold Setup.document
  split
  · rfl
  · next s _ => rw [h.placeAll_eq d s]

/-- Whatever is removed or changed of what is hidden, at any depth, the document stays the same: its HTML,
and on its pages the drawn parts with their places, the calls on the canvas, the page starts and the count
of pages. -/
theorem hidden_leaves_no_trace {layout other : Layout} (h : Retouched context layout other)
    (title : Option String) (g : Geometry α) (p : Preset) (hook : Option (PageHook α))
    (pictures : Pictures α) :
    Html.document layout context title = Html.document other context title ∧
      drawDocument g p hook pictures layout context title =
        drawDocument g p hook pictures other context title := by
  have hbody : body layout context = body other context := h.nodesOfAll_eq
  constructor
  · rw [Html.document, Html.document, hbody]
  · exact h.document_eq ⟨g, p, context, _, _, pictures⟩

end

/-- A reminder that is shown for what is overdue alone. -/
def reminder (margin : Float) (text : String) : Component :=
  .text { id := "reminder", text := some text, style := some { marginBottom := some margin },
          visibleWhen := [⟨"overdue", .equals, .bool true⟩] }

/-- A box with a reminder in front of its text, and what stands below the box. -/
def receiptLayout (first : Component) (below : List Component) : Layout :=
  .box { id := "box" } [first, .text { id := "text", text := some "Paid on {{day}}" }] :: below

/-- A gauge, which is no known kind of component. -/
def gauge : Component := .unknown { id := "gauge" } "gauge" [("level", .int 3)]

/-- What has been paid is not overdue. -/
def paidContext : Value := .record [("overdue", .bool false), ("day", .text "2024-02-04")]

/-- Another reminder and no gauge: the receipt is the same. -/
theorem receipt_has_no_trace :
    Retouched paidContext (receiptLayout (reminder 400 "Pay now!") [gauge])
        (receiptLayout (reminder 12 "Please pay.") []) ∧
      Html.document (receiptLayout (reminder 400 "Pay now!") [gauge]) paidContext none =
        Html.document (receiptLayout (reminder 12 "Please pay.") []) paidContext none ∧
      drawDocument (.standard : Geometry Float) .standard none pngPictures
          (receiptLayout (reminder 400 "Pay now!") [gauge]) paidContext none =
        drawDocument .standard .standard none pngPictures (receiptLayout (reminder 12 "Please pay.") [])
          paidContext none := by
  have hreminder (margin : Float) (text : String) : (reminder margin text).Hidden paidContext := .inr rfl
  have hgauge : gauge.Hidden paidContext := .inl rfl
  have h : Retouched paidContext (receiptLayout (reminder 400 "Pay now!") [gauge])
      (receiptLayout (reminder 12 "Please pay.") []) :=
    .inside _ (.exchange (hreminder _ _) (hreminder _ _) (.keep _ .nil)) (.remove hgauge .nil)
  exact ⟨h, hidden_leaves_no_trace h none .standard .standard none pngPictures⟩

end DocTemplate
