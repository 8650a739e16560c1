import DocTemplate.Proofs.Page.Log
import Mathlib.Logic.Relation

/-!
# Acts of drawing

All that drawing can do to a sheet, failing components included, is a sequence of acts: a call that draws
nothing, a stroke with the record of it, the record of a table row, going down, and turning the page. An
act says what the cursor goes down by, and what room was made for what is recorded. Nothing is asked of the
arithmetic here.
-/

namespace DocTemplate.Page

variable {α β γ : Type}

/-! ## Strokes -/

/-- The font in force after a call. A page is begun without one. -/
def fontAfter (font? : Option (String × α)) : Call α → Option (String × α)
  | .setFont name size => some (name, size)
  | .showPage => none
  | _ => font?

/-- The font in force after calls. -/
def fontOf (cs : List (Call α)) : Option (String × α) := cs.foldl fontAfter none

/-- A call that draws something, with the page it draws on and the font in force. -/
structure Stroke (α : Type) where
  page : Nat
  font? : Option (String × α)
  call : Call α

variable [Length α]

/-- A stroke draws what is recorded. -/
inductive Shows : Stroke α → Op α → Prop
  | text (page : Nat) (font : String) (size : α) (align : Align) (x y : α) (content : String)
      (width height : α) (role : Role) :
      Shows ⟨page, some (font, size), .drawText align x y content⟩
        ⟨.text content font size, page, x, y, width, height, role⟩
  | line (page : Nat) (font? : Option (String × α)) (x y x2 height : α) (role : Role) :
      Shows ⟨page, font?, .drawLine x y x2 y⟩ ⟨.line, page, x, y, x2 - x, height, role⟩
  | rect (page : Nat) (font? : Option (String × α)) (x y width height : α) (stroke fill : Bool)
      (role : Role) :
      Shows ⟨page, font?, .drawRect x y width height stroke fill⟩
        ⟨.rect, page, x, y, width, height, role⟩
  | roundRect (page : Nat) (font? : Option (String × α)) (x y width height radius : α)
      (stroke fill : Bool) (role : Role) :
      Shows ⟨page, font?, .drawRoundRect x y width height radius stroke fill⟩
        ⟨.rect, page, x, y, width, height, role⟩
  | image (page : Nat) (font? : Option (String × α)) (x y width height : α) (refusal : Option Failure)
      (role : Role) :
      Shows ⟨page, font?, .drawImage x y width height refusal⟩ ⟨.image, page, x, y, width, height, role⟩

section

variable {k : Stroke α} {o : Op α}

/-- What is recorded with a stroke stands on the page of the stroke. -/
theorem Shows.page_eq (h : Shows k o) : o.page = k.page := by
  cases h <;> rfl

theorem Shows.draws_eq (h : Shows k o) : k.call.draws = true := by
  cases h <;> rfl

end

/-- The calls in a log that were carried out. What is refused draws nothing and sets nothing. -/
def carriedOut (log : Array (Event α)) : List (Call α) := (callsOf log).filter (·.refusal?.isNone)

/-- A call that is carried out has no length that is refused. -/
theorem refusal?_of_mem_lengths {c : Call α} (h : c.refusal? = none) {x : α} (hx : x ∈ c.lengths) :
    Length.refusal? x = none := by
  unfold Call.refusal? at h
  split at h
  · cases h
  · exact List.findSome?_eq_none_iff.mp (Option.or_eq_none_iff.mp h).1 x hx

/-! ## Room -/

/-- The height that room is made for before something with a part and a height is drawn, if room is made
for it: with the space below a line or a chip, and all of it for a divider. -/
def Preset.reserved? (p : Preset) (role : Role) (height : α) : Option α :=
  match role with
  | .heading | .text | .listItem => (p.size .lineGap).toOption.map fun gap => height + Length.ofFloat gap
  | .chip => (p.size .chipGap).toOption.map fun gap => height + Length.ofFloat gap
  | .divider => (p.size .dividerHeight).toOption.map Length.ofFloat
  | .image | .imagePlaceholder | .tableRow => some height
  | .chipLabel | .boxBorder | .tableHeader | .tableRule | .tableCell => none

section

variable (d : Setup α) (Q : Float → Prop)

/-- There is room for a height, or the page is as empty as it gets. -/
def Reserved (h y : α) : Prop := ¬(y - h < d.geometry.margin ∧ y < d.geometry.top) ∨ y = d.geometry.top

/-- Of a height that room is made for, what is drawn goes down by a part. Sizes are those with a property. -/
inductive Part : α → α → Prop
  | whole (x : Float) (hx : Q x) : Part (Length.ofFloat x) (Length.ofFloat x)
  | half (x : Float) (hx : Q x) : Part (Length.ofFloat x / 2.0) (Length.ofFloat x)
  | line (size gap : Float) (hsize : Q size) (hgap : Q gap) :
      Part (Length.ofFloat size) (Length.ofFloat size + Length.ofFloat gap)
  | chip (size pad gap : Float) (hsize : Q size) (hpad : Q pad) (hgap : Q gap) :
      Part (Length.ofFloat size + 2.0 * Length.ofFloat pad)
        (Length.ofFloat size + 2.0 * Length.ofFloat pad + Length.ofFloat gap)
  | image (x : Float) (hx : Q x) :
      Part (smaller (Length.ofFloat x) d.geometry.contentHeight)
        (smaller (Length.ofFloat x) d.geometry.contentHeight)

/-- What the cursor goes down by from a height: a size, or a height part of which has just been drawn. -/
inductive Drop (y : α) : α → Prop
  | size (x : Float) (hx : Q x) : Drop y (Length.ofFloat x)
  | drawn (k h : α) (hpart : Part d Q k h) (hdrawn : Length.refusal? (y - k) = none) : Drop y h

/-- Where room is made for what is drawn, it is drawn a part below the cursor. -/
def Placed (y : α) (role : Role) (bottom height : α) : Prop :=
  ∀ h, d.preset.reserved? role height = some h → Reserved d h y ∧ ∃ k, Part d Q k h ∧ bottom = y - k

/-- One thing that drawing does to a sheet. -/
inductive Act : Sheet α → Sheet α → Prop
  | call (s : Sheet α) (c : Call α) (hpage : c.endsPage = false)
      (hquiet : c.draws = true → c.refusal? ≠ none) : Act s { s with log := s.log.push (.call c) }
  | stroke (s : Sheet α) (c : Call α) (o : Op α) (hc : c.refusal? = none)
      (hshows : Shows ⟨s.page, fontOf (carriedOut s.log), c⟩ o)
      (hplaced : Placed d Q s.y o.role o.y o.height) :
      Act s { s with log := (s.log.push (.call c)).push (.op o) }
  | row (s : Sheet α) (x y width height : α) (hplaced : Placed d Q s.y .tableRow y height) :
      Act s { s with log := s.log.push (.op ⟨.row, s.page, x, y, width, height, .tableRow⟩) }
  | lower (s : Sheet α) (h : α) (hdrop : Drop d Q s.y h) : Act s { s with y := s.y - h }
  | turn (s : Sheet α) : Act s (after d.newPage s)

/-- Acts one after the other. -/
abbrev Acts : Sheet α → Sheet α → Prop := Relation.ReflTransGen (Act d Q)

/-- From sheets in `P` an action comes by acts to an answer and a sheet in `R`, or to a failure. -/
def Performs (P : Sheet α → Prop) (m : Draw α β) (R : β → Sheet α → Prop) : Prop :=
  ∀ u, Ends (fun s => Acts d Q u s ∧ P s) m (fun b s => Acts d Q u s ∧ R b s) (Acts d Q u)

end

variable {d : Setup α} {Q : Float → Prop}

theorem Placed.of_none {y bottom height : α} {role : Role} (h : d.preset.reserved? role height = none) :
    Placed d Q y role bottom height := by
  intro k hk
  rw [h] at hk
  cases hk

/-- What is drawn a part of a height below the cursor, where room was made for the height. -/
theorem Placed.of_reserved {y k h height : α} {role : Role}
    (hreserved : d.preset.reserved? role height = some h) (hroom : Reserved d h y) (hpart : Part d Q k h) :
    Placed d Q y role (y - k) height := by
  intro h' hh'
  rw [hreserved] at hh'
  cases hh'
  exact ⟨hroom, k, hpart, rfl⟩

namespace Performs

variable {P P' : Sheet α → Prop} {R R' : β → Sheet α → Prop} {S : γ → Sheet α → Prop}

theorem bind {m : Draw α β} {f : β → Draw α γ} (hm : Performs d Q P m R)
    (hf : ∀ b, Performs d Q (R b) (f b) S) : Performs d Q P (m >>= f) S :=
  fun u => (hm u).bind fun b => hf b u

theorem mono {m : Draw α β} (h : Performs d Q P m R) (hP : ∀ s, P' s → P s)
    (hR : ∀ b s, R b s → R' b s) : Performs d Q P' m R' :=
  fun u => (h u).mono (fun s hs => ⟨hs.1, hP s hs.2⟩) fun b s hs => ⟨hs.1, hR b s hs.2⟩

theorem pure {b : β} (h : ∀ s, P s → R b s) : Performs d Q P (Pure.pure b : Draw α β) R :=
  fun _ => .pure fun s hs => ⟨hs.1, h s hs.2⟩

theorem get : Performs d Q P (MonadState.get : Draw α (Sheet α)) fun a s => P s ∧ a.y = s.y :=
  fun _ _ hs => ⟨hs.1, hs.2, rfl⟩

/-- A failure does nothing to a sheet. -/
theorem fail {f : Failure} : Performs d Q P (throw f : Draw α β) R := fun _ _ hs => hs.1

theorem reading {x : Except Failure β} (h : ∀ b s, P s → R b s) : Performs d Q P (liftM x : Draw α β) R := by
  intro u s hs
  rw [run_liftM]
  cases x with
  | error e => exact hs.1
  | ok b => exact ⟨hs.1, h b s hs.2⟩

/-- A reading does nothing to a sheet. -/
theorem read {x : Except Failure β} {f : β → Draw α γ}
    (h : ∀ b, x = .ok b → Performs d Q P (f b) S) : Performs d Q P (liftM x >>= f) S := by
  intro u s hs
  rw [run_bind, run_liftM]
  cases hx : x with
  | error e => exact hs.1
  | ok b => exact h b hx u s hs

end Performs

/-! ## Actions that are single acts -/

section

variable {P P' : Sheet α → Prop} {R : α → Prop}

/-- A call that draws nothing. -/
theorem performs_call {c : Call α} (hpage : c.endsPage = false) (hquiet : c.draws = false)
    (h : ∀ s, P s → c.refusal? = none → P' { s with log := s.log.push (.call c) }) :
    Performs d Q P (call c) fun _ => P' := by
  intro u s ⟨hacts, hs⟩
  have hact : Act d Q s { s with log := s.log.push (.call c) } := by
    refine .call s c hpage ?_
    rw [hquiet]
    intro hfalse
    cases hfalse
  rw [run_call]
  cases hrefusal : c.refusal? with
  | some f => exact hacts.tail hact
  | none => exact ⟨hacts.tail hact, h s hs hrefusal⟩

/-- A call that draws something, and the record of it. It is not drawn at a height that is refused. -/
theorem performs_stroke {c : Call α} {shape : Shape α} {x y width height : α} {role : Role}
    (hpage : c.endsPage = false) (hy : y ∈ c.lengths)
    (hshows : ∀ s, P s →
      Shows ⟨s.page, fontOf (carriedOut s.log), c⟩ ⟨shape, s.page, x, y, width, height, role⟩)
    (hplaced : ∀ s, P s → Placed d Q s.y role y height) (hR : ∀ s, P s → R s.y) :
    Performs d Q P (call c >>= fun _ => record shape x y width height role)
      fun _ s => R s.y ∧ Length.refusal? y = none := by
  intro u s ⟨hacts, hs⟩
  rw [run_bind, run_call]
  cases hrefusal : c.refusal? with
  | some f =>
    refine hacts.tail (.call s c hpage fun _ => ?_)
    rw [hrefusal]
    exact Option.some_ne_none f
  | none =>
    have hact := Act.stroke s c ⟨shape, s.page, x, y, width, height, role⟩ hrefusal (hshows s hs)
      (hplaced s hs)
    exact ⟨hacts.tail hact, hR s hs, refusal?_of_mem_lengths hrefusal hy⟩

theorem performs_row {x y width height : α} (h : ∀ s, P s → Placed d Q s.y .tableRow y height) :
    Performs d Q P (record .row x y width height .tableRow) fun _ _ => True := by
  intro u s ⟨hacts, hs⟩
  exact ⟨hacts.tail (.row s x y width height (h s hs)), trivial⟩

theorem performs_moveDown {h : α} (hdrop : ∀ s, P s → Drop d Q s.y h) :
    Performs d Q P (moveDown h) fun _ _ => True := by
  intro u s ⟨hacts, hs⟩
  exact ⟨hacts.tail (.lower s h (hdrop s hs)), trivial⟩

theorem performs_newPage : Performs d Q P d.newPage fun _ s => s.y = d.geometry.top := by
  intro u s ⟨hacts, hs⟩
  obtain ⟨made, hmade, hafter⟩ := d.after_newPage s
  have hact := hacts.tail (Act.turn (d := d) (Q := Q) s)
  unfold after at hafter hact
  generalize d.newPage.run.run s = r at hafter hact
  obtain ⟨f | b, t⟩ := r
  · exact hact
  · exact ⟨hact, congrArg Sheet.y hafter⟩

/-- After room is made for a height it is there, unless the page is fresh. -/
theorem performs_ensureSpace (h : α) :
    Performs d Q P (d.ensureSpace h) fun _ s => Reserved d h s.y := by
  refine Performs.get.bind fun a => ?_
  split
  · exact performs_newPage.mono (fun _ hs => hs) fun _ s hs => .inr hs
  · next hroom =>
    refine .pure fun s hs => ?_
    rw [← hs.2]
    exact .inl hroom

end

end DocTemplate.Page
