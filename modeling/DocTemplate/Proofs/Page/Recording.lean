import DocTemplate.Proofs.Action
import DocTemplate.Proofs.Page.Wrapping

/-!
# What drawing records

Of what is drawn, a reader takes in its part in the document and the text, if it is one. Every action adds
such mentions to those recorded so far and takes none away.
-/

namespace DocTemplate.Page

open DocTemplate.Text

/-- The text that was drawn, if it was one. -/
def Shape.content? {α : Type} : Shape α → Option String
  | .text content _ _ => some content
  | _ => none

/-- What a reader takes in of something drawn. -/
structure Mention where
  role : Role
  content? : Option String
deriving DecidableEq, Repr

/-- What a reader takes in of something drawn, wherever it is. -/
def Op.mention {α : Type} (o : Op α) : Mention := ⟨o.role, o.shape.content?⟩

/-- What a reader takes in of all that was drawn. -/
def mentionsOf {α : Type} (log : Array (Event α)) : List Mention := (opsOf log).map Op.mention

/-- A line of text in some part of the document. -/
def lineMention (role : Role) (line : List Char) : Mention := ⟨role, some (String.ofList line)⟩

variable {α β γ : Type}

theorem mentionsOf_push_op (log : Array (Event α)) (o : Op α) :
    mentionsOf (log.push (.op o)) = mentionsOf log ++ [o.mention] := by
  simp [mentionsOf, opsOf]

theorem mentionsOf_push_call (log : Array (Event α)) (c : Call α) :
    mentionsOf (log.push (.call c)) = mentionsOf log := by
  simp [mentionsOf, opsOf]

theorem mentionsOf_push_pageStart (log : Array (Event α)) (page : Nat) (title : String) :
    mentionsOf (log.push (.pageStart page title)) = mentionsOf log := by
  simp [mentionsOf, opsOf]

/-! ## Recording -/

/-- Where an action answers, it has added mentions of a certain kind. -/
structure Records (m : Draw α β) (R : List Mention → Prop) : Prop where
  added : ∀ {s b t}, m.run.run s = (.ok b, t) → ∃ new, mentionsOf t.log = mentionsOf s.log ++ new ∧ R new

/-- Where an action answers, it has added nothing. -/
def Quiet (m : Draw α β) : Prop := Records m (· = [])

namespace Records

variable {Q R S : List Mention → Prop}

theorem bind {m : Draw α β} {f : β → Draw α γ} (hm : Records m Q) (hf : ∀ b, Records (f b) R)
    (h : ∀ l r, Q l → R r → S (l ++ r)) : Records (m >>= f) S := by
  refine ⟨fun hrun => ?_⟩
  obtain ⟨b, t, hb, hc⟩ := run_bind_ok hrun
  obtain ⟨l, hl, hQ⟩ := hm.added hb
  obtain ⟨r, hr, hR⟩ := (hf b).added hc
  exact ⟨l ++ r, by rw [hr, hl, List.append_assoc], h l r hQ hR⟩

theorem mono {m : Draw α β} (hm : Records m Q) (h : ∀ new, Q new → R new) : Records m R := by
  refine ⟨fun hb => ?_⟩
  obtain ⟨new, hnew, hQ⟩ := hm.added hb
  exact ⟨new, hnew, h new hQ⟩

theorem pure {b : β} (h : R []) : Records (Pure.pure b : Draw α β) R := by
  refine ⟨fun hrun => ?_⟩
  obtain ⟨-, rfl⟩ := Prod.mk.inj hrun
  exact ⟨[], (List.append_nil _).symm, h⟩

/-- A reading before an action adds nothing. -/
theorem read {x : Except Failure β} {f : β → Draw α γ} (h : ∀ b, x = .ok b → Records (f b) R) :
    Records (liftM x >>= f) R := by
  refine ⟨fun hrun => ?_⟩
  obtain ⟨b, t, hread, hrest⟩ := run_bind_ok hrun
  rw [run_liftM] at hread
  obtain ⟨hb, rfl⟩ := Prod.mk.inj hread
  exact (h b hb).added hrest

/-- A reading adds nothing. -/
theorem reading (x : Except Failure β) (h : R []) : Records (liftM x : Draw α β) R := by
  refine ⟨fun hrun => ?_⟩
  rw [run_liftM] at hrun
  obtain ⟨-, rfl⟩ := Prod.mk.inj hrun
  exact ⟨[], (List.append_nil _).symm, h⟩

/-- A failure adds nothing. -/
theorem fail {f : Failure} : Records (throw f : Draw α β) R := ⟨fun hrun => nomatch hrun⟩

/-- A quiet action after another one adds nothing. -/
theorem quietly {m : Draw α β} {f : β → Draw α γ} (hm : Records m R) (hf : ∀ b, Quiet (f b)) :
    Records (m >>= f) R :=
  hm.bind hf fun l r hl hr => by
    subst hr
    rwa [List.append_nil]

end Records

namespace Quiet

variable {R : List Mention → Prop}

/-- A quiet action before another one adds nothing. -/
theorem bind {m : Draw α β} {f : β → Draw α γ} (hm : Quiet m) (hf : ∀ b, Records (f b) R) :
    Records (m >>= f) R :=
  Records.bind hm hf fun l r hl hr => by
    subst hl
    exact hr

theorem pure (b : β) : Quiet (Pure.pure b : Draw α β) := Records.pure rfl

theorem get : Quiet (MonadState.get : Draw α (Sheet α)) := by
  refine ⟨fun hrun => ?_⟩
  obtain ⟨-, rfl⟩ := Prod.mk.inj hrun
  exact ⟨[], (List.append_nil _).symm, rfl⟩

theorem modify {f : Sheet α → Sheet α} (h : ∀ s, mentionsOf (f s).log = mentionsOf s.log) :
    Quiet (modifyThe (Sheet α) f : Draw α PUnit) := by
  refine ⟨fun hrun => ?_⟩
  obtain ⟨-, rfl⟩ := Prod.mk.inj hrun
  exact ⟨[], by rw [h, List.append_nil], rfl⟩

end Quiet

/-! ## The canvas -/

theorem records_record (shape : Shape α) (x y width height : α) (role : Role) :
    Records (record shape x y width height role) (· = [⟨role, shape.content?⟩]) := by
  refine Quiet.get.bind fun s => ⟨fun hrun => ?_⟩
  obtain ⟨-, rfl⟩ := Prod.mk.inj hrun
  exact ⟨_, mentionsOf_push_op _ _, rfl⟩

section

variable [Length α] (d : Setup α)

theorem quiet_call (c : Call α) : Quiet (call c) := by
  refine Quiet.bind (.modify fun s => mentionsOf_push_call s.log c) fun _ => ?_
  split
  · exact Records.fail
  · exact Quiet.pure _

theorem quiet_callAll (cs : List (Call α)) : Quiet (callAll cs) := by
  induction cs with
  | nil => exact Quiet.pure _
  | cons c cs ih => exact (quiet_call c).bind fun _ => ih

theorem quiet_moveDown (h : α) : Quiet (moveDown h) := .modify fun _ => rfl

theorem quiet_startPage : Quiet d.startPage := by
  refine Quiet.get.bind fun s =>
    (Quiet.modify fun t => mentionsOf_push_pageStart t.log s.page d.title).bind fun _ => ?_
  split
  next calls failure? _ =>
  refine (quiet_callAll calls).bind fun _ => ?_
  split
  · exact Records.fail
  · exact Quiet.pure _

theorem quiet_newPage : Quiet d.newPage := by
  refine (quiet_call .showPage).bind fun _ => Quiet.bind ?_ fun _ => quiet_startPage d
  exact Quiet.modify fun _ => rfl

theorem quiet_ensureSpace (height : α) : Quiet (d.ensureSpace height) := by
  refine Quiet.get.bind fun s => ?_
  split
  · exact quiet_newPage d
  · exact Quiet.pure _

theorem quiet_size (s : SizeSetting) : Quiet (d.size s) :=
  Records.read fun x _ => Quiet.pure (Length.ofFloat x)

theorem quiet_givenOr (x : Option Float) (s : SizeSetting) : Quiet (d.givenOr x s) := by
  unfold Setup.givenOr
  split
  · exact Quiet.pure _
  · exact quiet_size d s

theorem quiet_sizeOr (x : Option Float) (s : SizeSetting) : Quiet (d.sizeOr x s) := quiet_givenOr d _ s

theorem records_drawText (align : Align) (x y : α) (content font : String) (size : α) (color : Color)
    (role : Role) :
    Records (drawText align x y content font size color role) (· = [⟨role, some content⟩]) :=
  (quiet_call _).bind fun _ => (quiet_call _).bind fun _ => (quiet_call _).bind fun _ =>
    records_record ..

theorem records_drawLine (x1 y x2 : α) (color : Color) (role : Role) :
    Records (drawLine x1 y x2 color role) (· = [⟨role, none⟩]) :=
  (quiet_call _).bind fun _ => (quiet_call _).bind fun _ => (quiet_call _).bind fun _ =>
    records_record ..

theorem records_drawFrame (x y width height : α) (color : Color) (lineWidth : α) (role : Role) :
    Records (drawFrame x y width height color lineWidth role) (· = [⟨role, none⟩]) :=
  (quiet_call _).bind fun _ => (quiet_call _).bind fun _ => (quiet_call _).bind fun _ =>
    records_record ..

theorem records_drawPlate (x y width height radius : α) (color : Color) (role : Role) :
    Records (drawPlate x y width height radius color role) (· = [⟨role, none⟩]) := by
  refine (quiet_call _).bind fun _ => ?_
  split
  · exact (quiet_call _).bind fun _ => records_record ..
  · exact (quiet_call _).bind fun _ => records_record ..

theorem records_drawEach (align : Align) (font : String) (size lineHeight : α) (color : Color)
    (role : Role) (lines : List (List Char)) :
    Records (d.drawEach align font size lineHeight color role lines) (· = lines.map (lineMention role)) := by
  induction lines with
  | nil => exact Quiet.pure _
  | cons line lines ih =>
    refine (quiet_ensureSpace d lineHeight).bind fun _ => Quiet.get.bind fun s => ?_
    refine (records_drawText ..).bind (fun _ => (quiet_moveDown lineHeight).bind fun _ => ih) ?_
    rintro _ _ rfl rfl
    rfl

/-- The lines that are drawn of a text hold all of it but its blanks. -/
theorem records_drawLines (content : String) (size : α) (bold italic : Bool) (style : Style)
    (role : Role) :
    Records (d.drawLines content size bold italic style role) fun new =>
      ∃ lines : List (List Char),
        squeeze lines.flatten = squeeze content.toList ∧ new = lines.map (lineMention role) := by
  refine Records.read fun font _ => (quiet_size d _).bind fun gap => Records.read fun lines hlines => ?_
  refine (records_drawEach d ..).mono ?_
  rintro _ rfl
  exact ⟨lines, squeeze_linesIn hlines, rfl⟩

end

end DocTemplate.Page
