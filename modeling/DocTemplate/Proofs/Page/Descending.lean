import DocTemplate.Proofs.Page.Descent
import DocTemplate.Proofs.Page.Margin

/-!
# Components are drawn by descents

Every drawing action is a descent, which is the same wherever the cursor is.
-/

namespace DocTemplate.Page

open DocTemplate.Number (isFinite infinity)
open DocTemplate.Text

/-! ## Outcomes -/

section

variable {α : Type} {m m' : Draw α Unit} {drawn drawn' : α → Bool}

/-- Whether an action does not fail, and where the cursor is after it. -/
def outcome (m : Draw α Unit) (s : Sheet α) : Bool × Spot α :=
  ((m.run.run s).1.toBool, (m.run.run s).2.spot)

/-- An action that does not move the cursor, and fails unless a condition holds of its height. -/
def Checks (m : Draw α Unit) (drawn : α → Bool) : Prop := ∀ s, outcome m s = (drawn s.y, s.spot)

theorem Checks.congr (h : Checks m drawn) (heq : ∀ y, drawn y = drawn' y) : Checks m drawn' :=
  fun s => by rw [h s, heq]

theorem spot_after (m : Draw α Unit) (s : Sheet α) : (after m s).spot = (outcome m s).2 := rfl

theorem outcome_bind (m m' : Draw α Unit) (s : Sheet α) :
    outcome (m >>= fun _ => m') s =
      if (outcome m s).1 then outcome m' (after m s) else (false, (outcome m s).2) := by
  unfold outcome after
  rw [run_bind]
  generalize m.run.run s = r
  obtain ⟨f | _, t⟩ := r <;> rfl

theorem Checks.bind (hm : Checks m drawn) (hm' : Checks m' drawn') :
    Checks (m >>= fun _ => m') fun y => drawn y && drawn' y := by
  intro s
  have hspot : (after m s).spot = s.spot := (spot_after m s).trans (congrArg Prod.snd (hm s))
  have hy : (after m s).y = s.y := congrArg Spot.y hspot
  change outcome (m >>= fun _ => m') s = (drawn s.y && drawn' s.y, s.spot)
  rw [outcome_bind, hm s, hm' (after m s), hspot, hy]
  cases drawn s.y <;> rfl

/-- What is drawn from the height of the cursor. -/
theorem Checks.mark {f : α → Draw α Unit} (hf : ∀ y, Checks (f y) fun _ => drawn y) :
    Checks (get >>= fun s => f s.y) drawn :=
  fun s => hf s.y s

theorem checks_record (shape : Shape α) (x y width height : α) (role : Role) :
    Checks (record shape x y width height role) fun _ => true := fun _ => rfl

end

/-! ## Room -/

section

variable {α : Type} [Length α] {d : Setup α}

theorem checks_call (c : Call α) : Checks (call c) fun _ => c.refusal?.isNone := by
  intro s
  unfold outcome
  rw [run_call]
  cases c.refusal? <;> rfl

theorem checks_callAll (cs : List (Call α)) :
    Checks (callAll cs) fun _ => cs.all fun c => c.refusal?.isNone := by
  induction cs with
  | nil => exact fun _ => rfl
  | cons c cs ih => exact (checks_call c).bind ih

theorem outcome_startPage (s : Sheet α) : outcome d.startPage s = (d.starts s.page, s.spot) := by
  have hfail : Checks ((d.hook s.page d.title).2.elim (pure ()) throw : Draw α Unit)
      fun _ => (d.hook s.page d.title).2.isNone := by
    cases (d.hook s.page d.title).2 <;> exact fun _ => rfl
  have hstart := (checks_callAll (d.hook s.page d.title).1).bind hfail
  unfold outcome
  rw [d.run_startPage_eq]
  exact hstart { s with log := s.log.push (.pageStart s.page d.title) }

theorem outcome_newPage (s : Sheet α) :
    outcome d.newPage s = (d.starts (s.page + 1), ⟨s.page + 1, d.geometry.top⟩) := by
  have hrun : outcome d.newPage s =
      outcome d.startPage ⟨d.geometry.top, s.page + 1, s.log.push (.call .showPage)⟩ := by
    unfold outcome Setup.newPage
    rw [run_bind, run_call]
    rfl
  rw [hrun, outcome_startPage]
  rfl

theorem outcome_ensureSpace (height : α) (s : Sheet α) :
    outcome (d.ensureSpace height) s = d.enter height s.spot := by
  change outcome (if s.y - height < d.geometry.margin ∧ s.y < d.geometry.top then d.newPage else pure ()) s =
    if s.y - height < d.geometry.margin ∧ s.y < d.geometry.top then
      (d.starts (s.page + 1), ⟨s.page + 1, d.geometry.top⟩)
    else (true, s.spot)
  split
  · exact outcome_newPage s
  · rfl

end

/-! ## Descents -/

section

variable (d : Setup Float) (wall : Prop)

/-- An action is a descent. -/
inductive Descends (m : Draw Float Unit) : Prop
  | intro (δ : Descent Float) (hδ : δ.InBands d wall) (hrun : ∀ s, outcome m s = d.descend δ s.spot)

/-- An action that draws what is in a band, where a condition holds, and goes down by its height. -/
inductive Passes (height : Float) (P : Float → Prop) (m : Draw Float Unit) : Prop
  | intro (drawn : Float → Bool) (δ : Descent Float) (hconsistent : Consistent d wall height drawn)
      (hlowers : Lowers d wall height fun y => P y ∧ drawn y = true) (hδ : δ.InBands d wall)
      (hrun : ∀ s, outcome m s = if drawn s.y then d.descend δ (s.spot.lower height) else (false, s.spot))

end

variable {d : Setup Float} {wall : Prop} {height : Float} {P Q : Float → Prop} {m m' : Draw Float Unit}
  {drawn drawn' : Float → Bool}

namespace Descends

theorem pure : Descends d wall (pure ()) := ⟨.done, trivial, fun _ => rfl⟩

theorem read {β : Type} {x : Except Failure β} {f : β → Draw Float Unit}
    (h : ∀ b, x = .ok b → Descends d wall (f b)) : Descends d wall (liftM x >>= f) := by
  cases x with
  | error e => exact ⟨.stopped, trivial, fun _ => rfl⟩
  | ok b => exact h b rfl

theorem bind (hm : Descends d wall m) (hm' : Descends d wall m') :
    Descends d wall (m >>= fun _ => m') := by
  obtain ⟨δ, hδ, hδrun⟩ := hm
  obtain ⟨δ', hδ', hδrun'⟩ := hm'
  refine ⟨δ.andThen δ', hδ.andThen hδ', fun s => ?_⟩
  rw [outcome_bind, hδrun', spot_after, hδrun, descend_andThen]

/-- Room is made for a height, and what is in the band is drawn. -/
theorem band (hheight : 0.0 ≤ height) (hm : Passes d wall height (fun _ => True) m) :
    Descends d wall (d.ensureSpace height >>= fun _ => m) := by
  obtain ⟨drawn, δ, hconsistent, hlowers, hδ, hrun⟩ := hm
  refine ⟨.band height drawn δ, ⟨⟨hheight, hconsistent, ?_⟩, hδ⟩, fun s => ?_⟩
  · exact ⟨fun y hy h => hlowers.le y hy ⟨trivial, h⟩,
      fun hwall y hy hy' h => hlowers.top_le hwall y hy hy' ⟨trivial, h⟩⟩
  · have hy : (after (d.ensureSpace height) s).y = (d.enter height s.spot).2.y :=
      congrArg Spot.y ((spot_after _ s).trans (congrArg Prod.snd (outcome_ensureSpace height s)))
    rw [outcome_bind, hrun, hy, spot_after, outcome_ensureSpace, Setup.descend]
    cases (d.enter height s.spot).1 <;> rfl

end Descends

/-! ## Bands -/

theorem Consistent.const (b : Bool) : Consistent d wall height fun _ => b :=
  fun _ _ _ hb => ⟨fun _ _ _ => hb, .inl fun _ _ => hb⟩

theorem Consistent.and (h : Consistent d wall height drawn) (h' : Consistent d wall height drawn') :
    Consistent d wall height fun y => drawn y && drawn' y := by
  intro y hy hreserved hrefused
  have hnot : ∀ y', drawn y' = false ∨ drawn' y' = false → (drawn y' && drawn' y') = false :=
    fun _ => Bool.and_eq_false_iff.mpr
  rcases Bool.and_eq_false_iff.mp hrefused with hdrawn | hdrawn
  · obtain ⟨habove, hwall⟩ := h y hy hreserved hdrawn
    exact ⟨fun y' hle hy' => hnot y' (.inl (habove y' hle hy')),
      hwall.imp_left fun hnowhere y' hy' => hnot y' (.inl (hnowhere y' hy'))⟩
  · obtain ⟨habove, hwall⟩ := h' y hy hreserved hdrawn
    exact ⟨fun y' hle hy' => hnot y' (.inr (habove y' hle hy')),
      hwall.imp_left fun hnowhere y' hy' => hnot y' (.inr (hnowhere y' hy'))⟩

/-- What is drawn at a finite place is drawn consistently, if places keep the order of heights and are finite
above the margin. -/
theorem Consistent.of_place {b : Bool} {place : Float → Float} (hheight : 0.0 ≤ height)
    (hmargin : b = true → isFinite d.geometry.margin = true)
    (hfinite : ∀ y, isFinite (place y) = true → isFinite y = true)
    (hmono : ∀ y₀, isFinite (place y₀) = true → ∀ y y', y ≤ y' → place y ≤ place y')
    (hroom : b = true → ∀ y₀ y, isFinite (place y₀) = true → y ≤ y₀ → d.geometry.margin ≤ y - height →
      isFinite (place y) = true)
    (hwall : ∀ y₀, isFinite (place y₀) = true → infinity ≤ place d.geometry.top → wall) :
    Consistent d wall height fun y => b && isFinite (place y) := by
  intro y hy hreserved hrefused
  by_cases hsome : ∃ y₀, y₀ ≤ d.geometry.top ∧ (b && isFinite (place y₀)) = true
  · obtain ⟨y₀, hy₀, hdrawn⟩ := hsome
    obtain ⟨hb, hplace₀⟩ := Bool.and_eq_true_iff.mp hdrawn
    have hplace : isFinite (place y) = false := by
      change (b && isFinite (place y)) = false at hrefused
      rwa [hb, Bool.true_and] at hrefused
    have hle : y₀ ≤ y := by
      refine Number.le_of_not_lt (Number.left_of_le hy₀) (Number.left_of_le hy) fun hless => ?_
      -- Below where something is drawn, there is room above the margin.
      have hlow := Number.double_le_of_lt hless
      have hfits : ¬y - height < d.geometry.margin := by
        rcases hreserved with hfits | htop
        · exact fun hlow => hfits ⟨hlow, Number.lt_of_lt_of_le hless hy₀⟩
        · rw [htop] at hless
          exact absurd hless (Number.not_lt_of_le hy₀)
      have hbelow : y₀ - height ≤ y₀ :=
        Number.sub_le_self (Number.left_of_le hy₀) hheight (.inl (hfinite y₀ hplace₀))
      have hnumber : y - height ≤ y - height :=
        Number.sub_le_sub_self (Number.left_of_le hbelow) hlow hheight
      have habove := Number.le_of_not_lt (Number.isNumber_of_isFinite (hmargin hb)) hnumber hfits
      rw [hroom hb y₀ y hplace₀ hlow habove] at hplace
      cases hplace
    have habove : ∀ y', y ≤ y' → infinity ≤ place y' := fun y' hy' =>
      Number.double_le_trans (Number.infinity_le_of_le (hmono y₀ hplace₀ y₀ y hle) hplace₀ hplace)
        (hmono y₀ hplace₀ y y' hy')
    refine ⟨fun y' hy' _ => ?_, .inr (hwall y₀ hplace₀ (habove _ hy))⟩
    exact Bool.and_eq_false_iff.mpr (.inr (Number.not_isFinite_of_infinity_le (habove y' hy')))
  · have hnowhere : ∀ y', y' ≤ d.geometry.top → (b && isFinite (place y')) = false := fun y' hy' =>
      Bool.eq_false_iff.mpr fun h => hsome ⟨y', hy', h⟩
    exact ⟨fun y' _ hy' => hnowhere y' hy', .inl hnowhere⟩

/-- What is drawn a part of the height below the cursor. -/
theorem Consistent.drop {b : Bool} {k : Float} (hk : 0.0 ≤ k) (hle : k ≤ height)
    (hmargin : b = true → isFinite d.geometry.margin = true) (htop : d.geometry.top ≤ d.geometry.top) :
    Consistent d (infinity ≤ d.geometry.top) height fun y => b && isFinite (y - k) := by
  have hmono : ∀ y₀, isFinite (y₀ - k) = true → ∀ y y', y ≤ y' → y - k ≤ y' - k := fun y₀ hplace y y' hy =>
    Number.sub_le_sub_of_isFinite hy (Number.isFinite_of_sub_right hplace)
  refine .of_place (Number.double_le_trans hk hle) hmargin (fun _ => Number.isFinite_of_sub) hmono ?_ ?_
  · intro hb y₀ y hplace hy habove
    exact Number.isFinite_of_between (Number.le_sub_of_le habove hk hle) (hmono y₀ hplace y y₀ hy)
      (hmargin hb) hplace
  · intro y₀ hplace hinfinite
    exact Number.double_le_trans hinfinite
      (Number.sub_le_self htop hk (.inr (Number.isFinite_of_sub_right hplace)))

/-- What is drawn half of something below the cursor, where twice the margin is finite. -/
theorem Consistent.half {b : Bool} {z : Float} (hz : 0.0 ≤ z) (hheight : IsExtent height)
    (hmargin : b = true → isFinite d.geometry.margin = true ∧ isFinite (2.0 * d.geometry.margin) = true)
    (htop : d.geometry.top ≤ d.geometry.top) :
    Consistent d (infinity ≤ d.geometry.top) height fun y => b && isFinite (y - z / 2.0) := by
  refine .of_place hheight.nonneg (fun h => (hmargin h).1) (fun _ => Number.isFinite_of_sub)
    (fun y₀ hplace y y' hy => Number.sub_le_sub_of_isFinite hy (Number.isFinite_of_sub_right hplace)) ?_ ?_
  · intro hb y₀ y hplace hy habove
    have hmargin_le : d.geometry.margin ≤ y := Number.double_le_trans habove
      (Number.sub_le_self (Number.left_of_le hy) hheight.nonneg (.inr hheight.finite))
    have hfinite : isFinite y = true :=
      Number.isFinite_of_between hmargin_le hy (hmargin hb).1 (Number.isFinite_of_sub hplace)
    exact Number.isFinite_sub_half (hmargin hb).2 hmargin_le hfinite hz (Number.isFinite_of_sub_right hplace)
  · intro y₀ hplace hinfinite
    have hhalf := Number.isFinite_of_sub_right hplace
    have hnonneg := (Number.half_le (Number.isFinite_of_div hhalf) hz).1
    exact Number.double_le_trans hinfinite (Number.sub_le_self htop hnonneg (.inr hhalf))

namespace Passes

/-- An action that fails at once draws nothing. -/
theorem stop (hm : ∀ s, outcome m s = (false, s.spot)) : Passes d wall height P m := by
  refine ⟨fun _ => false, .done, .const false, ⟨?_, ?_⟩, trivial, fun s => hm s⟩
  · rintro y - ⟨-, hfalse⟩
    cases hfalse
  · rintro - y - - ⟨-, hfalse⟩
    cases hfalse

theorem read {β : Type} {x : Except Failure β} {f : β → Draw Float Unit}
    (h : ∀ b, x = .ok b → Passes d wall height P (f b)) : Passes d wall height P (liftM x >>= f) := by
  cases x with
  | error e => exact .stop fun _ => rfl
  | ok b => exact h b rfl

theorem check (hm : Checks m drawn) (hdrawn : Consistent d wall height drawn)
    (hP : ∀ y, P y → drawn y = true → Q y) (hm' : Passes d wall height Q m') :
    Passes d wall height P (m >>= fun _ => m') := by
  obtain ⟨drawn', δ, hconsistent, hlowers, hδ, hrun⟩ := hm'
  refine ⟨_, δ, hdrawn.and hconsistent, ⟨?_, ?_⟩, hδ, fun s => ?_⟩
  · rintro y hy ⟨hPy, h⟩
    obtain ⟨h, h'⟩ := Bool.and_eq_true_iff.mp h
    exact hlowers.le y hy ⟨hP y hPy h, h'⟩
  · rintro hwall y hy hy' ⟨hPy, h⟩
    obtain ⟨h, h'⟩ := Bool.and_eq_true_iff.mp h
    exact hlowers.top_le hwall y hy hy' ⟨hP y hPy h, h'⟩
  · have hspot : (after m s).spot = s.spot := (spot_after m s).trans (congrArg Prod.snd (hm s))
    have hy : (after m s).y = s.y := congrArg Spot.y hspot
    rw [outcome_bind, hm s, hrun (after m s), hspot, hy]
    cases drawn s.y <;> rfl

/-- What is drawn from the height of the cursor. -/
theorem mark {f : Float → Draw Float Unit} (hf : ∀ y, Checks (f y) fun _ => drawn y)
    (hdrawn : Consistent d wall height drawn) (hP : ∀ y, P y → drawn y = true → Q y)
    (hm' : Passes d wall height Q m') :
    Passes d wall height P (get >>= fun s => f s.y >>= fun _ => m') := by
  rw [← bind_assoc]
  exact check (.mark hf) hdrawn hP hm'

/-- The cursor goes down by the height of the band, and what comes after it is drawn. -/
theorem lower (hlowers : Lowers d wall height P) (hm : Descends d wall m) :
    Passes d wall height P (moveDown height >>= fun _ => m) := by
  obtain ⟨δ, hδ, hrun⟩ := hm
  refine ⟨fun _ => true, δ, .const true, ⟨?_, ?_⟩, hδ, fun s => ?_⟩
  · exact fun y hy h => hlowers.le y hy h.1
  · exact fun hwall y hy hy' h => hlowers.top_le hwall y hy hy' h.1
  · exact hrun { s with y := s.y - height }

theorem lower_last (hlowers : Lowers d wall height P) : Passes d wall height P (moveDown height) :=
  lower (m := Pure.pure ()) hlowers .pure

end Passes

end DocTemplate.Page
