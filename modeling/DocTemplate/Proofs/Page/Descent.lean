import DocTemplate.Proofs.Number.Finite
import DocTemplate.Proofs.Page.Act

/-!
# Descents

What drawing does to the cursor is a descent: band after band, room is made for a height, something is drawn
in it, and the cursor goes down by it. A descent that begins later ends later (`descend_mono`): where it is
stopped and an earlier one is not, the earlier one does not get below the top of the same page
(`descend_short`).
-/

namespace DocTemplate.Page

open DocTemplate.Number (isFinite infinity)

/-- Where the cursor is. -/
structure Spot (α : Type) where
  page : Nat
  y : α

/-- What is done to the cursor: nothing, a failure, or a band and what comes after it. Whether something is
drawn in a band depends on the height of the cursor. -/
inductive Descent (α : Type) where
  | done
  | stopped
  | band (height : α) (drawn : α → Bool) (rest : Descent α)

section

variable {α : Type}

def Sheet.spot (s : Sheet α) : Spot α := ⟨s.page, s.y⟩

/-- One descent after the other. -/
def Descent.andThen : Descent α → Descent α → Descent α
  | .done, e => e
  | .stopped, _ => .stopped
  | .band height drawn rest, e => .band height drawn (rest.andThen e)

variable [Length α] (d : Setup α)

/-- The spot a height below. -/
def Spot.lower (c : Spot α) (height : α) : Spot α := ⟨c.page, c.y - height⟩

/-- Whether a page can be started. -/
def Setup.starts (page : Nat) : Bool :=
  (d.hook page d.title).1.all (fun c => c.refusal?.isNone) && (d.hook page d.title).2.isNone

/-- Whether room could be made for a height, and where it is. -/
def Setup.enter (height : α) (c : Spot α) : Bool × Spot α :=
  if c.y - height < d.geometry.margin ∧ c.y < d.geometry.top then
    (d.starts (c.page + 1), ⟨c.page + 1, d.geometry.top⟩)
  else (true, c)

/-- Whether a descent was not stopped, and where it ends. -/
def Setup.descend : Descent α → Spot α → Bool × Spot α
  | .done, c => (true, c)
  | .stopped, c => (false, c)
  | .band height drawn rest, c =>
    let e := d.enter height c
    if e.1 && drawn e.2.y then descend rest (e.2.lower height) else (false, e.2)

theorem descend_band (height : α) (drawn : α → Bool) (rest : Descent α) (c : Spot α) :
    d.descend (.band height drawn rest) c =
      if (d.enter height c).1 && drawn (d.enter height c).2.y then
        d.descend rest ((d.enter height c).2.lower height)
      else (false, (d.enter height c).2) := rfl

theorem descend_andThen (δ δ' : Descent α) (c : Spot α) :
    d.descend (δ.andThen δ') c =
      if (d.descend δ c).1 then d.descend δ' (d.descend δ c).2 else (false, (d.descend δ c).2) := by
  induction δ generalizing c with
  | done => rfl
  | stopped => rfl
  | band height drawn rest ih =>
    rw [Descent.andThen, descend_band, descend_band, ih]
    cases (d.enter height c).1 && drawn (d.enter height c).2.y <;> rfl

end

/-- A spot on a further page is later, and one that is lower on the same page. -/
instance : LE (Spot Float) := ⟨fun c e => c.page < e.page ∨ c.page = e.page ∧ e.y ≤ c.y⟩

section

variable (d : Setup Float)

/-- Where something cannot be drawn in the room for a height, it cannot be drawn higher on the page either;
and it can be drawn nowhere, unless there is a wall below the tops of pages. -/
def Consistent (wall : Prop) (height : Float) (drawn : Float → Bool) : Prop :=
  ∀ y, y ≤ d.geometry.top → Reserved d height y → drawn y = false →
    (∀ y', y ≤ y' → y' ≤ d.geometry.top → drawn y' = false) ∧
      ((∀ y', y' ≤ d.geometry.top → drawn y' = false) ∨ wall)

/-- A height goes down from where a condition holds, but not through a wall below the tops of pages. -/
structure Lowers (wall : Prop) (height : Float) (P : Float → Prop) : Prop where
  le : ∀ y, y ≤ d.geometry.top → P y → y - height ≤ y
  top_le : wall → ∀ y, y ≤ d.geometry.top → d.geometry.top ≤ y → P y → d.geometry.top ≤ y - height

structure IsBand (wall : Prop) (height : Float) (drawn : Float → Bool) : Prop where
  nonneg : 0.0 ≤ height
  consistent : Consistent d wall height drawn
  lowers : Lowers d wall height fun y => drawn y = true

/-- Every band of a descent is one. -/
def Descent.InBands (wall : Prop) : Descent Float → Prop
  | .done | .stopped => True
  | .band height drawn rest => IsBand d wall height drawn ∧ rest.InBands wall

end

variable {d : Setup Float} {wall : Prop} {height : Float} {drawn : Float → Bool} {c c' e : Spot Float}

/-! ## The order of spots -/

theorem Spot.le_trans {c e f : Spot Float} (hce : c ≤ e) (hef : e ≤ f) : c ≤ f := by
  rcases hce with hpage | ⟨hpage, hy⟩ <;> rcases hef with hpage' | ⟨hpage', hy'⟩
  · exact .inl (hpage.trans hpage')
  · exact .inl (hpage' ▸ hpage)
  · exact .inl (hpage ▸ hpage')
  · exact .inr ⟨hpage.trans hpage', Number.double_le_trans hy' hy⟩

/-- A spot is as late as itself if its height is a number. -/
theorem Spot.le_self (hy : c.y ≤ c.y) : c ≤ c := .inr ⟨rfl, hy⟩

theorem Spot.le_lower (hlower : c.y - height ≤ c.y) : c ≤ c.lower height := .inr ⟨rfl, hlower⟩

/-- What is not below the top of a page is not later than anything on it. -/
theorem Spot.le_of_short (hpage : c.page < e.page ∨ c.page = e.page ∧ d.geometry.top ≤ c.y)
    (he : e.y ≤ d.geometry.top) : c ≤ e :=
  hpage.imp_right fun ⟨hpage, hy⟩ => ⟨hpage, Number.double_le_trans he hy⟩

theorem Descent.InBands.andThen {δ δ' : Descent Float} (hδ : δ.InBands d wall) (hδ' : δ'.InBands d wall) :
    (δ.andThen δ').InBands d wall := by
  induction δ with
  | done => exact hδ'
  | stopped => trivial
  | band height drawn rest ih => exact ⟨hδ.1, ih hδ.2⟩

/-! ## Room -/

theorem enter_reserved (height : Float) (c : Spot Float) : Reserved d height (d.enter height c).2.y := by
  unfold Setup.enter
  split
  · exact .inr rfl
  · next hroom => exact .inl hroom

theorem enter_within (height : Float) (htop : d.geometry.top ≤ d.geometry.top) (hc : c.y ≤ d.geometry.top) :
    (d.enter height c).2.y ≤ d.geometry.top := by
  unfold Setup.enter
  split
  · exact htop
  · exact hc

theorem le_enter (height : Float) (hc : c.y ≤ d.geometry.top) : c ≤ (d.enter height c).2 := by
  unfold Setup.enter
  split
  · exact .inl (Nat.lt_succ_self _)
  · exact Spot.le_self (Number.left_of_le hc)

/-- Where room could not be made, a page could not be started. -/
theorem enter_stopped (h : (d.enter height c).1 = false) :
    (d.enter height c).2 = ⟨c.page + 1, d.geometry.top⟩ ∧ d.starts (c.page + 1) = false := by
  unfold Setup.enter at h ⊢
  split at h
  · next hroom =>
    rw [if_pos hroom]
    exact ⟨rfl, h⟩
  · cases h

theorem enter_mono (hheight : 0.0 ≤ height) (hc' : c'.y ≤ d.geometry.top) (hle : c ≤ c') :
    (d.enter height c).2 ≤ (d.enter height c').2 := by
  by_cases hroom : c.y - height < d.geometry.margin ∧ c.y < d.geometry.top
  · have hnext : (d.enter height c).2 = ⟨c.page + 1, d.geometry.top⟩ := by
      rw [Setup.enter, if_pos hroom]
    rw [hnext]
    rcases hle with hpage | ⟨hpage, hy⟩
    · refine Spot.le_trans (Spot.le_of_short (e := c') ?_ hc') (le_enter height hc')
      exact (Nat.eq_or_lt_of_le hpage).elim (fun h => .inr ⟨h, Number.right_of_le hc'⟩) .inl
    · -- The other cursor is on the same page, and not higher: it goes to the next one as well.
      have hnumber := Number.left_of_lt hroom.1
      have hless : c'.y - height ≤ c.y - height :=
        Number.sub_le_sub_right hy (Number.sub_le_sub_self hnumber hy hheight) hnumber
      rw [Setup.enter, if_pos ⟨Number.lt_of_le_of_lt hless hroom.1, Number.lt_of_le_of_lt hy hroom.2⟩, hpage]
      exact Spot.le_self (Number.right_of_le hc')
  · rw [Setup.enter, if_neg hroom]
    exact Spot.le_trans hle (le_enter height hc')

/-! ## One descent -/

/-- A descent ends on a page not above its top, and not earlier than it begins. -/
theorem le_descend (htop : d.geometry.top ≤ d.geometry.top) {δ : Descent Float} (hδ : δ.InBands d wall)
    (hc : c.y ≤ d.geometry.top) :
    (d.descend δ c).2.y ≤ d.geometry.top ∧ c ≤ (d.descend δ c).2 := by
  induction δ generalizing c with
  | done => exact ⟨hc, Spot.le_self (Number.left_of_le hc)⟩
  | stopped => exact ⟨hc, Spot.le_self (Number.left_of_le hc)⟩
  | band height drawn rest ih =>
    obtain ⟨hband, hrest⟩ := hδ
    have hentered := enter_within height htop hc
    have hle := le_enter height hc
    rw [descend_band]
    generalize d.enter height c = e at hentered hle
    split
    · next hdrawn =>
      have hlower := hband.lowers.le _ hentered (Bool.and_eq_true_iff.mp hdrawn).2
      obtain ⟨hwithin, hrest⟩ := ih (c := e.2.lower height) hrest (Number.double_le_trans hlower hentered)
      exact ⟨hwithin, Spot.le_trans hle (Spot.le_trans (Spot.le_lower hlower) hrest)⟩
    · exact ⟨hentered, hle⟩

/-- What comes to a page that cannot be started, or to one with a wall below its top, does not get below
the top of it. -/
theorem descend_short (htop : d.geometry.top ≤ d.geometry.top) {δ : Descent Float} (hδ : δ.InBands d wall)
    {page : Nat} (hshort : d.starts page = false ∨ wall) (hc : c.y ≤ d.geometry.top)
    (hpage : c.page < page ∨ wall ∧ c.page = page ∧ d.geometry.top ≤ c.y) :
    (d.descend δ c).2.page < page ∨ (d.descend δ c).2.page = page ∧ d.geometry.top ≤ (d.descend δ c).2.y := by
  induction δ generalizing c with
  | done => exact hpage.imp_right And.right
  | stopped => exact hpage.imp_right And.right
  | band height drawn rest ih =>
    obtain ⟨hband, hrest⟩ := hδ
    have hentered := enter_within height htop hc
    have hpage' : (d.enter height c).2.page < page ∨
        (wall ∨ (d.enter height c).1 = false) ∧ (d.enter height c).2.page = page ∧
          d.geometry.top ≤ (d.enter height c).2.y := by
      unfold Setup.enter
      split
      · next hroom =>
        rcases hpage with hpage | ⟨-, -, hy⟩
        · rcases Nat.eq_or_lt_of_le hpage with rfl | hless
          · exact .inr ⟨hshort.symm, rfl, htop⟩
          · exact .inl hless
        · exact absurd hroom.2 (Number.not_lt_of_le hy)
      · exact hpage.imp_right fun ⟨hwall, h⟩ => ⟨.inl hwall, h⟩
    rw [descend_band]
    generalize d.enter height c = e at hentered hpage'
    split
    · next hdrawn =>
      obtain ⟨hstarted, hdrawn⟩ := Bool.and_eq_true_iff.mp hdrawn
      have hlower := hband.lowers.le _ hentered hdrawn
      refine ih (c := e.2.lower height) hrest (Number.double_le_trans hlower hentered) ?_
      refine hpage'.imp_right fun ⟨hwall, hpage, hy⟩ => ?_
      have hwall : wall := hwall.resolve_right (by rw [hstarted]; decide)
      exact ⟨hwall, hpage, hband.lowers.top_le hwall _ hentered hy hdrawn⟩
    · exact hpage'.imp_right And.right

/-! ## Two descents -/

/-- Where the later descent is stopped by a page that cannot be started, the earlier one stays short of it. -/
theorem descend_le_stopped (height : Float) (htop : d.geometry.top ≤ d.geometry.top) {δ : Descent Float}
    (hδ : δ.InBands d wall) (hc : c.y ≤ d.geometry.top) (hle : c ≤ c')
    (hstop : (d.enter height c').1 = false) : (d.descend δ c).2 ≤ (d.enter height c').2 := by
  obtain ⟨hspot, hstart⟩ := enter_stopped hstop
  rw [hspot]
  refine Spot.le_of_short (descend_short htop hδ (.inl hstart) hc (.inl ?_)) htop
  rcases hle with hpage | ⟨hpage, -⟩
  · exact Nat.lt_succ_of_lt hpage
  · exact Nat.lt_succ_of_le hpage.le

/-- What is drawn at an earlier spot but not at a later one: the earlier spot is on an earlier page, and there
is a wall. -/
theorem IsBand.behind (hband : IsBand d wall height drawn) (hc : c.y ≤ d.geometry.top)
    (hc' : c'.y ≤ d.geometry.top) (hreserved : Reserved d height c'.y) (hle : c ≤ c')
    (hdrawn : drawn c.y = true) (hdrawn' : drawn c'.y = false) : c.page < c'.page ∧ wall := by
  obtain ⟨habove, hwall⟩ := hband.consistent _ hc' hreserved hdrawn'
  constructor
  · refine hle.resolve_right ?_
    rintro ⟨-, hy⟩
    rw [habove _ hy hc] at hdrawn
    cases hdrawn
  · refine hwall.resolve_left fun hnowhere => ?_
    rw [hnowhere _ hc] at hdrawn
    cases hdrawn

/-- A descent that begins later ends later. -/
theorem descend_mono (htop : d.geometry.top ≤ d.geometry.top) {δ : Descent Float} (hδ : δ.InBands d wall)
    (hc : c.y ≤ d.geometry.top) (hc' : c'.y ≤ d.geometry.top) (hle : c ≤ c') :
    (d.descend δ c).2 ≤ (d.descend δ c').2 := by
  induction δ generalizing c c' with
  | done => exact hle
  | stopped => exact hle
  | band height drawn rest ih =>
    obtain ⟨hband, hrest⟩ := id hδ
    have hentered := enter_within height htop hc
    have hentered' := enter_within height htop hc'
    have henter : (d.enter height c).2 ≤ (d.enter height c').2 := enter_mono hband.nonneg hc' hle
    have hreserved := enter_reserved (d := d) height c'
    have hstopped := descend_le_stopped height htop hδ hc hle
    rw [descend_band] at hstopped
    rw [descend_band, descend_band]
    generalize d.enter height c = e at *
    generalize d.enter height c' = e' at *
    by_cases hdrawn : (e.1 && drawn e.2.y) = true
    · have hdrawn₀ := (Bool.and_eq_true_iff.mp hdrawn).2
      have hlower := hband.lowers.le _ hentered hdrawn₀
      have hlowered : (e.2.lower height).y ≤ d.geometry.top := Number.double_le_trans hlower hentered
      by_cases hdrawn' : (e'.1 && drawn e'.2.y) = true
      · have hlower' := hband.lowers.le _ hentered' (Bool.and_eq_true_iff.mp hdrawn').2
        rw [if_pos hdrawn, if_pos hdrawn']
        refine ih hrest hlowered (Number.double_le_trans hlower' hentered') ?_
        exact henter.imp_right fun ⟨hpage, hy⟩ =>
          ⟨hpage, Number.sub_le_sub_right hy (Number.left_of_le hlower') (Number.left_of_le hlower)⟩
      · -- The later descent is stopped: by a page, or by what is not drawn on it.
        rw [if_neg hdrawn']
        cases hstarted : e'.1 with
        | false => exact hstopped hstarted
        | true =>
          rw [hstarted, Bool.true_and, Bool.not_eq_true] at hdrawn'
          obtain ⟨hpage, hwall⟩ := hband.behind hentered hentered' hreserved henter hdrawn₀ hdrawn'
          rw [if_pos hdrawn]
          exact Spot.le_of_short (descend_short htop hrest (.inr hwall) hlowered (.inl hpage)) hentered'
    · -- The earlier descent is stopped.
      rw [if_neg hdrawn]
      split
      · next hdrawn' =>
        have hlower' := hband.lowers.le _ hentered' (Bool.and_eq_true_iff.mp hdrawn').2
        have hlater := (le_descend htop hrest (c := e'.2.lower height)
          (Number.double_le_trans hlower' hentered')).2
        exact Spot.le_trans henter (Spot.le_trans (Spot.le_lower hlower') hlater)
      · exact henter

end DocTemplate.Page
