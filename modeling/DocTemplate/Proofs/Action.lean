/-!
# Actions that may fail

What an action does to a state, both where it answers and where it fails. A failure keeps the state
that was reached, so every rule speaks of two ends.
-/

namespace DocTemplate

variable {ε σ α β : Type}

/-- Two actions one after the other: a failure of the first one is the end. -/
theorem run_bind (m : ExceptT ε (StateM σ) α) (f : α → ExceptT ε (StateM σ) β) (s : σ) :
    (m >>= f).run.run s =
      match m.run.run s with
      | (.ok a, t) => (f a).run.run t
      | (.error e, t) => (.error e, t) := by
  simp only [ExceptT.run_bind, StateT.run_bind]
  change ((match (m.run.run s).1 with
    | .ok a => (f a).run
    | .error e => pure (.error e)) : StateM σ (Except ε β)).run (m.run.run s).2 = _
  generalize m.run.run s = r
  obtain ⟨a | e, t⟩ := r <;> rfl

theorem run_liftM (x : Except ε α) (s : σ) :
    (liftM x : ExceptT ε (StateM σ) α).run.run s = (x, s) := by
  cases x <;> rfl

/-- An answer of two actions comes from answers of both. -/
theorem run_bind_ok {m : ExceptT ε (StateM σ) α} {f : α → ExceptT ε (StateM σ) β} {s u : σ} {b : β}
    (h : (m >>= f).run.run s = (.ok b, u)) :
    ∃ a t, m.run.run s = (.ok a, t) ∧ (f a).run.run t = (.ok b, u) := by
  rw [run_bind] at h
  split at h
  · next a t hm => exact ⟨a, t, hm, h⟩
  · cases h

/-- What comes after a failure is not done. -/
theorem throw_bind (e : ε) (f : α → ExceptT ε (StateM σ) β) : (throw e >>= f) = throw e := rfl

/-- Where one action answers, another one answers the same and leaves the same state. -/
def Carries (m m' : ExceptT ε (StateM σ) α) : Prop :=
  ∀ s a t, m.run.run s = (.ok a, t) → m'.run.run s = (.ok a, t)

theorem Carries.refl (m : ExceptT ε (StateM σ) α) : Carries m m := fun _ _ _ h => h

theorem Carries.bind {m m' : ExceptT ε (StateM σ) α} {f f' : α → ExceptT ε (StateM σ) β}
    (hm : Carries m m') (hf : ∀ a, Carries (f a) (f' a)) : Carries (m >>= f) (m' >>= f') := by
  intro s b u h
  obtain ⟨a, t, ha, hb⟩ := run_bind_ok h
  rw [run_bind, hm s a t ha]
  exact hf a t b u hb

/-! ## Readings without a state -/

theorem bind_eq_ok_iff {x : Except ε α} {f : α → Except ε β} {b : β} :
    (x >>= f) = .ok b ↔ ∃ a, x = .ok a ∧ f a = .ok b := by
  cases x with
  | error e => simp [bind, Except.bind]
  | ok a => simp [bind, Except.bind]

theorem bind_eq_error_iff {x : Except ε α} {f : α → Except ε β} {e : ε} :
    (x >>= f) = .error e ↔ x = .error e ∨ ∃ a, x = .ok a ∧ f a = .error e := by
  cases x with
  | error e => simp [bind, Except.bind]
  | ok a => simp [bind, Except.bind]

theorem map_eq_error_iff {x : Except ε α} {f : α → β} {e : ε} : x.map f = .error e ↔ x = .error e := by
  cases x with
  | error e => simp [Except.map]
  | ok a => simp [Except.map]

theorem exists_ok_of_any {x : Except ε α} {p : α → Bool} (h : x.toOption.any p) : ∃ a, x = .ok a ∧ p a := by
  cases x with
  | error e => cases h
  | ok a => exact ⟨a, rfl, h⟩

theorem mapError_eq_ok_iff {x : Except ε α} {f : ε → β} {a : α} :
    x.mapError f = .ok a ↔ x = .ok a := by
  cases x with
  | error e => exact ⟨nofun, nofun⟩
  | ok b =>
    constructor
    · rintro ⟨⟩
      rfl
    · rintro ⟨⟩
      rfl

theorem mapM_cons_eq_ok_iff {f : α → Except ε β} {a : α} {as : List α} {bs : List β} :
    (a :: as).mapM f = .ok bs ↔ ∃ b cs, f a = .ok b ∧ as.mapM f = .ok cs ∧ bs = b :: cs := by
  rw [List.mapM_cons, bind_eq_ok_iff]
  constructor
  · rintro ⟨b, hb, h⟩
    obtain ⟨cs, hcs, h⟩ := bind_eq_ok_iff.mp h
    exact ⟨b, cs, hb, hcs, (Except.ok.inj h).symm⟩
  · rintro ⟨b, cs, hb, hcs, rfl⟩
    exact ⟨b, hb, bind_eq_ok_iff.mpr ⟨cs, hcs, rfl⟩⟩

/-! ## Ends -/

/-- From every state in `P` an action ends with its answer in `Q`, or fails in `E`. -/
def Ends (P : σ → Prop) (m : ExceptT ε (StateM σ) α) (Q : α → σ → Prop) (E : σ → Prop) : Prop :=
  ∀ s, P s → match m.run.run s with
    | (.ok a, t) => Q a t
    | (.error _, t) => E t

namespace Ends

variable {P P' E : σ → Prop} {Q Q' : α → σ → Prop} {R : β → σ → Prop}

theorem bind {m : ExceptT ε (StateM σ) α} {f : α → ExceptT ε (StateM σ) β}
    (hm : Ends P m Q E) (hf : ∀ a, Ends (Q a) (f a) R E) : Ends P (m >>= f) R E := by
  intro s hs
  have h := hm s hs
  rw [run_bind]
  generalize m.run.run s = r at h
  obtain ⟨a | e, t⟩ := r
  · exact h
  · exact hf _ t h

theorem mono {m : ExceptT ε (StateM σ) α} (h : Ends P m Q E) (hP : ∀ s, P' s → P s)
    (hQ : ∀ a s, Q a s → Q' a s) : Ends P' m Q' E := by
  intro s hs
  have h := h s (hP s hs)
  generalize m.run.run s = r at h
  obtain ⟨a | e, t⟩ := r
  · exact h
  · exact hQ _ t h

theorem fails {m : ExceptT ε (StateM σ) α} (h : Ends P m Q P') (hE : ∀ s, P' s → E s) :
    Ends P m Q E := by
  intro s hs
  have h := h s hs
  generalize m.run.run s = r at h
  obtain ⟨a | e, t⟩ := r
  · exact hE _ h
  · exact h

/-- What holds at the end of an action that answers. -/
theorem ok {m : ExceptT ε (StateM σ) α} (h : Ends P m Q E) {s t : σ} (hs : P s) {a : α}
    (hm : m.run.run s = (.ok a, t)) : Q a t := by
  have hend := h s hs
  rw [hm] at hend
  exact hend

/-- A fact that does not depend on the state. -/
theorem given {φ : Prop} {m : ExceptT ε (StateM σ) α} (h : φ → Ends P m Q E) :
    Ends (fun s => P s ∧ φ) m Q E :=
  fun s hs => h hs.2 s hs.1

theorem pure {a : α} (h : ∀ s, P s → Q a s) : Ends P (Pure.pure a : ExceptT ε (StateM σ) α) Q E := fun s hs => h s hs

theorem fail {e : ε} (h : ∀ s, P s → E s) : Ends P (throw e : ExceptT ε (StateM σ) α) Q E := fun s hs => h s hs

theorem map {m : ExceptT ε (StateM σ) α} {f : α → β} (h : Ends P m (fun a => R (f a)) E) :
    Ends P (f <$> m) R E := by
  rw [map_eq_pure_bind]
  exact h.bind fun a => .pure fun _ ht => ht

theorem get : Ends P (MonadState.get : ExceptT ε (StateM σ) σ) (fun a s => P s ∧ a = s) E := fun _ hs => ⟨hs, rfl⟩

theorem modify {f : σ → σ} {Q : PUnit → σ → Prop} (h : ∀ s, P s → Q ⟨⟩ (f s)) :
    Ends P (modifyThe σ f : ExceptT ε (StateM σ) PUnit) Q E :=
  fun s hs => h s hs

end Ends

end DocTemplate
