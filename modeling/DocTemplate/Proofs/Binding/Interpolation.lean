import DocTemplate.Binding.Placeholder
import Mathlib.Data.List.Infix
import Mathlib.Data.List.TakeWhile

/-!
# Filling placeholders in

A text is read as literals with placeholders between them. It is filled in once, from the left: literals come
through as they are, and what a placeholder shows is not looked at again. Main statement: `interpolate_fill`.
-/

namespace DocTemplate

open DocTemplate.Text

variable {context : Value}

/-! ## Where placeholders are -/

def opening : List Char := ['\x7b', '\x7b']

def closing : List Char := ['\x7d', '\x7d']

/-- What may stand between the braces of a placeholder. -/
def IsPath (path : List Char) : Prop := path ≠ [] ∧ '\x7d' ∉ path

instance (path : List Char) : Decidable (IsPath path) := inferInstanceAs (Decidable (_ ∧ _))

/-- Somewhere in a text is a placeholder. -/
def HasPlaceholder (cs : List Char) : Prop :=
  ∃ before path after, IsPath path ∧ cs = before ++ opening ++ path ++ closing ++ after

theorem placeholder?_eq_some_iff {cs path rest : List Char} :
    placeholder? cs = some (path, rest) ↔ IsPath path ∧ cs = opening ++ path ++ closing ++ rest := by
  constructor
  · intro h
    unfold placeholder? at h
    split at h
    · next cs =>
      split at h
      · next r hr =>
        simp only [Option.ite_none_left_eq_some, Option.some.injEq, Prod.mk.injEq] at h
        obtain ⟨hne, rfl, rfl⟩ := h
        refine ⟨⟨by simpa using hne, fun hmem => ?_⟩, ?_⟩
        · simpa using List.mem_takeWhile_imp hmem
        · have hcut := List.takeWhile_append_dropWhile (p := (· != '\x7d')) (l := cs)
          rw [hr] at hcut
          simp [opening, closing, hcut]
      · cases h
    · cases h
  · rintro ⟨⟨hne, hclosed⟩, rfl⟩
    have hall : ∀ c ∈ path, (c != '\x7d') = true := by
      intro c hc
      simp only [bne_iff_ne]
      rintro rfl
      exact hclosed hc
    simp [placeholder?, opening, closing, List.dropWhile_append_of_pos hall, List.takeWhile_append_of_pos hall, hne]

theorem placeholder?_eq_none {cs : List Char}
    (h : ∀ path rest, IsPath path → cs ≠ opening ++ path ++ closing ++ rest) : placeholder? cs = none := by
  rw [Option.eq_none_iff_forall_ne_some]
  rintro ⟨path, rest⟩ hfound
  obtain ⟨hpath, hcs⟩ := placeholder?_eq_some_iff.mp hfound
  exact h path rest hpath hcs

/-- Characters at none of which a placeholder begins are read as they are. -/
theorem scan_append {cs rest : List Char} (h : ∀ t ≠ [], t <:+ cs → placeholder? (t ++ rest) = none) :
    scan (cs ++ rest) = cs.map .literal ++ scan rest := by
  induction cs with
  | nil => rfl
  | cons c cs ih =>
    have hnone := h (c :: cs) (List.cons_ne_nil c cs) List.suffix_rfl
    have hrest := ih fun t hne ht => h t hne (ht.trans (List.suffix_cons c cs))
    rw [List.cons_append] at hnone ⊢
    rw [scan]
    split
    · next hsome => cases hnone.symm.trans hsome
    · rw [hrest, List.map_cons, List.cons_append]

theorem scan_placeholder {path : List Char} (h : IsPath path) (rest : List Char) :
    scan (opening ++ path ++ closing ++ rest) = .placeholder path :: scan rest := by
  have hfound : placeholder? (opening ++ path ++ closing ++ rest) = some (path, rest) :=
    placeholder?_eq_some_iff.mpr ⟨h, rfl⟩
  obtain ⟨cs, hcs⟩ : ∃ cs, opening ++ path ++ closing ++ rest = '\x7b' :: cs := ⟨_, rfl⟩
  rw [hcs] at hfound ⊢
  rw [scan]
  split
  · next hsome =>
    cases hfound.symm.trans hsome
    rfl
  · next hnone => cases hfound.symm.trans hnone

theorem scan_of_not_hasPlaceholder {cs : List Char} (h : ¬HasPlaceholder cs) : scan cs = cs.map .literal := by
  have hnone : ∀ t ≠ [], t <:+ cs → placeholder? (t ++ []) = none := by
    rintro t - ⟨before, rfl⟩
    rw [List.append_nil]
    refine placeholder?_eq_none ?_
    rintro path after hpath rfl
    exact h ⟨before, path, after, hpath, by simp⟩
  simpa [scan] using scan_append hnone

/-! ## What parts show -/

theorem showParts_literals (context : Value) (cs : List Char) (ps : List Part) :
    showParts context (cs.map .literal ++ ps) = (showParts context ps).map (cs ++ ·) := by
  induction cs with
  | nil =>
    rw [List.map_nil, List.nil_append]
    cases showParts context ps <;> rfl
  | cons c cs ih =>
    rw [List.map_cons, List.cons_append, showParts, ih]
    cases showParts context ps <;> rfl

/-- What a placeholder with a path shows. -/
def bound (context : Value) (path : String) : Except Failure String :=
  resolve context (some (String.ofList (trim path.toList))) >>= Value.plain

theorem shown_placeholder (path : String) :
    (Part.placeholder path.toList).shown context = (bound context path).map String.toList := by
  rw [Part.shown, bound]
  cases resolve context (some (String.ofList (trim path.toList))) <;> rfl

theorem showParts_of_not_hasPlaceholder {cs : List Char} (h : ¬HasPlaceholder cs) :
    showParts context (scan cs) = .ok cs := by
  have hparts := showParts_literals context cs []
  rwa [List.append_nil, ← scan_of_not_hasPlaceholder h, showParts, Except.map, List.append_nil] at hparts

/-! ## Texts with placeholders -/

/-- A literal and the path of the placeholder behind it. -/
structure Slot where
  literal : String
  path : String
  plain : ¬opening <:+: literal.toList := by decide
  apart : literal.toList.getLast? ≠ some '\x7b' := by decide
  isPath : IsPath path.toList := by decide

/-- A text with something in the place of each placeholder. -/
def fill (f : String → String) : List Slot → String → String
  | [], last => last
  | s :: slots, last => s.literal ++ f s.path ++ fill f slots last

def braced (path : String) : String := String.ofList (opening ++ path.toList ++ closing)

/-- No placeholder begins in a literal, whose last character opens none with the braces behind it. -/
theorem Slot.placeholder?_literal (s : Slot) {t rest : List Char} (hne : t ≠ []) (ht : t <:+ s.literal.toList) :
    placeholder? (t ++ (opening ++ rest)) = none := by
  refine placeholder?_eq_none fun path after _ htext => ?_
  have hopen : opening <+: t ++ (opening ++ rest) := ⟨path ++ closing ++ after, by rw [htext]; simp⟩
  obtain ⟨before, hcut⟩ := ht
  match t, hne with
  | [c], _ =>
    have hc : '\x7b' = c := (List.cons_prefix_cons.mp hopen).1
    apply s.apart
    rw [← hcut, ← hc, List.getLast?_concat]
  | c :: c' :: t, _ =>
    obtain ⟨hc, htail⟩ := List.cons_prefix_cons.mp hopen
    have hc' : '\x7b' = c' := (List.cons_prefix_cons.mp htail).1
    exact s.plain ⟨before, t, by rw [← hcut, ← hc, ← hc']; simp [opening]⟩

theorem scan_fill_braced (s : Slot) (slots : List Slot) (last : String) :
    scan (fill braced (s :: slots) last).toList =
      s.literal.toList.map .literal ++ .placeholder s.path.toList :: scan (fill braced slots last).toList := by
  have htext : (fill braced (s :: slots) last).toList =
      s.literal.toList ++ (opening ++ (s.path.toList ++ closing ++ (fill braced slots last).toList)) := by
    simp [fill, braced]
  have hscan := scan_placeholder s.isPath (fill braced slots last).toList
  simp only [List.append_assoc] at htext hscan ⊢
  rw [htext, scan_append fun t hne ht => s.placeholder?_literal hne ht, hscan]

theorem showParts_fill_braced (s : Slot) (slots : List Slot) (last : String) :
    showParts context (scan (fill braced (s :: slots) last).toList) =
      (do
        let shown ← bound context s.path
        let rest ← showParts context (scan (fill braced slots last).toList)
        .ok (s.literal.toList ++ (shown.toList ++ rest))) := by
  rw [scan_fill_braced, showParts_literals, showParts, shown_placeholder]
  cases bound context s.path with
  | error failure => rfl
  | ok shown => cases showParts context (scan (fill braced slots last).toList) <;> rfl

theorem not_hasPlaceholder_of_not_opening {cs : List Char} (h : ¬opening <:+: cs) : ¬HasPlaceholder cs := by
  rintro ⟨before, path, after, -, rfl⟩
  exact h ⟨before, path ++ closing ++ after, by simp⟩

theorem showParts_fill_ok {slots : List Slot} {last : String} {shown : String → String}
    (hlast : ¬HasPlaceholder last.toList) (h : ∀ s ∈ slots, bound context s.path = .ok (shown s.path)) :
    showParts context (scan (fill braced slots last).toList) = .ok (fill shown slots last).toList := by
  induction slots with
  | nil => exact showParts_of_not_hasPlaceholder hlast
  | cons s slots ih =>
    have hrest := ih fun t ht => h t (List.mem_cons_of_mem s ht)
    rw [showParts_fill_braced, h s List.mem_cons_self, hrest]
    refine congrArg Except.ok ?_
    simp [fill]

theorem showParts_fill_error {before after : List Slot} {s : Slot} {failure : Failure} (last : String)
    (hbefore : ∀ t ∈ before, ∃ shown, bound context t.path = .ok shown)
    (hs : bound context s.path = .error failure) :
    showParts context (scan (fill braced (before ++ s :: after) last).toList) = .error failure := by
  induction before with
  | nil =>
    rw [List.nil_append, showParts_fill_braced, hs]
    rfl
  | cons t before ih =>
    obtain ⟨shown, hshown⟩ := hbefore t List.mem_cons_self
    have hrest := ih fun u hu => hbefore u (List.mem_cons_of_mem t hu)
    rw [List.cons_append, showParts_fill_braced, hshown, hrest]
    rfl

/-- A text written with placeholders is shown with what they show in their places, and fails as the first of them that
fails; a text without placeholders is shown as it is. -/
theorem interpolate_fill (context : Value) :
    (∀ (slots : List Slot) (last : String), ¬opening <:+: last.toList →
      (∀ shown : String → String, (∀ s ∈ slots, bound context s.path = .ok (shown s.path)) →
        interpolate (some (fill braced slots last)) context = .ok (fill shown slots last)) ∧
      ∀ before s after failure, slots = before ++ s :: after →
        (∀ t ∈ before, ∃ shown, bound context t.path = .ok shown) → bound context s.path = .error failure →
        interpolate (some (fill braced slots last)) context = .error failure) ∧
      ∀ text : String, ¬HasPlaceholder text.toList → interpolate (some text) context = .ok text := by
  refine ⟨fun slots last hlast => ⟨fun shown h => ?_, fun before s after failure hslots hbefore hs => ?_⟩,
    fun text h => ?_⟩
  · rw [interpolate, showParts_fill_ok (not_hasPlaceholder_of_not_opening hlast) h, Except.map, String.ofList_toList]
  · rw [interpolate, hslots, showParts_fill_error last hbefore hs, Except.map]
  · rw [interpolate, showParts_of_not_hasPlaceholder h, Except.map, String.ofList_toList]

theorem value_like_placeholder_is_not_filled :
    (interpolate (some "\x7b \x7b\x7b a \x7d\x7d\x7b\x7bb\x7d\x7d\x7d")
        (.record [("a", .text "\x7b\x7bb\x7d\x7d"), ("b", .int 7)]) = .ok "\x7b \x7b\x7bb\x7d\x7d7\x7d") ∧
      interpolate (some "\x7b\x7b\x7d\x7d") .null = .ok "\x7b\x7b\x7d\x7d" := by
  constructor
  · obtain ⟨hfilled, -⟩ := (interpolate_fill (.record [("a", .text "\x7b\x7bb\x7d\x7d"), ("b", .int 7)])).1
      [{ literal := "\x7b ", path := " a " }, { literal := "", path := "b" }] "\x7d" (by decide)
    have hshown := hfilled (fun path => if path = "b" then "7" else "\x7b\x7bb\x7d\x7d")
      (List.forall_mem_cons.mpr ⟨by decide +kernel, List.forall_mem_singleton.mpr (by decide +kernel)⟩)
    refine Eq.trans (congrArg (fun text => interpolate (some text) _) ?_) (hshown.trans (congrArg Except.ok ?_))
    · decide +kernel
    · decide +kernel
  · refine (interpolate_fill .null).2 _ ?_
    rintro ⟨before, path, after, hpath, htext⟩
    -- Two pairs of braces leave no room for a path.
    have hlength : 4 = before.length + (path.length + (after.length + 1 + 1) + 1 + 1) := by
      simpa [opening, closing] using congrArg List.length htext
    have hne := List.length_pos_iff.mpr hpath.1
    omega

end DocTemplate
