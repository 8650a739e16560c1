import DocTemplate.Format.Amount
import DocTemplate.Proofs.Number.Digits

/-!
# Groups of digits

How digits are spread over the text of an amount: in groups of three before the point, and behind the point
with or without the zeros at their end.
-/

namespace DocTemplate

open DocTemplate.Number DocTemplate.Text

/-! ## Before the point -/

/-- Groups of three, the first of which may be shorter. -/
def InThrees (groups : List (List Char)) : Prop :=
  ∃ first rest, groups = first :: rest ∧ 1 ≤ first.length ∧ first.length ≤ 3 ∧ ∀ g ∈ rest, g.length = 3

theorem InThrees.eq_singleton {groups : List (List Char)} {c : Char} (h : InThrees groups)
    (hflatten : groups.flatten = [c]) : groups = [[c]] := by
  obtain ⟨first, rest, rfl, hleast, -, hthree⟩ := h
  rw [List.flatten_cons, List.append_eq_singleton_iff] at hflatten
  rcases hflatten with ⟨rfl, -⟩ | ⟨rfl, hrest⟩
  · exact absurd hleast (by decide)
  · cases rest with
    | nil => rfl
    | cons g rest =>
      have hnil := List.flatten_eq_nil_iff.mp hrest g List.mem_cons_self
      exact absurd (hthree g List.mem_cons_self) (by rw [hnil]; decide)

theorem groupReversed_eq {ds : List Char} (h : ds ≠ []) :
    ∃ groups, groupReversed ds = (join [','] groups).reverse ∧ groups.flatten = ds.reverse ∧
      InThrees groups := by
  induction ds using groupReversed.induct with
  | case1 a b c d rest ih =>
    obtain ⟨groups, hjoin, hflatten, hthrees⟩ := ih (List.cons_ne_nil d rest)
    obtain ⟨first, others, hgroups, hleast, hmost, hothers⟩ := hthrees
    have hne : groups ≠ [] := by simp [hgroups]
    refine ⟨groups ++ [[c, b, a]], ?_, ?_, first, others ++ [[c, b, a]], ?_, hleast, hmost, ?_⟩
    · rw [groupReversed, hjoin, join_concat hne]
      simp
    · rw [List.flatten_append, hflatten]
      simp
    · rw [hgroups, List.cons_append]
    · exact List.forall_mem_append.mpr ⟨hothers, List.forall_mem_singleton.mpr rfl⟩
  | case2 ds hshort =>
    refine ⟨[ds.reverse], ?_, by simp, ds.reverse, [], rfl, ?_, ?_, List.forall_mem_nil _⟩
    · rw [groupReversed, join, List.reverse_reverse]
      exact hshort
    · rw [List.length_reverse]
      exact List.length_pos_iff.mpr h
    · rw [List.length_reverse]
      rcases ds with _ | ⟨a, _ | ⟨b, _ | ⟨c, _ | ⟨d, rest⟩⟩⟩⟩
      case cons.cons.cons.cons => exact (hshort a b c d rest rfl).elim
      all_goals simp

/-- Digits are written in groups with commas between them. -/
theorem grouped_eq {ds : List Char} (h : ds ≠ []) :
    ∃ groups, grouped ds = join [','] groups ∧ groups.flatten = ds ∧ InThrees groups := by
  obtain ⟨groups, hjoin, hflatten, hthrees⟩ := groupReversed_eq (List.reverse_ne_nil_iff.mpr h)
  refine ⟨groups, ?_, ?_, hthrees⟩
  · rw [grouped, hjoin, List.reverse_reverse]
  · rw [hflatten, List.reverse_reverse]

theorem mem_join {separator c : Char} {ps : List (List Char)} (h : c ∈ join [separator] ps) :
    c = separator ∨ c ∈ ps.flatten := by
  induction ps using join.induct with
  | case1 => cases h
  | case2 p => exact .inr (by simpa [join] using h)
  | case3 p q ps ih =>
    simp only [join, List.mem_append, List.mem_singleton] at h
    rw [List.flatten_cons, List.mem_append]
    rcases h with (hp | hseparator) | hrest
    · exact .inr (.inl hp)
    · exact .inl hseparator
    · exact (ih hrest).imp_right .inr

/-- Without the separators a joined text holds the pieces. -/
theorem filter_join {separator : Char} {ps : List (List Char)} (h : separator ∉ ps.flatten) :
    (join [separator] ps).filter (· != separator) = ps.flatten := by
  have hkeep : ∀ p ∈ ps, p.filter (· != separator) = p := by
    intro p hp
    refine List.filter_eq_self.mpr fun c hc => ?_
    have hne : c ≠ separator := by
      rintro rfl
      exact h (List.mem_flatten_of_mem hp hc)
    simpa using hne
  induction ps using join.induct with
  | case1 => rfl
  | case2 p => rw [join, hkeep p (List.mem_singleton_self p), List.flatten_singleton]
  | case3 p q ps ih =>
    obtain ⟨hp, hrest⟩ := List.forall_mem_cons.mp hkeep
    rw [List.flatten_cons, List.mem_append, not_or] at h
    rw [join, List.filter_append, List.filter_append, hp, ih h.2 hrest, List.flatten_cons]
    simp

/-! ## Behind the point -/

section Decimals

variable {places n : Nat}

theorem length_fractionDigits (hpos : 0 < places) (h : n < 10 ^ places) :
    (fractionDigits places n).length = places := by
  have hcount : (decimalDigits n).length ≤ places := (Nat.length_toDigits_le_iff (by decide) hpos).mpr h
  simp only [fractionDigits, List.length_append, length_zeros]
  omega

theorem runValue_fractionDigits : runValue (fractionDigits places n) = n := by
  simp only [fractionDigits, runValue_append, runValue_zeros, runValue_decimalDigits, Nat.zero_mul, Nat.zero_add]

theorem isDigit_of_mem_fractionDigits {c : Char} (h : c ∈ fractionDigits places n) : c.isDigit := by
  rcases List.mem_append.mp h with hzero | hdigit
  · rw [List.eq_of_mem_replicate hzero]
    decide
  · exact isDigit_of_mem_decimalDigits hdigit

/-- The digits behind the point of `n * 10 ^ (-places)`. -/
def decimals (places n : Nat) : List Char := if places = 0 then [] else fractionDigits places (n % 10 ^ places)

theorem groupedSize_eq (places n : Nat) : groupedSize n (-places) =
    grouped (decimalDigits (n / 10 ^ places)) ++ behindPoint (decimals places n) := by
  rcases Nat.eq_zero_or_pos places with rfl | hpos
  · have hdigits : (if n = 0 then ['0'] else decimalDigits n ++ zeros 0) = decimalDigits n := by
      split
      · next hzero => rw [hzero, decimalDigits_zero]
      · exact List.append_nil _
    rw [groupedSize, if_pos (by decide), decimals, if_pos rfl, behindPoint_nil, List.append_nil, Nat.pow_zero,
      Nat.div_one]
    exact congrArg grouped hdigits
  · have hlength := length_fractionDigits hpos (Nat.mod_lt n (Nat.pow_pos (by decide) : 0 < 10 ^ places))
    have hne : fractionDigits places (n % 10 ^ places) ≠ [] := by
      intro hnil
      rw [hnil] at hlength
      exact hpos.ne hlength
    rw [groupedSize, if_neg (by omega), decimals, if_neg hpos.ne', behindPoint,
      if_neg (by simpa using hne)]
    simp only [Int.neg_neg, Int.toNat_natCast]
    rfl

theorem length_decimals : (decimals places n).length = places := by
  unfold decimals
  split
  · next hzero => exact hzero.symm
  · next hne => exact length_fractionDigits (Nat.pos_of_ne_zero hne) (Nat.mod_lt n (Nat.pow_pos (by decide)))

theorem runValue_decimals : runValue (decimals places n) = n % 10 ^ places := by
  unfold decimals
  split
  · next hzero =>
    rw [hzero, Nat.pow_zero, Nat.mod_one]
    rfl
  · exact runValue_fractionDigits

theorem isDigit_of_mem_decimals {c : Char} (h : c ∈ decimals places n) : c.isDigit := by
  unfold decimals at h
  split at h
  · cases h
  · exact isDigit_of_mem_fractionDigits h

theorem runValue_decimalDigits_append_decimals :
    runValue (decimalDigits (n / 10 ^ places) ++ decimals places n) = n := by
  rw [runValue_append, runValue_decimalDigits, runValue_decimals, length_decimals]
  exact Nat.div_add_mod' n (10 ^ places)

end Decimals

/-! ## Zeros at the end -/

theorem dropEnd_append_cons {p : Char → Bool} {c : Char} (hc : ¬p c) (cs ds : List Char) :
    dropEnd p (cs ++ c :: ds) = cs ++ c :: dropEnd p ds := by
  have hreverse : (cs ++ c :: ds).reverse = ds.reverse ++ c :: cs.reverse := by simp
  rw [dropEnd, dropEnd, hreverse, List.dropWhile_append]
  split
  · next hnil =>
    rw [List.isEmpty_iff.mp hnil, List.dropWhile_cons_of_neg hc]
    simp
  · simp

theorem dropFractionZeros_behindPoint {body fraction : List Char} (hbody : '.' ∉ body)
    (hfraction : '.' ∉ fraction) :
    dropFractionZeros (body ++ behindPoint fraction) = body ++ behindPoint (dropEnd (· == '0') fraction) := by
  cases fraction with
  | nil =>
    rw [dropFractionZeros, behindPoint_nil, List.append_nil, if_neg (by simpa using hbody)]
    exact (List.append_nil body).symm
  | cons d ds =>
    rw [dropFractionZeros, behindPoint_cons, if_pos (by simp), dropEnd_append_cons (by decide)]
    cases hrest : dropEnd (· == '0') (d :: ds) with
    | nil =>
      have hself : body.rdropWhile (· == '.') = body := by
        rw [List.rdropWhile_eq_self_iff]
        intro hne hpoint
        exact hbody (eq_of_beq hpoint ▸ List.getLast_mem hne)
      rw [dropEnd_eq_rdropWhile, List.rdropWhile_concat_pos _ _ _ (by decide), hself]
      exact (List.append_nil body).symm
    | cons e es =>
      have hmem : ∀ c ∈ e :: es, c ∈ d :: ds := by
        intro c hc
        rw [← hrest, dropEnd_eq_rdropWhile] at hc
        exact (List.rdropWhile_prefix _ _).subset hc
      rw [behindPoint_cons, dropEnd_eq_rdropWhile, List.rdropWhile_eq_self_iff]
      intro hne hpoint
      rw [List.getLast_append_of_ne_nil _ (List.cons_ne_nil _ _),
        List.getLast_cons (List.cons_ne_nil e es)] at hpoint
      exact hfraction (hmem '.' (eq_of_beq hpoint ▸ List.getLast_mem (List.cons_ne_nil e es)))

end DocTemplate
