import DocTemplate.Proofs.Store.Commit

/-!
# Consistent stores

What every store that steps lead to satisfies: versions belong to templates that exist, the versions of
a template are numbered without gaps, and a version in use exists and belongs to its template.
-/

namespace DocTemplate.Store

open DocTemplate.Calendar

/-- The numbers of the versions of a template, in the order in which they were added. -/
def numbersOf (s : Store) (template : Nat) : List Nat :=
  (s.versions.filter fun v => v.templateId == template).map (·.number)

/-- Rows have numbers of their own, versions have owners and gapless numbers, and a version in use is
one of the template's own. -/
structure Consistent (s : Store) : Prop where
  templateIds : (s.templates.map (·.id)).Nodup
  versionIds : (s.versions.map (·.id)).Nodup
  owned : ∀ v ∈ s.versions, ∃ t ∈ s.templates, t.id = v.templateId
  numbered : ∀ template, numbersOf s template = List.range' 1 (numbersOf s template).length
  current : ∀ t ∈ s.templates, ∀ n, t.current = some n →
    ∃ v ∈ s.versions, v.id = n ∧ v.templateId = t.id

theorem consistent_empty : Consistent empty where
  templateIds := .nil
  versionIds := .nil
  owned := by simp [empty]
  numbered _ := rfl
  current := by simp [empty]

/-! ## The next number -/

theorem nextNumber_nil : nextNumber [] = 1 := rfl

theorem nextNumber_of_max? {ns : List Nat} {n : Nat} (h : ns.max? = some n) :
    nextNumber ns = n + 1 := by
  unfold nextNumber
  rw [List.foldl_max, h, Option.getD_some, Nat.zero_max]

/-- The next number is not in use. -/
theorem nextNumber_notMem (ns : List Nat) : nextNumber ns ∉ ns := by
  intro hmem
  cases h : ns.max? with
  | none => simp [List.max?_eq_none_iff.mp h] at hmem
  | some n =>
    have := (List.max?_eq_some_iff.mp h).2 _ hmem
    rw [nextNumber_of_max? h] at this
    omega

/-- After the numbers from one on comes the one after them, in whatever order they stand. -/
theorem nextNumber_of_mem_iff {ns : List Nat} {n : Nat} (h : ∀ m, m ∈ ns ↔ 1 ≤ m ∧ m ≤ n) :
    nextNumber ns = n + 1 := by
  rcases Nat.eq_zero_or_pos n with rfl | hn
  · have hnil : ns = [] := List.eq_nil_iff_forall_not_mem.mpr fun m hm => by
      have := (h m).mp hm
      omega
    rw [hnil, nextNumber_nil]
  · refine nextNumber_of_max? (List.max?_eq_some_iff.mpr ⟨(h n).mpr ⟨hn, Nat.le_refl n⟩, ?_⟩)
    exact fun m hm => ((h m).mp hm).2

theorem mem_map_versionsOf {s : Store} {template n : Nat} :
    n ∈ (s.versionsOf template).map (·.number) ↔ n ∈ numbersOf s template := by
  simp only [numbersOf, versionsOf, List.mem_map, List.mem_mergeSort, List.mem_filter, beq_iff_eq,
    Int.natCast_inj]

theorem Consistent.nextNumber_eq {s : Store} (h : Consistent s) (template : Nat) :
    nextNumber ((s.versionsOf template).map (·.number)) = (numbersOf s template).length + 1 := by
  refine nextNumber_of_mem_iff fun n => ?_
  rw [mem_map_versionsOf, h.numbered template, List.length_range', List.mem_range'_1]
  omega

/-! ## One commit -/

variable {s : Store}

theorem nodup_concat_nextNumber {ns : List Nat} (h : ns.Nodup) : (ns ++ [nextNumber ns]).Nodup := by
  rw [List.nodup_append]
  refine ⟨h, by simp, fun n hn m hm => ?_⟩
  rintro rfl
  rw [List.mem_singleton] at hm
  exact nextNumber_notMem ns (hm ▸ hn)

theorem Consistent.addTemplate (h : Consistent s) {t : Template}
    (hid : t.id = nextNumber (s.templates.map (·.id))) (hcurrent : t.current = none) :
    Consistent { s with templates := s.templates ++ [t], clock := s.clock + 1 } where
  templateIds := by
    rw [List.map_append, List.map_singleton, hid]
    exact nodup_concat_nextNumber h.templateIds
  versionIds := h.versionIds
  owned v hv := by
    obtain ⟨u, hu, hid⟩ := h.owned v hv
    exact ⟨u, List.mem_append_left _ hu, hid⟩
  numbered := h.numbered
  current u hu n hn := by
    rcases List.mem_append.mp hu with hu | hu
    · exact h.current u hu n hn
    · rw [List.mem_singleton] at hu
      rw [hu, hcurrent] at hn
      cases hn

theorem numbersOf_append (versions : List Version) (v : Version) (template : Nat) :
    numbersOf { s with versions := versions ++ [v] } template =
      numbersOf { s with versions } template ++
        if v.templateId = template then [v.number] else [] := by
  unfold numbersOf
  rw [List.filter_append, List.map_append]
  by_cases h : v.templateId = template <;> simp [h]

theorem Consistent.addVersion (h : Consistent s) {v : Version}
    (howner : ∃ t ∈ s.templates, t.id = v.templateId)
    (hid : v.id = nextNumber (s.versions.map (·.id)))
    (hnumber : v.number = nextNumber ((s.versionsOf v.templateId).map (·.number))) :
    Consistent { s with versions := s.versions ++ [v] } where
  templateIds := h.templateIds
  versionIds := by
    rw [List.map_append, List.map_singleton, hid]
    exact nodup_concat_nextNumber h.versionIds
  owned w hw := by
    rcases List.mem_append.mp hw with hw | hw
    · exact h.owned w hw
    · rw [List.mem_singleton.mp hw]
      exact howner
  numbered template := by
    have hold := h.numbered template
    rw [numbersOf_append]
    change numbersOf s template ++ _ = List.range' 1 (numbersOf s template ++ _).length
    by_cases hv : v.templateId = template
    · subst hv
      rw [h.nextNumber_eq] at hnumber
      rw [if_pos rfl, List.length_append, List.length_singleton, List.range'_1_concat, ← hold,
        hnumber, Nat.add_comm]
    · simpa [hv] using hold
  current t ht n hn := by
    obtain ⟨w, hw, hwn⟩ := h.current t ht n hn
    exact ⟨w, List.mem_append_left _ hw, hwn⟩

theorem map_id_replace (t : Template) :
    (s.replace t).templates.map (·.id) = s.templates.map (·.id) := by
  unfold replace
  rw [List.map_map]
  refine List.map_congr_left fun u _ => ?_
  by_cases h : u.id = t.id <;> simp [h]

/-- The rows after one was written: the one that was written, and old ones. -/
theorem mem_replace {t u : Template} (h : u ∈ (s.replace t).templates) :
    u = t ∨ u ∈ s.templates := by
  obtain ⟨w, hw, rfl⟩ := List.mem_map.mp h
  by_cases hid : w.id = t.id
  · exact .inl (by simp [hid])
  · exact .inr (by simpa [hid] using hw)

theorem Consistent.write (h : Consistent s) {t : Template}
    (hcurrent : ∀ n, t.current = some n → ∃ v ∈ s.versions, v.id = n ∧ v.templateId = t.id) :
    Consistent { s.replace t with clock := s.clock + 1 } where
  templateIds := by
    rw [map_id_replace]
    exact h.templateIds
  versionIds := h.versionIds
  owned v hv := by
    obtain ⟨u, hu, hid⟩ := h.owned v hv
    have hmem : v.templateId ∈ (s.replace t).templates.map (·.id) := by
      rw [map_id_replace, ← hid]
      exact List.mem_map_of_mem hu
    obtain ⟨w, hw, hwid⟩ := List.mem_map.mp hmem
    exact ⟨w, hw, hwid⟩
  numbered := h.numbered
  current u hu n hn := by
    rcases mem_replace hu with rfl | hu
    · exact hcurrent n hn
    · exact h.current u hu n hn

theorem numbersOf_filter (id template : Nat) :
    numbersOf { s with versions := s.versions.filter fun v => v.templateId != id } template =
      if template = id then [] else numbersOf s template := by
  unfold numbersOf
  rw [List.filter_filter]
  by_cases h : template = id
  · subst h
    simp
  · rw [if_neg h]
    congr 1
    refine List.filter_congr fun v _ => ?_
    by_cases hv : v.templateId = template <;> simp [hv, h]

theorem Consistent.delete (h : Consistent s) (id : Nat) :
    Consistent { s with templates := s.templates.filter fun t => t.id != id,
                        versions := s.versions.filter fun v => v.templateId != id } where
  templateIds := h.templateIds.sublist (List.filter_sublist.map _)
  versionIds := h.versionIds.sublist (List.filter_sublist.map _)
  owned v hv := by
    rw [List.mem_filter] at hv
    obtain ⟨t, ht, hid⟩ := h.owned v hv.1
    exact ⟨t, List.mem_filter.mpr ⟨ht, by simpa [hid] using hv.2⟩, hid⟩
  numbered template := by
    change numbersOf { s with versions := _ } template =
      List.range' 1 (numbersOf { s with versions := _ } template).length
    rw [numbersOf_filter]
    split
    · rfl
    · exact h.numbered template
  current t ht n hn := by
    rw [List.mem_filter] at ht
    obtain ⟨v, hv, hvn, howner⟩ := h.current t ht.1 n hn
    exact ⟨v, List.mem_filter.mpr ⟨hv, by simpa [howner] using ht.2⟩, hvn, howner⟩

/-- Each commit keeps a store consistent. -/
theorem Consistent.commit {t : Store} (h : Consistent s) (hc : Commit s t) : Consistent t := by
  cases hc with
  | addTemplate t hid hcurrent _ => exact h.addTemplate hid hcurrent
  | addVersion v howner hid hnumber => exact h.addVersion howner hid hnumber
  | write t _ hcurrent _ => exact h.write hcurrent
  | delete id => exact h.delete id

/-! ## Whole runs -/

theorem Consistent.commits {t : Store} (h : Consistent s) (hc : Commits s t) : Consistent t := by
  induction hc with
  | refl => exact h
  | tail _ hc ih => exact ih.commit hc

/-- Whatever steps were taken from the empty store, failing ones included, it is consistent. -/
theorem consistent_runAll (around : Surroundings) (steps : List Step) :
    Consistent (runAll around steps empty) :=
  consistent_empty.commits (runAll_commits around steps empty)

end DocTemplate.Store
