import DocTemplate.Console.Session
import DocTemplate.Proofs.Action
import DocTemplate.Proofs.Binding.Route

/-!
# Slugs in places

Every title that is a text has a slug, whatever its words are found to be, and a slug is a single name: the files
of a document stand in a directory of their own right below the directory for files. A title with a lone surrogate
has a slug if it has words. Main statement: `files_stay_in_place`.
-/

namespace DocTemplate.Artifact

open DocTemplate.Console DocTemplate.Text

/-! ## The form of slugs -/

/-- A text of small letters, digits and hyphens, none of which is at an end. -/
structure IsSlug (cs : List Char) : Prop where
  nonempty : cs ≠ []
  chars : ∀ c ∈ cs, ('a' ≤ c ∧ c ≤ 'z') ∨ ('0' ≤ c ∧ c ≤ '9') ∨ c = '-'
  head : cs.head? ≠ some '-'
  last : cs.getLast? ≠ some '-'

theorem isSlugChar_iff {c : Char} :
    isSlugChar c ↔ ('a' ≤ c ∧ c ≤ 'z') ∨ ('0' ≤ c ∧ c ≤ '9') ∨ c = '-' := by
  simp only [isSlugChar, isAsciiDigit, Bool.or_eq_true, Bool.and_eq_true, decide_eq_true_eq]
  tauto

theorem head?_dropAround {p : Char → Bool} {c : Char} (hc : p c) (cs : List Char) :
    (dropAround p cs).head? ≠ some c := by
  intro hhead
  have hnot := List.head?_dropWhile_not p cs
  obtain ⟨rest, hrest⟩ := List.rdropWhile_prefix p (dropStart p cs)
  rw [← dropEnd_eq_rdropWhile, ← dropAround] at hrest
  rw [← dropStart, ← hrest] at hnot
  simp [hhead, hc] at hnot

theorem getLast?_dropAround {p : Char → Bool} {c : Char} (hc : p c) (cs : List Char) :
    (dropAround p cs).getLast? ≠ some c := by
  intro hlast
  have hnot := List.head?_dropWhile_not p (dropStart p cs).reverse
  rw [dropAround, dropEnd, List.getLast?_reverse] at hlast
  simp [hlast, hc] at hnot

theorem length_lowBytes (count n : Nat) : (lowBytes count n).length = count := by
  induction count generalizing n with
  | zero => rfl
  | succ count ih => simp [lowBytes, ih]

theorem length_digest (bs : List UInt8) : (digest bs).length = 16 := by
  simp [digest, length_lowBytes]

theorem length_digestSlug (title : String) : (digestSlug title).length = 12 := by
  simp [digestSlug, hexText, hexDigits, length_digest]

theorem ne_hyphen_of_mem_digestSlug {title : String} {c : Char} (h : c ∈ digestSlug title) : c ≠ '-' := by
  obtain ⟨d, hd, rfl⟩ := mem_digestSlug h
  exact (by decide : ∀ d < 16, hexDigit d ≠ '-') d hd

theorem isSlug_digestSlug (title : String) : IsSlug (digestSlug title) where
  nonempty := by simp [← List.length_pos_iff, length_digestSlug]
  chars _ hc := isSlugChar_iff.mp (isSlugChar_of_mem_digestSlug hc)
  head hhead := ne_hyphen_of_mem_digestSlug (List.mem_of_head? hhead) rfl
  last hlast := ne_hyphen_of_mem_digestSlug (List.mem_of_getLast? hlast) rfl

theorem isSlug_asSlug {found : Points} (h : asSlug found ≠ []) : IsSlug (asSlug found) where
  nonempty := h
  chars _ hc := isSlugChar_iff.mp (isSlugChar_of_mem_asSlug hc)
  head := head?_dropAround rfl _
  last := getLast?_dropAround rfl _

/-- A title has a slug, unless it has neither words nor a digest. -/
theorem slugFrom_cases (found title : Points) :
    (asSlug found = [] ∧ textOf? title = none ∧ slugFrom found title = .error .loneSurrogate) ∨
      ∃ slug, slugFrom found title = .ok slug ∧ IsSlug slug := by
  rw [slugFrom_eq, slugText]
  split
  · next hnone =>
    cases htitle : textOf? title with
    | none => exact .inl ⟨hnone, rfl, rfl⟩
    | some text => exact .inr ⟨_, rfl, isSlug_digestSlug text⟩
  · next hsome => exact .inr ⟨_, rfl, isSlug_asSlug hsome⟩

/-! ## Names in places -/

/-- A text that is one name in a path, and leads down. -/
structure IsName (s : String) : Prop where
  nonempty : s ≠ ""
  undivided : '/' ∉ s.toList
  staying : s ≠ "."
  descending : s ≠ ".."

theorem IsSlug.isName {cs : List Char} (h : IsSlug cs) : IsName (String.ofList cs) := by
  have hchar {c : Char} (hc : c ∈ (String.ofList cs).toList) : isSlugChar c := by
    rw [String.toList_ofList] at hc
    exact isSlugChar_iff.mpr (h.chars c hc)
  refine ⟨?_, fun hc => ?_, fun hdot => ?_, fun hdots => ?_⟩
  · simpa using h.nonempty
  · cases hchar hc
  · rw [hdot] at hchar
    cases hchar (c := '.') (by decide)
  · rw [hdots] at hchar
    cases hchar (c := '.') (by decide)

theorem isName_fileName (kind : FileKind) : IsName kind.fileName := by
  cases kind <;> constructor <;> decide

theorem IsName.join {s : String} (h : IsName s) (base : Place) :
    base.join s = ⟨base.absolute, base.names ++ [s]⟩ := by
  have hnames : Place.namesOf s = [s] := by
    simp [Place.namesOf, pieces_of_not_mem h.undivided, h.nonempty, h.staying]
  have hrelative : ¬s.toList.head? = some '/' := fun hhead => h.undivided (List.mem_of_head? hhead)
  simp [Place.join, Place.read, hnames, hrelative]

/-- Steps up do not undo a name that comes after them. -/
theorem IsName.resolved_concat {s : String} (h : IsName s) (p : Place) :
    resolved ⟨p.absolute, p.names ++ [s]⟩ = ⟨p.absolute, (resolved p).names ++ [s]⟩ := by
  have hstep (names : List String) :
      resolved.step ⟨p.absolute, p.names ++ [s]⟩ names s = s :: names := by
    unfold resolved.step
    split <;> simp [h.descending]
  simp only [resolved, List.foldl_append, List.foldl_cons, List.foldl_nil, hstep, List.reverse_cons]
  rfl

/-! ## Files of documents -/

variable {slug : List Char}

theorem IsSlug.documentDirectory_eq (h : IsSlug slug) (base : Place) :
    documentDirectory base (String.ofList slug) true =
      ⟨base.absolute, base.names ++ [String.ofList slug]⟩ :=
  h.isName.join base

theorem IsSlug.filePlace_eq (h : IsSlug slug) (base : Place) (kind : FileKind) :
    filePlace base (String.ofList slug) kind true =
      ⟨base.absolute, base.names ++ [String.ofList slug, kind.fileName]⟩ := by
  rw [filePlace, h.documentDirectory_eq, (isName_fileName kind).join, List.append_assoc]
  rfl

theorem IsSlug.resolved_filePlace (h : IsSlug slug) (base : Place) (kind : FileKind) :
    resolved (filePlace base (String.ofList slug) kind true) =
      ⟨base.absolute, (resolved base).names ++ [String.ofList slug, kind.fileName]⟩ := by
  rw [filePlace, (isName_fileName kind).join, (isName_fileName kind).resolved_concat,
    h.documentDirectory_eq, h.isName.resolved_concat, List.append_assoc]
  rfl

theorem run_makeDirectory (place : Place) (p : Progress) :
    (makeDirectory place).run.run p =
      match p.session.disk.obstacle? place with
      | some o => (.error (.crashed (.obstacle o)), p)
      | none => (.ok (), p.onDisk (·.makeDirectory place)) := by
  unfold makeDirectory
  rw [run_bind]
  change (match p.session.disk.obstacle? place with
    | some o => crash (.obstacle o)
    | none => changeDisk (·.makeDirectory place) : Act Unit).run.run p = _
  cases p.session.disk.obstacle? place <;> rfl

/-- The directory of a document is made and the place of its file given, unless the disk does not take the
directory. -/
theorem IsSlug.run_placeFor (h : IsSlug slug) (kind : FileKind) (p : Progress) :
    (placeFor (String.ofList slug) kind).run.run p =
      match p.session.disk.obstacle?
          ⟨p.session.outDirectory.absolute, p.session.outDirectory.names ++ [String.ofList slug]⟩ with
      | some o => (.error (.crashed (.obstacle o)), p)
      | none =>
        (.ok (filePlace p.session.outDirectory (String.ofList slug) kind true),
          p.onDisk (·.makeDirectory
            ⟨p.session.outDirectory.absolute, p.session.outDirectory.names ++ [String.ofList slug]⟩)) := by
  unfold placeFor
  rw [run_bind]
  change ((do
    makeDirectory (documentDirectory p.session.outDirectory (String.ofList slug) true)
    pure (filePlace p.session.outDirectory (String.ofList slug) kind true) : Act Place)).run.run p = _
  rw [run_bind, run_makeDirectory, h.documentDirectory_eq]
  generalize p.session.disk.obstacle? _ = o
  cases o <;> rfl

/-- Every title has a slug, and no check refuses it, but for a title without words that has a lone surrogate. A file
of a document with a slug is the file of its kind in the directory that the slug names, right below the directory for
files: not in that directory itself, above it or beside it, also where steps up are undone. Nothing but that directory
is made for it. -/
theorem files_stay_in_place (words : Words) (title : Points) :
    (asSlug (words title) = [] ∧ textOf? title = none ∧
      slugFrom (words title) title = .error .loneSurrogate) ∨
    ∃ slug, slugFrom (words title) title = .ok slug ∧ IsSlug slug ∧
      (∀ base kind,
        filePlace base (String.ofList slug) kind true =
          ⟨base.absolute, base.names ++ [String.ofList slug, kind.fileName]⟩ ∧
        resolved (filePlace base (String.ofList slug) kind true) =
          ⟨base.absolute, (resolved base).names ++ [String.ofList slug, kind.fileName]⟩) ∧
      ∀ kind (p : Progress),
        (placeFor (String.ofList slug) kind).run.run p =
          match p.session.disk.obstacle?
              ⟨p.session.outDirectory.absolute, p.session.outDirectory.names ++ [String.ofList slug]⟩ with
          | some o => (.error (.crashed (.obstacle o)), p)
          | none =>
            (.ok (filePlace p.session.outDirectory (String.ofList slug) kind true),
              p.onDisk (·.makeDirectory
                ⟨p.session.outDirectory.absolute, p.session.outDirectory.names ++ [String.ofList slug]⟩)) := by
  refine (slugFrom_cases (words title) title).imp_right ?_
  rintro ⟨slug, hfrom, hslug⟩
  refine ⟨slug, hfrom, hslug, fun base kind => ?_, fun kind p => hslug.run_placeFor kind p⟩
  exact ⟨hslug.filePlace_eq base kind, hslug.resolved_filePlace base kind⟩

/-- A lone surrogate is no text, and no slug is made of it where no words are found in it. -/
theorem lone_surrogate_has_no_slug :
    asSlug (latinWords [0xDCFF]) = [] ∧ slugFrom (latinWords [0xDCFF]) [0xDCFF] = .error .loneSurrogate :=
  ⟨rfl, rfl⟩

end DocTemplate.Artifact
