import DocTemplate.Calendar.Iso
import DocTemplate.Proofs.Calendar.Counting

/-!
# Moments that are typed in full

A moment as date, time and offset, with a `T` before the time, is read back as it is (`read?_signed`). What stands
at a place of a text is given by the rest of the text from the place on.
-/

namespace DocTemplate.Calendar

open DocTemplate.Number DocTemplate.Text

/-! ## Texts of moments -/

/-- Microseconds behind a point, if there are any. -/
def fractionText (micros : Nat) : List Char := if micros = 0 then [] else '.' :: padded 6 micros

/-- A time of a day with its seconds. -/
def clockText (time : Nat) : List Char :=
  let (hour, minute, second, micros) := clock time
  padded 2 hour ++ ':' :: (padded 2 minute ++ ':' :: (padded 2 second ++ fractionText micros))

/-- A moment with a text for its offset. -/
def Moment.typed (m : Moment) (zone : List Char) : List Char := m.date.text ++ 'T' :: (clockText m.time ++ zone)

/-- Hours and minutes after a sign. -/
def signedText (negative : Bool) (hours minutes : Nat) : List Char :=
  (if negative then '-' else '+') :: (padded 2 hours ++ ':' :: padded 2 minutes)

/-- The offset of hours and minutes, in microseconds. -/
def signedOffset (negative : Bool) (hours minutes : Nat) : Int :=
  let size : Int := ((hours * 60 + minutes) * 60000000 : Nat)
  if negative then -size else size

/-- The texts of an offset of whole minutes: hours and minutes after a sign, and a `Z` for universal time. -/
inductive IsZone : Int → List Char → Prop
  | zulu : IsZone 0 ['Z']
  | signed (negative : Bool) {hours minutes : Nat} : hours < 24 → minutes < 60 →
      IsZone (signedOffset negative hours minutes) (signedText negative hours minutes)

/-! ## What stands at a place -/

section Places

variable {cs ds rest : List Char} {i : Nat}

theorem drop_behind {n : Nat} (h : cs.drop i = ds ++ rest) (hn : ds.length = n) : cs.drop (i + n) = rest := by
  rw [← List.drop_drop, h, ← hn, List.drop_left]

/-- What stands behind a number of two digits and a character after it. -/
theorem drop_field {v : Nat} {c : Char} (hv : v < 100) (h : cs.drop i = padded 2 v ++ c :: rest) :
    cs.drop (i + 3) = rest := by
  rw [List.append_cons] at h
  refine drop_behind h ?_
  rw [List.length_append, length_padded (by decide) hv, List.length_singleton]

theorem charAt_eq (cs : List Char) (i : Nat) : charAt cs i = (cs.drop i).headD '\x00' := by
  rw [charAt, List.getD_eq_getElem?_getD, List.headD_eq_head?_getD, List.head?_drop]

theorem charAt_of_drop {c : Char} (h : cs.drop i = c :: rest) : charAt cs i = c := by
  rw [charAt_eq, h]
  rfl

theorem drop_char {c : Char} (h : cs.drop i = c :: rest) : cs.drop (i + 1) = rest := by
  rw [← List.singleton_append] at h
  exact drop_behind h rfl

theorem digitsAt?_eq (hds : ∀ c ∈ ds, c.isDigit) (h : cs.drop i = ds ++ rest) :
    digitsAt? cs i ds.length = some (runValue ds) := by
  induction ds using List.reverseRecOn generalizing rest with
  | nil => rfl
  | append_singleton ds d ih =>
    obtain ⟨hds, hd⟩ := List.forall_mem_append.mp hds
    rw [List.append_assoc] at h
    have hfirst := ih hds h
    have hlast : charAt cs (i + ds.length) = d := charAt_of_drop (drop_behind h rfl)
    have hvalue : runValue (ds ++ [d]) = 10 * runValue ds + (d.toNat - '0'.toNat) := by
      rw [runValue_append, runValue_cons]
      simp [runValue, Nat.mul_comm]
    rw [digitsAt?] at hfirst ⊢
    rw [List.length_append, List.length_singleton, List.range_succ, List.foldlM_append, hfirst, hvalue]
    simp [hlast, asciiDigit?_eq (hd d List.mem_cons_self)]

theorem digitsAt?_padded {width n : Nat} (hwidth : 0 < width) (hn : n < 10 ^ width)
    (h : cs.drop i = padded width n ++ rest) : digitsAt? cs i width = some n := by
  have hread := digitsAt?_eq (fun _ => isDigit_of_mem_padded) h
  rwa [length_padded hwidth hn, runValue_padded] at hread

/-- A number begins with a digit. -/
theorem isDigit_charAt {width n : Nat} (hwidth : 0 < width) (hn : n < 10 ^ width)
    (h : cs.drop i = padded width n ++ rest) : (charAt cs i).isDigit := by
  have hlength := length_padded hwidth hn
  cases hpadded : padded width n with
  | nil =>
    rw [hpadded, List.length_nil] at hlength
    omega
  | cons d ds =>
    rw [hpadded, List.cons_append] at h
    rw [charAt_of_drop h]
    exact isDigit_of_mem_padded (hpadded ▸ List.mem_cons_self)

end Places

/-! ## Reading a time -/

section Fields

variable {cs rest : List Char} {stop left i v : Nat}

theorem readFields?_colon (colon : Option Bool) (hcolon : colon.getD true = true) (hv : v < 100) (hstop : i + 3 < stop)
    (h : cs.drop i = padded 2 v ++ ':' :: rest) :
    readFields? cs stop (left + 1) colon i =
      (readFields? cs stop left (some true) (i + 3)).map fun r => (v :: r.1, r.2) := by
  have hvalue := digitsAt?_padded (by decide) hv h
  have hchar := charAt_of_drop (drop_behind h (length_padded (by decide) hv))
  rw [readFields?, hvalue]
  simp [hchar, hcolon, Nat.not_le_of_lt hstop]

theorem readFields?_last (colon : Option Bool) (hv : v < 100) (hstop : stop ≤ i + 3)
    (h : cs.drop i = padded 2 v ++ rest) :
    readFields? cs stop (left + 1) colon i = some ([v], .inr (rest.headD '\x00' ≠ '\x00')) := by
  have hvalue := digitsAt?_padded (by decide) hv h
  rw [readFields?, hvalue]
  simp [charAt_eq, drop_behind h (length_padded (by decide) hv), hstop]

theorem readFields?_point (colon : Option Bool) (hv : v < 100) (hstop : i + 3 < stop)
    (h : cs.drop i = padded 2 v ++ '.' :: rest) :
    readFields? cs stop (left + 1) colon i = some ([v], .inl (i + 3)) := by
  have hvalue := digitsAt?_padded (by decide) hv h
  have hchar := charAt_of_drop (drop_behind h (length_padded (by decide) hv))
  rw [readFields?, hvalue]
  simp [hchar, Nat.not_le_of_lt hstop]

end Fields

theorem fractionText_zero : fractionText 0 = [] := rfl

theorem fractionText_pos {micros : Nat} (h : micros ≠ 0) : fractionText micros = '.' :: padded 6 micros := if_neg h

theorem readFraction?_six {cs rest : List Char} {i micros : Nat} {c : Char} (hmicros : micros < 10 ^ 6)
    (hdigit : isAsciiDigit c = false) (hnul : c ≠ '\x00') (h : cs.drop i = padded 6 micros ++ c :: rest) :
    readFraction? cs (i + 6) i = some (micros, true) := by
  have hvalue := digitsAt?_padded (by decide) hmicros h
  have hbehind := drop_behind h (length_padded (by decide) hmicros)
  rw [readFraction?, Nat.add_sub_cancel_left, Nat.min_self, hvalue, hbehind]
  simp [hdigit, hnul]

/-- A time is read up to what stands behind it. -/
theorem readClock?_full {cs rest : List Char} {start hour minute second micros : Nat} {c : Char} (hhour : hour < 100)
    (hminute : minute < 100) (hsecond : second < 100) (hmicros : micros < 10 ^ 6) (hdigit : isAsciiDigit c = false)
    (hnul : c ≠ '\x00') (h : cs.drop start = padded 2 hour ++ ':' :: (padded 2 minute ++ ':' :: (padded 2 second ++
      (fractionText micros ++ c :: rest)))) :
    readClock? cs start (start + 8 + (fractionText micros).length) = some ⟨hour, minute, second, micros, true⟩ := by
  have hatminute := drop_field hhour h
  have hatsecond := drop_field hminute hatminute
  rw [readClock?, readFields?_colon none rfl hhour (by omega) h,
    readFields?_colon (some true) rfl hminute (by omega) hatminute]
  by_cases hzero : micros = 0
  · rw [hzero, fractionText_zero, List.nil_append] at hatsecond
    rw [hzero, fractionText_zero, readFields?_last _ hsecond (by simp) hatsecond]
    simp [hnul]
  · rw [fractionText_pos hzero, List.cons_append] at hatsecond
    have hatfraction := drop_field hsecond hatsecond
    have hread := readFraction?_six hmicros hdigit hnul hatfraction
    have hlength : start + 8 + (fractionText micros).length = start + 3 + 3 + 3 + 6 := by
      rw [fractionText_pos hzero, List.length_cons, length_padded (by decide) hmicros]
    rw [hlength, readFields?_point _ hsecond (by omega) hatsecond]
    simp [hread]

/-- An offset of hours and minutes is read to the end of the text. -/
theorem readOffset?_eq {cs : List Char} {start hours minutes : Nat} (negative : Bool) (hhours : hours < 24)
    (hminutes : minutes < 60) (h : cs.drop start = padded 2 hours ++ ':' :: padded 2 minutes) :
    readOffset? cs start negative = some (signedOffset negative hours minutes) := by
  have hatminutes := drop_field (by omega) h
  rw [← List.append_nil (padded 2 minutes)] at hatminutes
  have hlength : cs.length = start + 5 := by
    have hrest := congrArg List.length h
    rw [List.length_drop, List.length_append, List.length_cons, length_padded (by decide) (by omega),
      length_padded (by decide) (by omega)] at hrest
    omega
  have hclock : readClock? cs start cs.length = some ⟨hours, minutes, 0, 0, false⟩ := by
    rw [readClock?, readFields?_colon none rfl (by omega) (by omega) h,
      readFields?_last _ (by omega) (by omega) hatminutes]
    rfl
  have hsize : (if hours * 3600 + minutes * 60 + 0 = 0 then 0
      else ((hours * 3600 + minutes * 60 + 0 : Nat) : Int) * 1000000 + (0 : Nat)) =
        (((hours * 60 + minutes) * 60000000 : Nat) : Int) := by
    split <;> omega
  rw [readOffset?, hclock]
  simp only [Option.bind_eq_bind, Option.bind_some, Bool.false_eq_true, if_false, hsize]
  rfl

/-- The numbers of a time of a day, and the time from its numbers. -/
theorem clock_bounds {time : Nat} (h : time < dayLength) :
    time / 3600000000 ≤ 23 ∧ time / 60000000 % 60 ≤ 59 ∧ time / 1000000 % 60 ≤ 59 ∧ time % 1000000 < 10 ^ 6 ∧
      ((time / 3600000000 * 60 + time / 60000000 % 60) * 60 + time / 1000000 % 60) * 1000000 + time % 1000000
        = time := by
  unfold dayLength at h
  omega

theorem length_clockText {time : Nat} (h : time < dayLength) :
    (clockText time).length = 8 + (fractionText (time % 1000000)).length := by
  obtain ⟨hhour, hminute, hsecond, -, -⟩ := clock_bounds h
  have htwo : ∀ n < 100, (padded 2 n).length = 2 := fun n hn => length_padded (by decide) hn
  simp only [clockText, clock, List.length_append, List.length_cons]
  rw [htwo _ (by omega), htwo _ (by omega), htwo _ (by omega)]
  omega

theorem mem_fractionText {micros : Nat} {c : Char} (h : c ∈ fractionText micros) : c.isDigit ∨ c = '.' := by
  by_cases hzero : micros = 0
  · rw [hzero, fractionText_zero] at h
    cases h
  · rw [fractionText_pos hzero, List.mem_cons] at h
    exact h.symm.imp isDigit_of_mem_padded id

theorem mem_clockText {time : Nat} {c : Char} (h : c ∈ clockText time) : c.isDigit ∨ c = ':' ∨ c = '.' := by
  simp only [clockText, clock, List.mem_append, List.mem_cons] at h
  rcases h with hhour | hcolon | hminute | hcolon | hsecond | hfraction
  · exact .inl (isDigit_of_mem_padded hhour)
  · exact .inr (.inl hcolon)
  · exact .inl (isDigit_of_mem_padded hminute)
  · exact .inr (.inl hcolon)
  · exact .inl (isDigit_of_mem_padded hsecond)
  · exact (mem_fractionText hfraction).imp_right .inr

/-- A visible character of one byte. -/
def IsTyped (c : Char) : Prop := c.toNat < 128 ∧ ¬isBlank c

instance (c : Char) : Decidable (IsTyped c) := inferInstanceAs (Decidable (_ ∧ _))

/-- What is used of digits besides their values. -/
theorem isTyped_of_isDigit {c : Char} (h : c.isDigit) : IsTyped c ∧ c ∉ ['+', '-', 'W', 'Z'] := by
  obtain ⟨k, hk, rfl⟩ := eq_ofNat_of_isDigit h
  revert k
  decide

theorem isTyped_of_mem_clockText {time : Nat} {c : Char} (h : c ∈ clockText time) :
    IsTyped c ∧ c ∉ ['+', '-', 'W', 'Z'] := by
  rcases mem_clockText h with hdigit | rfl | rfl
  · exact isTyped_of_isDigit hdigit
  · decide
  · decide

/-- The time ends where the offset's sign stands. -/
theorem takeWhile_clockText (time : Nat) (negative : Bool) (hours minutes : Nat) :
    ((clockText time ++ signedText negative hours minutes).takeWhile fun c => c ≠ '+' ∧ c ≠ '-' ∧ c ≠ 'Z') =
      clockText time := by
  rw [List.takeWhile_append_of_pos, signedText, List.takeWhile_cons_of_neg, List.append_nil]
  · cases negative <;> decide
  · intro c hc
    obtain ⟨-, hother⟩ := isTyped_of_mem_clockText hc
    simp only [List.mem_cons, not_or] at hother
    exact decide_eq_true ⟨hother.1, hother.2.1, hother.2.2.2.1⟩

/-- A time with an offset is read as it is. -/
theorem readTime?_eq {time hours minutes : Nat} (negative : Bool) (h : time < dayLength) (hhours : hours < 24)
    (hminutes : minutes < 60) :
    readTime? (clockText time ++ signedText negative hours minutes) =
      some (time, some (signedOffset negative hours minutes)) := by
  obtain ⟨hhour, hminute, hsecond, hmicros, htime⟩ := clock_bounds h
  have hzone := takeWhile_clockText time negative hours minutes
  obtain ⟨cs, hcs⟩ : ∃ cs, cs = clockText time ++ signedText negative hours minutes := ⟨_, rfl⟩
  have hbehind : cs.drop (clockText time).length = signedText negative hours minutes := by
    rw [hcs, List.drop_left]
  have hsign := charAt_of_drop hbehind
  have hclock : readClock? cs 0 (clockText time).length =
      some ⟨time / 3600000000, time / 60000000 % 60, time / 1000000 % 60, time % 1000000, true⟩ := by
    have hfull : cs.drop 0 = padded 2 (time / 3600000000) ++ ':' :: (padded 2 (time / 60000000 % 60) ++
        ':' :: (padded 2 (time / 1000000 % 60) ++ (fractionText (time % 1000000) ++
          signedText negative hours minutes))) := by
      simp [hcs, clockText, clock]
    have hread := readClock?_full (by omega) (by omega) (by omega) hmicros
      (by cases negative <;> rfl) (by cases negative <;> decide) hfull
    rwa [Nat.zero_add, ← length_clockText h] at hread
  have hoffset : readOffset? cs ((clockText time).length + 1) negative = some (signedOffset negative hours minutes) :=
    readOffset?_eq negative hhours hminutes (drop_char hbehind)
  have hshort : (clockText time).length ≠ cs.length := by
    rw [hcs, List.length_append, signedText, List.length_cons]
    omega
  have hzulu : (if negative then '-' else '+') ≠ 'Z' := by cases negative <;> decide
  have hnegative : decide ((if negative then '-' else '+') = '-') = negative := by cases negative <;> decide
  have hday : ¬(23 < time / 3600000000 ∨ 59 < time / 60000000 % 60 ∨ 59 < time / 1000000 % 60) := by omega
  rw [← hcs] at hzone ⊢
  rw [readTime?, hzone, hclock]
  simp only [Option.bind_eq_bind, Option.bind_some, if_neg hshort, hsign, if_neg hzulu, hnegative, hoffset,
    Option.map_some, if_neg hday, htime]

/-! ## Reading a date -/

section Dates

variable {cs rest : List Char} {d : Date}

/-- What stands behind the year of a date. -/
theorem drop_year (h : cs.drop 0 = d.text ++ rest) :
    cs.drop 4 = '-' :: (padded 2 d.month ++ '-' :: (padded 2 d.day ++ rest)) := by
  rw [d.text_eq, List.append_assoc] at h
  have hbehind := drop_behind h (length_padded (by decide) d.fits.1)
  simpa using hbehind

theorem charAt_month_ne (h : cs.drop 0 = d.text ++ rest) : charAt cs 5 ≠ 'W' := by
  obtain ⟨-, hother⟩ := isTyped_of_isDigit (isDigit_charAt (by decide) d.fits.2.1 (drop_char (drop_year h)))
  intro hweek
  rw [hweek] at hother
  exact hother (by decide)

theorem readDate?_text (h : cs.drop 0 = d.text ++ rest) : readDate? cs 10 = some d := by
  obtain ⟨hyear, hmonth, hday⟩ := d.fits
  have hatmonth := drop_char (drop_year h)
  have hatday := drop_field hmonth hatmonth
  have hhyphen := charAt_of_drop (drop_behind hatmonth (length_padded (by decide) hmonth))
  have hyear' : digitsAt? cs 0 4 = some d.year := by
    rw [d.text_eq, List.append_assoc] at h
    exact digitsAt?_padded (by decide) hyear h
  have hmonth' : digitsAt? cs 5 2 = some d.month := digitsAt?_padded (by decide) hmonth hatmonth
  have hday' : digitsAt? cs 8 2 = some d.day := digitsAt?_padded (by decide) hday hatday
  have hdate : Date.ofNumbers? d.year d.month d.day = some d := dif_pos d.exists_
  rw [readDate?, hyear']
  simp only [Option.bind_eq_bind, Option.bind_some, charAt_of_drop (drop_year h), if_true,
    if_neg (charAt_month_ne h), hmonth', hhyphen]
  simp [hday', hdate]

theorem dateLength?_text (h : cs.drop 0 = d.text ++ rest) (hlength : cs.length ≠ 7) : dateLength? cs = some 10 := by
  rw [dateLength?]
  simp only [if_neg hlength, charAt_of_drop (drop_year h), if_true, if_neg (charAt_month_ne h)]

end Dates

/-! ## Bytes -/

theorem byteList_loop (bs : ByteArray) (i : Nat) (r : List UInt8) :
    ByteArray.toList.loop bs i r = r.reverse ++ bs.data.toList.drop i := by
  induction i, r using ByteArray.toList.loop.induct bs with
  | case1 i r hlt ih =>
    have hi : i < bs.data.toList.length := by simpa using hlt
    have hget : bs.get! i = bs.data.toList[i] := by
      rw [ByteArray.get!, Array.getElem_toList]
      exact getElem!_pos bs.data i (by simpa using hlt)
    rw [ByteArray.toList.loop, if_pos hlt, ih, List.drop_eq_getElem_cons hi, hget, List.reverse_cons,
      List.append_assoc, List.singleton_append]
  | case2 i r hge =>
    have hi : bs.data.toList.length ≤ i := by simpa using hge
    rw [ByteArray.toList.loop, if_neg hge, List.drop_eq_nil_of_le hi, List.append_nil]

theorem utf8Encode_ascii {cs : List Char} (h : ∀ c ∈ cs, c.toNat < 128) :
    cs.utf8Encode = (cs.map fun c => c.val.toUInt8).toByteArray := by
  induction cs with
  | nil => rfl
  | cons c cs ih =>
    obtain ⟨hc, hcs⟩ := List.forall_mem_cons.mp h
    have hsize : c.utf8Size = 1 := by
      rw [Char.utf8Size_eq_one_iff, UInt32.le_iff_toNat_le]
      exact Nat.le_of_lt_succ hc
    rw [List.utf8Encode_cons, List.utf8Encode_singleton, String.utf8EncodeChar_eq_singleton hsize, ih hcs,
      ← List.toByteArray_append]
    rfl

/-- Characters of one byte stand for their bytes. -/
theorem byteChars_ascii {cs : List Char} (h : ∀ c ∈ cs, c.toNat < 128) : byteChars cs = cs := by
  have hbytes : (String.ofList cs).toUTF8.toList = cs.map fun c => c.val.toUInt8 := by
    rw [ByteArray.toList, byteList_loop, String.toUTF8, String.toByteArray_ofList, utf8Encode_ascii h,
      List.data_toByteArray]
    rfl
  rw [byteChars, hbytes, List.map_map]
  refine (List.map_congr_left fun c hc => ?_).trans (List.map_id cs)
  have hbyte : c.val.toUInt8.toNat = c.toNat := Nat.mod_eq_of_lt ((h c hc).trans (by decide))
  change Char.ofNat c.val.toUInt8.toNat = c
  rw [hbyte, Char.ofNat_toNat]

/-! ## Reading a moment -/

theorem isTyped_padded (width n : Nat) : ∀ c ∈ padded width n, IsTyped c :=
  fun _ hc => (isTyped_of_isDigit (isDigit_of_mem_padded hc)).1

theorem isTyped_signedText (negative : Bool) (hours minutes : Nat) :
    ∀ c ∈ signedText negative hours minutes, IsTyped c := by
  refine List.forall_mem_cons.mpr ⟨by cases negative <;> decide, List.forall_mem_append.mpr ⟨isTyped_padded _ _, ?_⟩⟩
  exact List.forall_mem_cons.mpr ⟨by decide, isTyped_padded _ _⟩

theorem isTyped_text (d : Date) : ∀ c ∈ d.text, IsTyped c := by
  rw [d.text_eq]
  refine List.forall_mem_append.mpr ⟨isTyped_padded _ _, List.forall_mem_cons.mpr ⟨by decide, ?_⟩⟩
  exact List.forall_mem_append.mpr ⟨isTyped_padded _ _, List.forall_mem_cons.mpr ⟨by decide, isTyped_padded _ _⟩⟩

theorem IsZone.isTyped {o : Int} {zone : List Char} (h : IsZone o zone) : ∀ c ∈ zone, IsTyped c := by
  cases h with
  | zulu => exact List.forall_mem_singleton.mpr (by decide)
  | signed negative hhours hminutes => exact isTyped_signedText _ _ _

theorem Moment.isTyped_typed (m : Moment) {o : Int} {zone : List Char} (hzone : IsZone o zone) :
    ∀ c ∈ m.typed zone, IsTyped c := by
  refine List.forall_mem_append.mpr ⟨isTyped_text _, List.forall_mem_cons.mpr ⟨by decide, ?_⟩⟩
  exact List.forall_mem_append.mpr ⟨fun _ hc => (isTyped_of_mem_clockText hc).1, hzone.isTyped⟩

theorem length_text (d : Date) : d.text.length = 10 := by
  obtain ⟨hyear, hmonth, hday⟩ := d.fits
  simp only [d.text_eq, List.length_append, List.length_cons]
  rw [length_padded (by decide) hyear, length_padded (by decide) hmonth, length_padded (by decide) hday]

theorem Moment.of?_self {m : Moment} {o : Int} (h : m.offset = some o) :
    Moment.of? m.date m.time (some o) = some m := by
  rw [Moment.of?, dif_pos m.time_lt]
  simp only [dif_pos (m.offset_lt o h)]
  cases m
  cases h
  rfl

theorem read?_signed {m : Moment} {negative : Bool} {hours minutes : Nat} (hhours : hours < 24)
    (hminutes : minutes < 60) (h : m.offset = some (signedOffset negative hours minutes)) :
    Moment.read? (m.typed (signedText negative hours minutes)) = some m := by
  have hbytes := byteChars_ascii fun c hc => (m.isTyped_typed (.signed negative hhours hminutes) c hc).1
  obtain ⟨cs, hcs⟩ : ∃ cs, cs = m.typed (signedText negative hours minutes) := ⟨_, rfl⟩
  have hatdate : cs.drop 0 = m.date.text ++ 'T' :: (clockText m.time ++ signedText negative hours minutes) := hcs
  have hattime := drop_behind hatdate (length_text m.date)
  have hlength : 11 ≤ cs.length := by
    rw [hcs, Moment.typed, List.length_append, List.length_cons, length_text]
    omega
  have hbehind : cs.drop (10 + byteCount 'T') = clockText m.time ++ signedText negative hours minutes :=
    drop_char hattime
  have hletter : charAt cs 10 = 'T' := charAt_of_drop hattime
  have hlong : ¬cs.length < 7 := by omega
  have hmore : ¬cs.length ≤ 10 := by omega
  rw [← hcs] at hbytes ⊢
  rw [Moment.read?, hbytes]
  simp only [Option.bind_eq_bind, Option.bind_some, if_neg hlong, dateLength?_text hatdate (by omega),
    readDate?_text hatdate, if_neg hmore, hletter, hbehind, readTime?_eq negative m.time_lt hhours hminutes,
    Moment.of?_self h]

end DocTemplate.Calendar
