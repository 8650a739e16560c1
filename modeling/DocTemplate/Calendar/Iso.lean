import DocTemplate.Calendar.Moment
import DocTemplate.Text.Digit

/-!
# Dates and times as they are typed

The ISO 8601 forms that are read: a date by month and day or by week, with or without separators;
then, after any one character, a time of up to three fields with a fraction; then an offset. Where
the date ends is decided by the separators and the count of digits (`dateLength?`). Places are
counted in the bytes of UTF-8, so that what is read is a text with one character for each byte.
-/

namespace DocTemplate.Calendar

open DocTemplate.Text

/-- The character at a place; past the end there is the character NUL. -/
def charAt (cs : List Char) (i : Nat) : Char := cs.getD i '\x00'

/-- The number written by a fixed count of digits at a place. -/
def digitsAt? (cs : List Char) (i count : Nat) : Option Nat :=
  (List.range count).foldlM (fun n k => (asciiDigit? (charAt cs (i + k))).map (10 * n + ·)) 0

/-- How many characters at the start belong to the date. -/
def dateLength? (cs : List Char) : Option Nat :=
  let n := cs.length
  if n = 7 then some 7
  else if charAt cs 4 = '-' then
    if charAt cs 5 = 'W' then
      if n < 8 then none
      else if 8 < n ∧ charAt cs 8 = '-' then
        if n = 9 then none
        else if 10 < n ∧ isAsciiDigit (charAt cs 10) then some 8
        else some 10
      else some 8
    else some 10
  else if charAt cs 4 = 'W' then
    let p := 7 + ((cs.drop 7).takeWhile isAsciiDigit).length
    some (if p < 9 then p else if p % 2 = 0 then 7 else 8)
  else some 8

/-- The date at the start of a text whose date part has the given length. -/
def readDate? (cs : List Char) (length : Nat) : Option Date := do
  let year ← digitsAt? cs 0 4
  let separated := charAt cs 4 = '-'
  let p := if separated then 5 else 4
  if charAt cs p = 'W' then
    let week ← digitsAt? cs (p + 1) 2
    let p := p + 3
    if p < length then
      if separated ∧ charAt cs p ≠ '-' then none
      let day ← digitsAt? cs (if separated then p + 1 else p) 1
      Date.ofWeek? year week day
    else Date.ofWeek? year week 1
  else
    let month ← digitsAt? cs p 2
    if separated ∧ charAt cs (p + 2) ≠ '-' then none
    let day ← digitsAt? cs (if separated then p + 3 else p + 2) 2
    Date.ofNumbers? year month day

/-- Hours, minutes, seconds and microseconds, and whether text is left after them. -/
structure ClockReading where
  hour : Nat
  minute : Nat
  second : Nat
  micros : Nat
  more : Bool

/-- A fraction of a second at place `i`, of which six digits count. -/
def readFraction? (cs : List Char) (stop i : Nat) : Option (Nat × Bool) := do
  let count := min (stop - i) 6
  let n ← digitsAt? cs i count
  let after := (cs.drop (i + count)).dropWhile isAsciiDigit
  some (n * Nat.pow 10 (6 - count), after.headD '\x00' ≠ '\x00')

/-- The fields of a time from place `i` on, at most `left` of them: their values, and the place of
the fraction or, without one, whether text is left. `colon` tells whether colons separate the
fields, once the first one is read. -/
def readFields? (cs : List Char) (stop : Nat) : Nat → Option Bool → Nat → Option (List Nat × (Nat ⊕ Bool))
  | 0, _, i => some ([], .inl i)
  | left + 1, colon, i => do
    let value ← digitsAt? cs i 2
    let c := charAt cs (i + 2)
    let colon := colon.getD (c = ':')
    if stop ≤ i + 3 then some ([value], .inr (c ≠ '\x00'))
    else if colon ∧ c = ':' then
      (readFields? cs stop left (some colon) (i + 3)).map fun r => (value :: r.1, r.2)
    else if c = '.' ∨ c = ',' then some ([value], .inl (i + 3))
    else if colon then none
    else (readFields? cs stop left (some colon) (i + 2)).map fun r => (value :: r.1, r.2)

/-- A time that ends at place `stop`. -/
def readClock? (cs : List Char) (start stop : Nat) : Option ClockReading := do
  let (vs, rest) ← readFields? cs stop 3 none start
  let (micros, more) ← match rest with
    | .inr more => some (0, more)
    | .inl i => readFraction? cs stop i
  some ⟨vs.getD 0 0, vs.getD 1 0, vs.getD 2 0, micros, more⟩

/-- An offset after its sign; one of no full seconds is universal time. -/
def readOffset? (cs : List Char) (start : Nat) (negative : Bool) : Option Int := do
  let r ← readClock? cs start cs.length
  if r.more then none
  let seconds := r.hour * 3600 + r.minute * 60 + r.second
  let size : Int := if seconds = 0 then 0 else seconds * 1000000 + r.micros
  some (if negative then -size else size)

def readTime? (cs : List Char) : Option (Nat × Option Int) := do
  let zone := (cs.takeWhile fun c => c ≠ '+' ∧ c ≠ '-' ∧ c ≠ 'Z').length
  let r ← readClock? cs 0 zone
  let offset ←
    if zone = cs.length then if r.more then none else some none
    else if charAt cs zone = 'Z' then if zone + 1 = cs.length then some (some 0) else none
    else (readOffset? cs (zone + 1) (charAt cs zone = '-')).map some
  if 23 < r.hour ∨ 59 < r.minute ∨ 59 < r.second then none
  some (((r.hour * 60 + r.minute) * 60 + r.second) * 1000000 + r.micros, offset)

/-- The bytes of a text, each as a character. -/
def byteChars (cs : List Char) : List Char :=
  (String.ofList cs).toUTF8.toList.map fun b => Char.ofNat b.toNat

/-- How many bytes the character that begins with a byte takes. -/
def byteCount (first : Char) : Nat :=
  let n := first.toNat
  if n < 0x80 then 1
  else if n / 0x10 = 0xE then 3
  else if n / 0x10 = 0xF then 4
  else 2

/-- A date, or a date and a time, as it is typed. -/
def Moment.read? (cs : List Char) : Option Moment := do
  let cs := byteChars cs
  if cs.length < 7 then none
  let length ← dateLength? cs
  let date ← readDate? cs length
  if cs.length ≤ length then Moment.of? date 0 none
  else
    let (time, offset) ← readTime? (cs.drop (length + byteCount (charAt cs length)))
    Moment.of? date time offset

end DocTemplate.Calendar
