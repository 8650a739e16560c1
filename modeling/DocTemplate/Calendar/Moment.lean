import DocTemplate.Calendar.Date

/-!
# Moments

A moment is a time on a date, with or without an offset from universal time. A moment with an
offset names an instant, and the date of that instant in universal time is `utcDate?`.
-/

namespace DocTemplate.Calendar

def dayLength : Nat := 86400000000

/-- A time of a date; times and offsets are counted in microseconds. -/
structure Moment where
  date : Date
  time : Nat
  offset : Option Int
  time_lt : time < dayLength
  offset_lt : ∀ o, offset = some o → o.natAbs < dayLength
deriving DecidableEq

/-- The moment of a date, a time and an offset, if time and offset are within a day. -/
def Moment.of? (date : Date) (time : Nat) (offset : Option Int) : Option Moment :=
  if ht : time < dayLength then
    match offset with
    | none => some ⟨date, time, none, ht, fun _ h => nomatch h⟩
    | some o =>
      if ho : o.natAbs < dayLength then
        some ⟨date, time, some o, ht, fun _ h => by cases h; exact ho⟩
      else none
  else none

/-- Microseconds from the start of day 0 on, in the moment's own time. -/
def Moment.localTime (m : Moment) : Int := m.date.dayNumber * dayLength + m.time

def Moment.instant? (m : Moment) : Option Int := m.offset.map (m.localTime - ·)

/-- The date of an instant in universal time, if it lies in the years 1 to 9999. -/
def dateOfInstant? (t : Int) : Option Date := Date.ofDayNumber? (t / dayLength)

/-- The date of a moment in universal time; without an offset it is the moment's own date. -/
def Moment.utcDate? (m : Moment) : Option Date :=
  match m.instant? with
  | some t => dateOfInstant? t
  | none => some m.date

/-- Hour, minute, second and microsecond of a time. -/
def clock (time : Nat) : Nat × Nat × Nat × Nat :=
  (time / 3600000000, time / 60000000 % 60, time / 1000000 % 60, time % 1000000)

/-- A moment as date, time and offset. Microseconds show when there are any; universal time is
marked by `Z` and other offsets are shown to the minute. -/
def Moment.text (m : Moment) : List Char :=
  let (hour, minute, second, micros) := clock m.time
  let fraction := if micros = 0 then [] else '.' :: padded 6 micros
  let offset := match m.offset with
    | none => []
    | some 0 => ['Z']
    | some o =>
      let minutes := o.natAbs / 60000000
      (if o < 0 then '-' else '+') :: (padded 2 (minutes / 60) ++ ':' :: padded 2 (minutes % 60))
  m.date.text ++ 'T' :: padded 2 hour ++ ':' :: padded 2 minute ++ ':' :: padded 2 second
    ++ fraction ++ offset

end DocTemplate.Calendar
