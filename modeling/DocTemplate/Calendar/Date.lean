/-!
# Dates

Dates of the proleptic Gregorian calendar in the years 1 to 9999, counted by days from the first of
January of year 1, which has the number 1.
-/

namespace DocTemplate.Calendar

/-- Whether a year has a 29th of February. -/
def isLeap (year : Nat) : Bool := year % 4 == 0 && (year % 100 != 0 || year % 400 == 0)

def daysInMonth (year month : Nat) : Nat :=
  match month with
  | 2 => if isLeap year then 29 else 28
  | 4 | 6 | 9 | 11 => 30
  | _ => 31

/-- Whether three numbers name a date. -/
def isDate (year month day : Nat) : Bool :=
  1 ≤ year && year ≤ 9999 && 1 ≤ month && month ≤ 12 && 1 ≤ day && day ≤ daysInMonth year month

structure Date where
  year : Nat
  month : Nat
  day : Nat
  exists_ : isDate year month day = true
deriving DecidableEq

/-- The date of a year, month and day, if there is one. -/
def Date.ofNumbers? (year month day : Nat) : Option Date :=
  if h : isDate year month day = true then some ⟨year, month, day, h⟩ else none

def daysBeforeYear (year : Nat) : Nat :=
  let y := year - 1
  365 * y + y / 4 - y / 100 + y / 400

def daysBeforeMonth (year : Nat) : Nat → Nat
  | 0 => 0
  | 1 => 0
  | month + 2 => daysBeforeMonth year (month + 1) + daysInMonth year (month + 1)

def Date.dayNumber (d : Date) : Nat :=
  daysBeforeYear d.year + daysBeforeMonth d.year d.month + d.day

def lastDayNumber : Nat := 3652059

/-- The year that a day lies in: whole cycles of 400, 100, 4 and 1 years are taken off. The last day
of a long cycle belongs to the cycle's last year. -/
def yearOfDay (n : Nat) : Nat :=
  let r := n - 1
  let n400 := r / 146097
  let r := r % 146097
  let n100 := min (r / 36524) 3
  let r := r - n100 * 36524
  let n4 := r / 1461
  let r := r % 1461
  let n1 := min (r / 365) 3
  400 * n400 + 100 * n100 + 4 * n4 + n1 + 1

/-- The month and day of a day of a year, counted from month `month` on. -/
def monthDay (year : Nat) : (fuel month day : Nat) → Nat × Nat
  | 0, month, day => (month, day)
  | fuel + 1, month, day =>
    if day ≤ daysInMonth year month then (month, day)
    else monthDay year fuel (month + 1) (day - daysInMonth year month)

def Date.ofDayNumber? (n : Int) : Option Date :=
  if 1 ≤ n ∧ n ≤ lastDayNumber then
    let n := n.toNat
    let year := yearOfDay n
    let (month, day) := monthDay year 12 1 (n - daysBeforeYear year)
    Date.ofNumbers? year month day
  else none

/-- A number in at least a given count of digits. -/
def padded (width n : Nat) : List Char :=
  let ds := Nat.toDigits 10 n
  List.replicate (width - ds.length) '0' ++ ds

/-- A date as year, month and day with hyphens between them. -/
def Date.text (d : Date) : List Char :=
  padded 4 d.year ++ '-' :: padded 2 d.month ++ '-' :: padded 2 d.day

/-- The day of the week, Monday being 0. -/
def weekday (dayNumber : Nat) : Nat := (dayNumber + 6) % 7

/-- The number of the Monday of a year's first week, which holds the year's first Thursday. -/
def firstMonday (year : Nat) : Int :=
  let first := daysBeforeYear year + 1
  let w := weekday first
  (first : Int) - w + (if 3 < w then 7 else 0)

def hasLongWeekYear (year : Nat) : Bool :=
  let w := weekday (daysBeforeYear year + 1)
  w == 3 || (w == 2 && isLeap year)

/-- The date of a year, week and day of the week, if there is one. -/
def Date.ofWeek? (year week day : Nat) : Option Date :=
  if (1 ≤ week ∧ week ≤ 52 ∨ (week = 53 ∧ hasLongWeekYear year)) ∧ 1 ≤ day ∧ day ≤ 7 ∧ 1 ≤ year then
    Date.ofDayNumber? (firstMonday year + ((week - 1) * 7 + (day - 1) : Nat))
  else none

example : (Date.ofNumbers? 2024 2 4).map Date.dayNumber = some 738920 := by decide
example : (Date.ofDayNumber? 738920).map Date.text = some "2024-02-04".toList := by decide
example : (Date.ofDayNumber? 3652059).map Date.text = some "9999-12-31".toList := by decide

end DocTemplate.Calendar
