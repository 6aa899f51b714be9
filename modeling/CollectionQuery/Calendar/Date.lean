/-!
# Dates

Dates of the Gregorian calendar in the years 1 to 9999.  A date carries the proof that it exists.
The neighbours of a date are found by the lengths of the months, and there is none before the first
and after the last date.
-/

namespace CollectionQuery.Calendar

/-- Whether a year has 366 days. -/
def isLeapYear (year : Nat) : Bool :=
  year % 4 == 0 && (year % 100 != 0 || year % 400 == 0)

/-- The number of days of a month. -/
def daysInMonth (year month : Nat) : Nat :=
  if month = 2 then if isLeapYear year then 29 else 28
  else if month = 4 ∨ month = 6 ∨ month = 9 ∨ month = 11 then 30
  else 31

/-- The last year. -/
def maxYear : Nat := 9999

/-- A date that exists. -/
structure Date where
  /-- The year. -/
  year : Nat
  /-- The month, from 1. -/
  month : Nat
  /-- The day of the month, from 1. -/
  day : Nat
  /-- The year is in range. -/
  year_ok : 1 ≤ year ∧ year ≤ maxYear := by decide
  /-- The month exists. -/
  month_ok : 1 ≤ month ∧ month ≤ 12 := by decide
  /-- The month has the day. -/
  day_ok : 1 ≤ day ∧ day ≤ daysInMonth year month := by decide
deriving DecidableEq

instance : Inhabited Date := ⟨⟨1, 1, 1, by decide, by decide, by decide⟩⟩

namespace Date

/-- The date with the given parts, if it exists. -/
def ofParts? (year month day : Nat) : Option Date :=
  if hy : 1 ≤ year ∧ year ≤ maxYear then
    if hm : 1 ≤ month ∧ month ≤ 12 then
      if hd : 1 ≤ day ∧ day ≤ daysInMonth year month then some ⟨year, month, day, hy, hm, hd⟩
      else none
    else none
  else none

/-- The earlier of two dates is the one with the smaller year, month and day, in this order. -/
def compare (a b : Date) : Ordering :=
  (Ord.compare a.year b.year).then ((Ord.compare a.month b.month).then (Ord.compare a.day b.day))

/-- The day after. -/
def next? (d : Date) : Option Date :=
  match ofParts? d.year d.month (d.day + 1) with
  | some e => some e
  | none => match ofParts? d.year (d.month + 1) 1 with
    | some e => some e
    | none => ofParts? (d.year + 1) 1 1

/-- The day before. -/
def prev? (d : Date) : Option Date :=
  if 1 < d.day then ofParts? d.year d.month (d.day - 1)
  else if 1 < d.month then ofParts? d.year (d.month - 1) (daysInMonth d.year (d.month - 1))
  else ofParts? (d.year - 1) 12 31

/-- Takes `count` steps. -/
def steps (step : Date → Option Date) : (count : Nat) → Date → Option Date
  | 0, d => some d
  | count + 1, d => (step d).bind (steps step count)

/-- The date `days` days later, or earlier if `days` is negative. -/
def addDays? (d : Date) (days : Int) : Option Date :=
  if 0 ≤ days then steps next? days.toNat d else steps prev? (-days).toNat d

/-- The weekday of the first of January, Monday being 0. -/
def newYearWeekday (year : Nat) : Nat :=
  let before := year - 1
  (before * 365 + before / 4 - before / 100 + before / 400) % 7

/-- Whether a year has 53 weeks: it begins on a Thursday, or it is a leap year and begins on a
Wednesday. -/
def hasWeek53 (year : Nat) : Bool :=
  newYearWeekday year == 3 || (newYearWeekday year == 2 && isLeapYear year)

/-- The date of a weekday, Monday being 1, in a numbered week.  The first week of a year is the one
with its first Thursday. -/
def ofWeek? (year week weekday : Nat) : Option Date := do
  guard (1 ≤ week ∧ (week ≤ 52 ∨ (week = 53 ∧ hasWeek53 year)))
  guard (1 ≤ weekday ∧ weekday ≤ 7)
  let newYear ← ofParts? year 1 1
  let first := newYearWeekday year
  -- The Monday of the first week lies up to three days before and after the first of January.
  let monday : Int := if first ≤ 3 then -(first : Int) else 7 - (first : Int)
  newYear.addDays? (monday + ((week - 1) * 7 + (weekday - 1) : Nat))

end Date

end CollectionQuery.Calendar
