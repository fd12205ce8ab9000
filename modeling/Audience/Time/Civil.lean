/-! # Calendar dates

Days are counted from 1970-01-01 in the proleptic Gregorian calendar. Within the count a year starts
in March, so the leap day is its last day and the lengths of the months before it never change.

* **`Civil.toDays d`** — the day number of a date.
* **`Civil.ofDays n`** — the date of a day number.
* **`Civil.isValid d`** — whether a date is in the calendar. -/

namespace Audience

/-- A calendar date. -/
structure Civil where
  year : Int
  month : Nat
  day : Nat
  deriving DecidableEq, Repr

namespace Civil

/-- Whether a year has a leap day. -/
def isLeap (year : Int) : Bool := year % 4 = 0 ∧ (year % 100 ≠ 0 ∨ year % 400 = 0)

/-- The number of days in a month. -/
def monthLength (year : Int) (month : Nat) : Nat :=
  if month = 2 then if isLeap year then 29 else 28
  else if month = 4 ∨ month = 6 ∨ month = 9 ∨ month = 11 then 30
  else 31

/-- Whether a date is in the calendar. -/
def isValid (d : Civil) : Bool :=
  1 ≤ d.month ∧ d.month ≤ 12 ∧ 1 ≤ d.day ∧ d.day ≤ monthLength d.year d.month

/-- The days of four hundred years. -/
def eraDays : Int := 146097

/-- The days from the first of March of year 0 to 1970-01-01. -/
def epochShift : Int := 719468

/-- The days of a year that starts in March before its `m`-th month, counted from zero. -/
def daysBefore (m : Nat) : Nat := (153 * m + 2) / 5

/-- The day number of a date. -/
def toDays (d : Civil) : Int :=
  let y := if d.month ≤ 2 then d.year - 1 else d.year
  let era := y / 400
  let yearOfEra := y % 400
  let m := if d.month ≤ 2 then d.month + 9 else d.month - 3
  let dayOfYear : Int := ((daysBefore m + d.day : Nat) : Int) - 1
  let dayOfEra := yearOfEra * 365 + yearOfEra / 4 - yearOfEra / 100 + dayOfYear
  era * eraDays + dayOfEra - epochShift

/-- The date of a day number. -/
def ofDays (n : Int) : Civil :=
  let z := n + epochShift
  let era := z / eraDays
  let dayOfEra := (z % eraDays).toNat
  let yearOfEra := (dayOfEra - dayOfEra / 1460 + dayOfEra / 36524 - dayOfEra / 146096) / 365
  let dayOfYear := dayOfEra - (365 * yearOfEra + yearOfEra / 4 - yearOfEra / 100)
  let m := (5 * dayOfYear + 2) / 153
  let day := dayOfYear - daysBefore m + 1
  let month := if m < 10 then m + 3 else m - 9
  let year : Int := (yearOfEra : Int) + era * 400
  ⟨if month ≤ 2 then year + 1 else year, month, day⟩

end Civil

end Audience
