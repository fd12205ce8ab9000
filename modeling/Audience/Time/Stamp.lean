import Audience.Number.Numeral
import Audience.Number.Power
import Audience.Text.Blank
import Audience.Time.Instant

/-! # Time stamps

Instants are written in the internet date and time format, in Coordinated Universal Time. There are
two readers: a strict one, which accepts the fixed-width form only, and a relaxed one, which accepts
blanks before numbers, short numbers and signed years.

* **`Instant.stamp t`** — the time stamp with the fewest fraction digits of 0, 3, 6 and 9.
* **`Instant.stampMicros t`** — the time stamp with six fraction digits.
* **`Stamp.strict? s`**, **`Stamp.relaxed? s`** — the readers. -/

namespace Audience

/-- The digits of a number, with zeros before them up to a width. -/
def padded (width n : Nat) : List Char :=
  let digits := natDigits n
  List.replicate (width - digits.length) '0' ++ digits

namespace Stamp

/-! ## Writing -/

/-- A year: four digits, or a sign and at least four digits outside the years 0 to 9999. -/
def yearChars (year : Int) : List Char :=
  if 0 ≤ year ∧ year ≤ 9999 then padded 4 year.toNat
  else (if year < 0 then '-' else '+') :: padded 4 year.natAbs

/-- The date and the time of day up to the second. A leap second is the sixty-first of its
minute. -/
def clockChars (t : Instant) : List Char :=
  let date := Civil.ofDays (t.seconds / 86400)
  let second := (t.seconds % 86400).toNat
  yearChars date.year ++ '-' :: padded 2 date.month ++ '-' :: padded 2 date.day
    ++ 'T' :: padded 2 (second / 3600) ++ ':' :: padded 2 (second / 60 % 60)
    ++ ':' :: padded 2 (second % 60 + (if t.isLeap then 1 else 0))

/-- The nanoseconds within the second, or within the leap second. -/
def subsecond (t : Instant) : Nat := t.nanos % nanosPerSecond

/-- The fewest fraction digits of 0, 3, 6 and 9 that are exact. -/
def fractionChars (nanos : Nat) : List Char :=
  if nanos = 0 then []
  else if nanos % 1000000 = 0 then '.' :: padded 3 (nanos / 1000000)
  else if nanos % 1000 = 0 then '.' :: padded 6 (nanos / 1000)
  else '.' :: padded 9 nanos

end Stamp

/-- The time stamp of an instant with the fewest exact fraction digits. -/
def Instant.stamp (t : Instant) : String :=
  String.ofList (Stamp.clockChars t ++ Stamp.fractionChars (Stamp.subsecond t) ++ ['Z'])

/-- The time stamp of an instant with six fraction digits; smaller parts are cut off. -/
def Instant.stampMicros (t : Instant) : String :=
  String.ofList (Stamp.clockChars t ++ '.' :: padded 6 (Stamp.subsecond t / 1000) ++ ['Z'])

namespace Stamp

/-! ## Reading -/

/-- What a time stamp says: local date and time, and the offset of local time in seconds. -/
structure Reading where
  date : Civil
  hour : Nat
  minute : Nat
  second : Nat
  nanos : Nat
  offset : Int

/-- The instant that a reading denotes: its parts have to be in range, the offset below a day, and
both its local and its universal time within the calendar. -/
def Reading.instant? (r : Reading) : Option Instant :=
  if r.date.isValid ∧ r.hour ≤ 23 ∧ r.minute ≤ 59 ∧ r.second ≤ 60 ∧ r.offset.natAbs < 86400 then
    let time : Int := ((r.hour * 3600 + r.minute * 60 + min r.second 59 : Nat) : Int)
    let nanos := if r.second = 60 then nanosPerSecond + r.nanos else r.nanos
    let wall : Instant := ⟨r.date.toDays * 86400 + time, nanos⟩
    let universal : Instant := ⟨wall.seconds - r.offset, nanos⟩
    if wall.inCalendar ∧ universal.inCalendar then some universal else none
  else none

/-- The characters after an expected one. -/
def expect (c : Char) : List Char → Option (List Char)
  | d :: rest => if c = d then some rest else none
  | [] => none

/-- A number of `least` to `most` digits, and the characters after it. -/
def number (least most : Nat) (cs : List Char) : Option (Nat × List Char) :=
  let digits := (cs.takeWhile Char.isDigit).take most
  if digits.length < least then none else some (digitsValue digits, cs.drop digits.length)

/-- A number of any number of digits, and the characters after it. -/
def longNumber (cs : List Char) : Option (Nat × List Char) :=
  number 1 (cs.length + 1) cs

/-- The letter or blank between date and time. -/
def separator : List Char → Option (List Char)
  | c :: rest => if c = 'T' ∨ c = 't' ∨ c = ' ' then some rest else none
  | [] => none

/-- An optional fraction of a second in nanoseconds; digits beyond the ninth are passed over. -/
def fraction : List Char → Option (Nat × List Char)
  | '.' :: cs => do
    let digits := (cs.takeWhile Char.isDigit).take 9
    if digits.isEmpty then none
    else some (digitsValue digits * tenTo (9 - digits.length), cs.dropWhile Char.isDigit)
  | cs => some (0, cs)

/-- The sign of an offset: whether it is negative. The minus sign may be the hyphen or the
mathematical one. -/
def sign : List Char → Option (Bool × List Char)
  | c :: rest =>
    if c = '+' then some (false, rest)
    else if c = '-' ∨ c = Char.ofNat 0x2212 then some (true, rest)
    else none
  | [] => none

/-- An offset in seconds: the letter Z, or a sign, two digits of hours, a divider and two digits of
minutes. -/
def offset (divider : List Char → Option (List Char)) (cs : List Char) :
    Option (Int × List Char) :=
  match cs with
  | 'Z' :: rest => some (0, rest)
  | 'z' :: rest => some (0, rest)
  | cs => do
    let (negative, cs) ← sign cs
    let (hours, cs) ← number 2 2 cs
    let cs ← divider cs
    let (minutes, cs) ← number 2 2 cs
    if 59 < minutes then none
    else
      let seconds : Int := ((hours * 3600 + minutes * 60 : Nat) : Int)
      some (if negative then -seconds else seconds, cs)

/-- Reads a time stamp of fixed-width numbers. -/
def strict? (s : String) : Option Instant := do
  let (year, cs) ← number 4 4 s.toList
  let cs ← expect '-' cs
  let (month, cs) ← number 2 2 cs
  let cs ← expect '-' cs
  let (day, cs) ← number 2 2 cs
  let cs ← separator cs
  let (hour, cs) ← number 2 2 cs
  let cs ← expect ':' cs
  let (minute, cs) ← number 2 2 cs
  let cs ← expect ':' cs
  let (second, cs) ← number 2 2 cs
  let (nanos, cs) ← fraction cs
  let (offset, cs) ← offset (expect ':') cs
  if cs.isEmpty then
    Reading.instant? ⟨⟨(year : Int), month, day⟩, hour, minute, second, nanos, offset⟩
  else none

/-- A year: up to four digits, or a sign and any number of digits. -/
def relaxedYear (cs : List Char) : Option (Int × List Char) :=
  match cs with
  | '-' :: rest => (longNumber rest).map (fun r => (-(r.1 : Int), r.2))
  | '+' :: rest => (longNumber rest).map (fun r => ((r.1 : Int), r.2))
  | cs => (number 1 4 cs).map (fun r => ((r.1 : Int), r.2))

/-- An expected character after any blanks. -/
def expectAfterBlanks (c : Char) (cs : List Char) : Option (List Char) := expect c (trimStart cs)

/-- A number of one or two digits after any blanks. -/
def shortNumber (cs : List Char) : Option (Nat × List Char) := number 1 2 (trimStart cs)

/-- Any number of colons and blanks. -/
def looseDivider (cs : List Char) : Option (List Char) :=
  some (cs.dropWhile (fun c => c == ':' || isBlank c))

/-- An offset, or the name of universal time. -/
def relaxedOffset (cs : List Char) : Option (Int × List Char) :=
  if (cs.take 3).map Char.toLower = ['u', 't', 'c'] then some (0, cs.drop 3)
  else offset looseDivider cs

/-- Reads a time stamp in the relaxed form. -/
def relaxed? (s : String) : Option Instant := do
  let (year, cs) ← relaxedYear (trimStart s.toList)
  let cs ← expectAfterBlanks '-' cs
  let (month, cs) ← shortNumber cs
  let cs ← expectAfterBlanks '-' cs
  let (day, cs) ← shortNumber cs
  let cs ← separator cs
  let (hour, cs) ← shortNumber cs
  let cs ← expectAfterBlanks ':' cs
  let (minute, cs) ← shortNumber cs
  let cs ← expectAfterBlanks ':' cs
  let (second, cs) ← shortNumber cs
  let (nanos, cs) ← fraction cs
  let (offset, cs) ← relaxedOffset (trimStart cs)
  if (trimStart cs).isEmpty then
    Reading.instant? ⟨⟨year, month, day⟩, hour, minute, second, nanos, offset⟩
  else none

end Stamp

end Audience
