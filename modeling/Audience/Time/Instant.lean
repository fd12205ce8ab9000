import Audience.Time.Civil

/-! # Instants and spans

An instant counts seconds from the start of 1970 and nanoseconds within the second. Nanoseconds from
`10^9` up belong to a leap second, which follows the second they are counted from. Instants are
ordered by seconds, then by nanoseconds.

* **`Instant.add? t s`** — an instant moved by a span, unless it leaves the calendar.
* **`Span.ofSeconds n`** — a span of whole seconds, or the longest span. -/

namespace Audience

/-- Nanoseconds in a second. -/
def nanosPerSecond : Nat := 1000000000

/-- A point in time. -/
structure Instant where
  seconds : Int
  nanos : Nat
  deriving DecidableEq, Repr

/-- A length of time: seconds, and nanoseconds below `10^9` on top of them. -/
structure Span where
  seconds : Int
  nanos : Nat
  deriving DecidableEq, Repr

namespace Span

/-- The longest span, in whole seconds: as many milliseconds as fit into 63 bits. -/
def longestSeconds : Nat := 9223372036854775

/-- The longest span. -/
def longest : Span := ⟨longestSeconds, 807000000⟩

/-- A span of whole seconds; one that is too long becomes the longest. -/
def ofSeconds (n : Nat) : Span := if n ≤ longestSeconds then ⟨n, 0⟩ else longest

/-- The nanoseconds of a span. -/
def totalNanos (s : Span) : Int := s.seconds * nanosPerSecond + s.nanos

end Span

namespace Instant

/-- The first second of the calendar, at the start of the year -262143. -/
def firstSecond : Int := -8334601228800

/-- The last second of the calendar, at the end of the year 262142. -/
def lastSecond : Int := 8210266876799

/-- Whether an instant is within the calendar. -/
def inCalendar (t : Instant) : Bool := firstSecond ≤ t.seconds ∧ t.seconds ≤ lastSecond

/-- Whether an instant is part of a leap second. -/
def isLeap (t : Instant) : Bool := nanosPerSecond ≤ t.nanos

/-- Whether one instant is not after another. -/
def le (a b : Instant) : Bool :=
  a.seconds < b.seconds ∨ (a.seconds = b.seconds ∧ a.nanos ≤ b.nanos)

/-- Whether one instant is before another. -/
def lt (a b : Instant) : Bool :=
  a.seconds < b.seconds ∨ (a.seconds = b.seconds ∧ a.nanos < b.nanos)

/-- The order of instants is transitive. -/
theorem le_trans {a b c : Instant} (h₁ : a.le b = true) (h₂ : b.le c = true) :
    a.le c = true := by
  simp only [le, decide_eq_true_eq] at *
  omega

/-- Of two instants one is not after the other. -/
theorem le_total (a b : Instant) : (a.le b || b.le a) = true := by
  simp only [le, Bool.or_eq_true, decide_eq_true_eq]
  omega

/-- The nanoseconds from the start of 1970 to an instant. -/
def totalNanos (t : Instant) : Int := t.seconds * nanosPerSecond + t.nanos

/-- The instant of a number of nanoseconds. -/
def ofTotalNanos (n : Int) : Instant := ⟨n / nanosPerSecond, (n % nanosPerSecond).toNat⟩

/-- Moves an instant that is not part of a leap second. -/
def shift (t : Instant) (s : Span) : Instant := ofTotalNanos (t.totalNanos + s.totalNanos)

/-- Moves an instant of a leap second. A move that stays within the leap second or the second before
it keeps the leap second; any other move leaves it at the end that it moves towards. -/
def shiftLeap (t : Instant) (s : Span) : Instant :=
  let whole := s.totalNanos.tdiv nanosPerSecond
  let rest := s.totalNanos.tmod nanosPerSecond
  if 0 < whole ∨ (0 < rest ∧ 2 * (nanosPerSecond : Int) ≤ t.nanos + rest) then
    shift ⟨t.seconds, t.nanos - nanosPerSecond⟩ s
  else if whole < 0 then shift ⟨t.seconds + 1, t.nanos - nanosPerSecond⟩ s
  else ⟨t.seconds, (t.nanos + rest).toNat⟩

/-- An instant moved by a span, unless it leaves the calendar. -/
def add? (t : Instant) (s : Span) : Option Instant :=
  let moved := if t.isLeap then shiftLeap t s else shift t s
  if moved.inCalendar then some moved else none

/-- The instant cut to whole microseconds. -/
def truncateMicros (t : Instant) : Instant := ⟨t.seconds, t.nanos - t.nanos % 1000⟩

end Instant

end Audience
