import Audience.Number.Numeral
import Audience.Number.Power

/-! # The shortest decimal of a floating-point number

A finite floating-point number is a dyadic `m · 2^q`. Every real between the midpoints to its two
neighbours reads back as the number; the ends belong to that interval when `m` is even. The shortest
decimal is the one with the fewest digits in the interval, and of those the nearest to the number.

* **`Dyadic.ofBits bits`** — the dyadic of a finite number without its sign.
* **`Dyadic.shortest d`** — digits `n` and exponent `e` of the shortest decimal `n · 10^e`. -/

namespace Audience

/-- The magnitude `m · 2^q` of a finite number; `lowest` marks a number whose lower neighbour is
half as far away as its upper one. -/
structure Dyadic where
  m : Nat
  q : Int
  lowest : Bool

namespace Dyadic

/-- How many fractions a double has between two powers of two. -/
def fractionRange : Nat := 0x10000000000000

/-- The magnitude of the finite double with these bits. -/
def ofBits (bits : UInt64) : Dyadic :=
  let fraction : Nat := bits.toNat % fractionRange
  let exponent : Nat := bits.toNat / fractionRange % 0x800
  if exponent = 0 then ⟨fraction, -1074, false⟩
  else ⟨fractionRange + fraction, (exponent : Int) - 1075, decide (fraction = 0 ∧ 1 < exponent)⟩

/-- The number of decimal digits of a natural number. -/
def digitCount (n : Nat) : Nat := (natDigits n).length

/-- The exponent of the highest decimal digit of the positive rational `num / den`. -/
def highestExponent (num den : Nat) : Int :=
  if den ≤ num then (digitCount (num / den) : Int) - 1
  else -(digitCount ((den + num - 1) / num - 1) : Int)

/-- The interval of the reals that read back as a number, over the common denominator `den`: the
number itself, its lower and upper end, and whether the ends belong to it. -/
structure Interval where
  den : Nat
  value : Nat
  lower : Nat
  upper : Nat
  closed : Bool

/-- The interval of a dyadic, in quarters of the distance to its upper neighbour. -/
def interval (d : Dyadic) : Interval :=
  let up := twoTo (d.q - 2).toNat
  let down := twoTo (2 - d.q).toNat
  { den := down
    value := 4 * d.m * up
    lower := (4 * d.m - (if d.lowest then 1 else 2)) * up
    upper := (4 * d.m + 2) * up
    closed := d.m % 2 == 0 }

/-- Whether the decimal `n · 10^e` lies in an interval. -/
def Interval.holds (i : Interval) (n : Nat) (e : Int) : Bool :=
  let x := n * tenTo e.toNat * i.den
  let scale := tenTo (-e).toNat
  if i.closed then decide (i.lower * scale ≤ x ∧ x ≤ i.upper * scale)
  else decide (i.lower * scale < x ∧ x < i.upper * scale)

/-- The better of the two decimals next to the number on the grid `10^e`, if one of them lies in the
interval: the nearer one, and the even one of two that are equally near. -/
def Interval.onGrid (i : Interval) (e : Int) : Option Nat :=
  let num := i.value * tenTo (-e).toNat
  let den := i.den * tenTo e.toNat
  let below := num / den
  let above := below + 1
  let down := num - below * den
  let up := above * den - num
  match i.holds below e, i.holds above e with
  | true, true =>
    if down < up then some below
    else if up < down then some above
    else if below % 2 = 0 then some below else some above
  | true, false => some below
  | false, true => some above
  | false, false => none

/-- Searches the grids of `fuel` further digit counts, from `e` downwards. -/
def Interval.search (i : Interval) : (fuel : Nat) → Int → Nat × Int
  | 0, e => (i.value / i.den, e)
  | fuel + 1, e =>
    match i.onGrid e with
    | some n => (n, e)
    | none => i.search fuel (e - 1)

/-- Moves trailing zeros from the digits to the exponent. -/
def stripZeros : (fuel : Nat) → Nat → Int → Nat × Int
  | 0, n, e => (n, e)
  | fuel + 1, n, e =>
    if n ≠ 0 ∧ n % 10 = 0 then stripZeros fuel (n / 10) (e + 1) else (n, e)

/-- The digits and the exponent of the shortest decimal that reads back as a positive dyadic.
Seventeen digits always suffice. -/
def shortest (d : Dyadic) : Nat × Int :=
  let i := d.interval
  let r := i.search 17 (highestExponent i.value i.den)
  stripZeros 20 r.1 r.2

end Dyadic

end Audience
