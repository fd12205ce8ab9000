import Audience.Number.Double
import Audience.Number.Numeral
import Audience.Number.Power

/-! # The nearest floating-point number

A numeral denotes a ratio of natural numbers. The nearest double to a ratio is found by exact
arithmetic; of two that are equally near the one with the even significand is taken.

* **`nearestMagnitude num den`** — the bits of the double nearest to `num / den`.
* **`Numeral.nearest n`** — the double nearest to a numeral. -/

namespace Audience

/-- The quotient rounded to the nearest natural number, halves to the even one. -/
def roundHalfEven (num den : Nat) : Nat :=
  let q := num / den
  let r := num % den
  if 2 * r < den ∨ (2 * r = den ∧ q % 2 = 0) then q else q + 1

/-- The exponent of the highest binary digit of the positive ratio `num / den`. -/
def binaryExponent (num den : Nat) : Int :=
  let k : Int := (num.log2 : Int) - den.log2
  if num * twoTo (-k).toNat < den * twoTo k.toNat then k - 1 else k

/-- The bits of the double nearest to `num / den`. -/
def nearestMagnitude (num den : Nat) : Nat :=
  if num = 0 then 0
  else
    let q := max (binaryExponent num den - 52) (-1074)
    let m := roundHalfEven (num * twoTo (-q).toNat) (den * twoTo q.toNat)
    min ((q + 1074).toNat * 0x10000000000000 + m) Double.infinityMagnitude

/-- Numbers of more digits before the point than this are infinite. -/
def digitsLimit : Int := 400

/-- The double nearest to a numeral. -/
def Numeral.nearest (n : Numeral) : Double :=
  let digits := (n.whole ++ n.fraction).dropWhile (· == '0')
  let written : Int := match n.exponent with
    | none => 0
    | some (true, ds) => -(digitsValue ds : Int)
    | some (false, ds) => digitsValue ds
  let e := written - n.fraction.length
  let size := (digits.length : Int) + e
  let magnitude :=
    if digits.isEmpty ∨ size < -digitsLimit then 0
    else if digitsLimit < size then Double.infinityMagnitude
    else nearestMagnitude (digitsValue digits * tenTo e.toNat) (tenTo (-e).toNat)
  let x : Double := ⟨UInt64.ofNat magnitude⟩
  if n.negative then x.neg else x

end Audience
