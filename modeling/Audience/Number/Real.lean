import Audience.Number.Double
import Audience.Number.Shortest

/-! # Floating-point numbers as numerals

Stored numbers are written with the fewest digits that read back, always with a point or an
exponent. Reading takes digits into a 64-bit significand as long as they fit and scales it once by a
power of ten; numbers of up to fifteen digits and moderate size read exactly.

* **`Double.numeral? x`** — the written form of a finite number.
* **`Numeral.double? n`** — the double that a numeral denotes, unless it overflows.
* **`Numeral.single? n`** — the same for singles. -/

namespace Audience

/-! ## Writing -/

/-- The greatest number of digits before the point in positional notation. -/
def positionalDigits : Int := 16

/-- Positional notation ends when as many zeros as this would follow the point. -/
def positionalZeros : Int := 5

/-- The digits of an exponent; there are at least two. -/
def exponentDigits (n : Nat) : List Char := if n < 10 then '0' :: natDigits n else natDigits n

/-- The numeral of `n · 10^e`, where `n` does not end in zero unless it is zero. -/
def decimalNumeral (negative : Bool) (n : Nat) (e : Int) : Numeral :=
  let digits := natDigits n
  let point := (digits.length : Int) + e
  if 0 ≤ e ∧ point ≤ positionalDigits then
    ⟨negative, digits ++ List.replicate e.toNat '0', ['0'], none⟩
  else if 0 < point ∧ point ≤ positionalDigits then
    ⟨negative, digits.take point.toNat, digits.drop point.toNat, none⟩
  else if -positionalZeros < point ∧ point ≤ 0 then
    ⟨negative, ['0'], List.replicate (-point).toNat '0' ++ digits, none⟩
  else
    let x := point - 1
    ⟨negative, digits.take 1, digits.drop 1, some (decide (x < 0), exponentDigits x.natAbs)⟩

/-- The written form of a finite number; infinities and NaNs have none. -/
def Double.numeral? (x : Double) : Option Numeral :=
  if !x.isFinite then none
  else if x.magnitude = 0 then some ⟨x.isNegative, ['0'], ['0'], none⟩
  else
    let r := (Dyadic.ofBits x.bits).shortest
    some (decimalNumeral x.isNegative r.1 r.2)

/-! ## Reading -/

/-- The greatest significand. -/
def significandLimit : Nat := 0xFFFFFFFFFFFFFFFF

/-- The greatest exponent of a power of ten that a double can hold. -/
def powerLimit : Nat := 308

/-- The double nearest to a power of ten. -/
def powerOfTen (e : Nat) : Double := .ofFloat (Float.ofScientific 1 false e)

/-- A significand that takes digits as long as they fit, and the exponent that makes up for the
position of the point. -/
structure Significand where
  value : Nat
  exponent : Int
  /-- Whether a digit has been left out. -/
  full : Bool

/-- Takes a digit before the point. Once one is left out, all further ones are. -/
def Significand.takeWhole (s : Significand) (c : Char) : Significand :=
  let next := s.value * 10 + digitValue c
  if s.full || decide (significandLimit < next) then
    { s with exponent := s.exponent + 1, full := true }
  else { s with value := next }

/-- Takes a digit after the point. Once one is left out, all further ones are. -/
def Significand.takeFraction (s : Significand) (c : Char) : Significand :=
  let next := s.value * 10 + digitValue c
  if s.full || decide (significandLimit < next) then { s with full := true }
  else { s with value := next, exponent := s.exponent - 1 }

/-- Divides by a power of ten, in steps where the power is too great to be held. -/
def scaleDown (x : Double) (e : Nat) : Double :=
  if e ≤ powerLimit then x.div (powerOfTen e)
  else if x.magnitude = 0 then x
  else scaleDown (x.div (powerOfTen powerLimit)) (e - powerLimit)
termination_by e
decreasing_by unfold powerLimit at *; omega

/-- The double `m · 10^e`, unless it overflows. -/
def scaled (m : Nat) (e : Int) : Option Double :=
  let x := Double.ofNat m
  if e < 0 then some (scaleDown x e.natAbs)
  else if e.toNat ≤ powerLimit then
    let y := x.mul (powerOfTen e.toNat)
    if y.isFinite then some y else none
  else if m = 0 then some x
  else none

/-- The greatest exponent that is read as written. -/
def exponentLimit : Nat := 0x7FFFFFFF

/-- The double that a significand and a written exponent denote, unless it overflows. An exponent
beyond the limit makes the number overflow or vanish. -/
def Significand.toDouble (s : Significand) : Option (Bool × List Char) → Option Double
  | none => scaled s.value s.exponent
  | some (neg, digits) =>
    let x := digitsValue digits
    if exponentLimit < x then
      if s.value ≠ 0 ∧ neg = false then none else some .zero
    else scaled s.value (if neg then s.exponent - x else s.exponent + x)

/-- The double that a numeral denotes, unless it overflows. -/
def Numeral.double? (n : Numeral) : Option Double :=
  let whole := n.whole.foldl Significand.takeWhole ⟨0, 0, false⟩
  let all := n.fraction.foldl Significand.takeFraction { whole with full := false }
  (all.toDouble n.exponent).map (fun x => if n.negative then x.neg else x)

/-- The single that a numeral denotes, unless it overflows a double. An integer of up to 64 bits is
rounded once; any other number is read as a double first. -/
def Numeral.single? (n : Numeral) : Option Single :=
  match n.int? with
  | some i =>
    if 0 ≤ i ∧ i.natAbs ≤ significandLimit then some (.ofNat i.natAbs)
    else if i < 0 ∧ i.natAbs ≤ 0x8000000000000000 then some (Single.ofNat i.natAbs).neg
    else n.double?.map .ofDouble
  | none => n.double?.map .ofDouble

end Audience
