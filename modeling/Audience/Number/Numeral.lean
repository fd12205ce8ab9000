/-! # Numerals

A numeral is a decimal number as it is written: an optional minus sign, digits, digits after a
point, and an exponent. Keeping the written form apart from its value lets each reader choose what
it accepts: an integer of some width, or a floating-point number.

* **`Numeral.render n`** — the characters of a numeral.
* **`Numeral.ofNat n`**, **`Numeral.ofInt i`** — integers as numerals.
* **`Numeral.nat? n`**, **`Numeral.int? n`** — the value of a numeral that is written as an
  integer. -/

namespace Audience

/-- The digits of a natural number, highest first. -/
def natDigits (n : Nat) : List Char := Nat.toDigits 10 n

/-- The value of a decimal digit. -/
def digitValue (c : Char) : Nat := c.toNat - 48

/-- The value of a list of decimal digits, highest first. -/
def digitsValue (cs : List Char) : Nat := cs.foldl (fun n c => n * 10 + digitValue c) 0

/-- A decimal number as it is written. -/
structure Numeral where
  negative : Bool
  /-- The digits before the point. -/
  whole : List Char
  /-- The digits after the point; without a point there are none. -/
  fraction : List Char
  /-- Whether the exponent is negative, and its digits. -/
  exponent : Option (Bool × List Char)
  deriving DecidableEq, Repr

namespace Numeral

/-- The numeral of a natural number. -/
def ofNat (n : Nat) : Numeral := ⟨false, natDigits n, [], none⟩

/-- The numeral of an integer. -/
def ofInt (i : Int) : Numeral := ⟨decide (i < 0), natDigits i.natAbs, [], none⟩

/-- Whether a numeral has neither a point nor an exponent. -/
def isInteger (n : Numeral) : Bool := n.fraction.isEmpty && n.exponent.isNone

/-- The value of a numeral that is written as a natural number. A minus sign is not part of one,
not even before zero. -/
def nat? (n : Numeral) : Option Nat :=
  if n.isInteger && !n.negative then some (digitsValue n.whole) else none

/-- The value of a numeral that is written as an integer; minus zero is not one. -/
def int? (n : Numeral) : Option Int :=
  if !n.isInteger then none
  else if n.negative then
    if digitsValue n.whole = 0 then none else some (-(digitsValue n.whole : Int))
  else some (digitsValue n.whole : Int)

/-- The characters of the exponent. It always has a sign. -/
def renderExponent : Option (Bool × List Char) → List Char
  | none => []
  | some (neg, digits) => 'e' :: (if neg then '-' else '+') :: digits

/-- The characters of the digits after the point, with the point. -/
def renderFraction : List Char → List Char
  | [] => []
  | c :: cs => '.' :: c :: cs

/-- The characters of a numeral. -/
def render (n : Numeral) : List Char :=
  (if n.negative then ['-'] else [])
    ++ n.whole ++ renderFraction n.fraction ++ renderExponent n.exponent

end Numeral

end Audience
