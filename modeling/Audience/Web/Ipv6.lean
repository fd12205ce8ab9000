import Audience.Json.Token
import Audience.Json.Printer

/-! # IPv6 addresses

An IPv6 address is eight pieces of 16 bits. Two colons stand for the pieces that are left out, and
the last two pieces may be written like an IPv4 address.

* **`Ipv6.parse? cs`** — the pieces of an address.
* **`Ipv6.render pieces`** — an address in its shortest form. -/

namespace Audience.Ipv6

/-! ## Reading -/

/-- The pieces read so far, last first, and the number of pieces before the gap, itself counted as
one. -/
structure Pieces where
  before : List Nat
  gap : Option Nat

/-- The value of hexadecimal digits. -/
def hexNumber (digits : List Char) : Nat :=
  digits.foldl (fun n c => n * 16 + (Json.hexValue? c).getD 0) 0

/-- One byte of an address in decimal, without leading zeros. -/
def byte? (digits : List Char) : Option Nat :=
  if digits.isEmpty ∨ !digits.all Char.isDigit then none
  else if 1 < digits.length ∧ digits.head? = some '0' then none
  else
    let n := digitsValue digits
    if n ≤ 255 then some n else none

/-- Four bytes in decimal as two pieces. -/
def dotted? (cs : List Char) : Option (Nat × Nat) := do
  let bytes ← (cs.splitOn '.').mapM byte?
  match bytes with
  | [a, b, c, d] => some (a * 256 + b, c * 256 + d)
  | _ => none

/-- Reads pieces up to the end. -/
def read (cs : List Char) (p : Pieces) : Option Pieces :=
  match h₀ : cs with
  | [] => some p
  | ':' :: rest =>
    if p.before.length = 8 ∨ p.gap.isSome then none
    else read rest ⟨0 :: p.before, some (p.before.length + 1)⟩
  | _ :: _ =>
    let digits := (cs.takeWhile (fun d => (Json.hexValue? d).isSome)).take 4
    if p.before.length = 8 then none
    else
      match _h : cs.drop digits.length with
      | [] => some ⟨hexNumber digits :: p.before, p.gap⟩
      | ':' :: rest =>
        if rest.isEmpty ∨ digits.isEmpty then none
        else read rest ⟨hexNumber digits :: p.before, p.gap⟩
      | '.' :: _ =>
        if digits.isEmpty ∨ 6 < p.before.length then none
        else (dotted? cs).map (fun d => ⟨d.2 :: d.1 :: p.before, p.gap⟩)
      | _ => none
termination_by cs.length
decreasing_by
  · simp
  · have := congrArg List.length _h
    have := congrArg List.length h₀
    simp only [List.length_drop, List.length_cons] at *
    omega

/-- The eight pieces: the gap is filled with zeros. -/
def Pieces.complete? (p : Pieces) : Option (List Nat) :=
  let pieces := p.before.reverse
  match p.gap with
  | some gap =>
    some (pieces.take gap ++ List.replicate (8 - pieces.length) 0 ++ pieces.drop gap)
  | none => if pieces.length = 8 then some pieces else none

/-- The pieces of an address. -/
def parse? (cs : List Char) : Option (List Nat) :=
  match cs with
  | ':' :: ':' :: rest => (read rest ⟨[0], some 1⟩).bind Pieces.complete?
  | ':' :: _ => none
  | [] => none
  | [_] => none
  | cs => (read cs ⟨[], none⟩).bind Pieces.complete?

/-! ## Writing -/

/-- The digits of a piece. -/
def pieceChars (n : Nat) : List Char := Nat.toDigits 16 n

/-- The first position and the length of the longest run of zeros; the first of several. -/
def longestZeros (pieces : List Nat) : Nat × Nat :=
  (List.range pieces.length).foldl (fun best i =>
    let run := ((pieces.drop i).takeWhile (· == 0)).length
    if best.2 < run then (i, run) else best) (0, 0)

/-- Pieces with colons between them. -/
def joined (pieces : List Nat) : List Char := List.intercalate [':'] (pieces.map pieceChars)

/-- An address in its shortest form: the longest run of two or more zeros is left out. -/
def render (pieces : List Nat) : List Char :=
  let (start, run) := longestZeros pieces
  if run < 2 then joined pieces
  else joined (pieces.take start) ++ ':' :: ':' :: joined (pieces.drop (start + run))

end Audience.Ipv6
