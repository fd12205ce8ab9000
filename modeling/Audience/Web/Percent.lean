import Audience.Json.Token

/-! # Percent encoding

A byte may be written as a percent sign and two hexadecimal digits. A percent sign without them
stands for itself.

* **`percentDecode bytes`** — the bytes with every such triple replaced.
* **`percentEncode p cs`** — characters with some of them written as triples. -/

namespace Audience

/-- The value of a byte as a hexadecimal digit. -/
def hexByte? (b : UInt8) : Option Nat := Json.hexValue? (Char.ofNat b.toNat)

/-- The byte that two hexadecimal digits spell. -/
def hexPair? (a b : UInt8) : Option UInt8 := do
  let x ← hexByte? a
  let y ← hexByte? b
  return UInt8.ofNat (x * 16 + y)

/-- Replaces every percent sign with two hexadecimal digits by the byte they spell. -/
def percentDecode : List UInt8 → List UInt8
  | a :: b :: c :: rest =>
    if a = 0x25 then
      match hexPair? b c with
      | some d => d :: percentDecode rest
      | none => a :: percentDecode (b :: c :: rest)
    else a :: percentDecode (b :: c :: rest)
  | rest => rest

/-- A hexadecimal digit in uppercase. -/
def upperHexDigit (n : Nat) : Char := if n < 10 then Char.ofNat (48 + n) else Char.ofNat (55 + n)

/-- The characters that stand for a byte. -/
def percentTriple (b : UInt8) : List Char :=
  ['%', upperHexDigit (b.toNat / 16), upperHexDigit (b.toNat % 16)]

/-- Writes the characters of a class as triples, one for each of their bytes. -/
def percentEncode (p : Char → Bool) (cs : List Char) : List Char :=
  cs.flatMap (fun c => if p c then (String.utf8EncodeChar c).flatMap percentTriple else [c])

end Audience
