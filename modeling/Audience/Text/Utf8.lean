/-! # Reading UTF-8

Bytes are read by an automaton. A byte that cannot continue the character begun before it ends that
character: what was read of it becomes one replacement character, and the byte starts anew.

* **`Utf8.decode bytes`** — the characters of any bytes, with replacement characters.
* **`Utf8.encode cs`** — the bytes of characters. -/

namespace Audience.Utf8

/-- Stands for bytes that are no character. -/
def replacement : Char := Char.ofNat 0xFFFD

/-- The characters read so far, last first, and the character that has been begun: how many bytes
are to come, its code so far, and the least and greatest next byte. -/
structure Reading where
  chars : List Char
  left : Nat
  code : Nat
  least : Nat
  greatest : Nat

/-- Nothing has been read. -/
def Reading.start : Reading := ⟨[], 0, 0, 0, 0⟩

/-- Adds a character. -/
def Reading.push (r : Reading) (c : Char) : Reading := ⟨c :: r.chars, 0, 0, 0, 0⟩

/-- Takes the first byte of a character. -/
def Reading.first (r : Reading) (b : Nat) : Reading :=
  if b < 0x80 then r.push (Char.ofNat b)
  else if 0xC2 ≤ b ∧ b ≤ 0xDF then ⟨r.chars, 1, b - 0xC0, 0x80, 0xBF⟩
  else if b = 0xE0 then ⟨r.chars, 2, 0, 0xA0, 0xBF⟩
  else if b = 0xED then ⟨r.chars, 2, 0xD, 0x80, 0x9F⟩
  else if 0xE1 ≤ b ∧ b ≤ 0xEF then ⟨r.chars, 2, b - 0xE0, 0x80, 0xBF⟩
  else if b = 0xF0 then ⟨r.chars, 3, 0, 0x90, 0xBF⟩
  else if b = 0xF4 then ⟨r.chars, 3, 4, 0x80, 0x8F⟩
  else if 0xF1 ≤ b ∧ b ≤ 0xF3 then ⟨r.chars, 3, b - 0xF0, 0x80, 0xBF⟩
  else r.push replacement

/-- Takes a byte. -/
def Reading.step (r : Reading) (byte : UInt8) : Reading :=
  let b := byte.toNat
  if r.left = 0 then r.first b
  else if r.least ≤ b ∧ b ≤ r.greatest then
    let code := r.code * 64 + (b - 0x80)
    if r.left = 1 then r.push (Char.ofNat code) else ⟨r.chars, r.left - 1, code, 0x80, 0xBF⟩
  else (r.push replacement).first b

/-- The characters of bytes that end here. -/
def Reading.finish (r : Reading) : List Char :=
  (if r.left = 0 then r.chars else replacement :: r.chars).reverse

/-- The characters of any bytes. -/
def decode (bytes : List UInt8) : List Char := (bytes.foldl Reading.step .start).finish

/-- The bytes of characters. -/
def encode (cs : List Char) : List UInt8 := cs.flatMap String.utf8EncodeChar

end Audience.Utf8
