/-! # Words as bytes

A 32-bit word is stored as four bytes, lowest first.

* **`wordBytes w`** — the bytes of a word.
* **`bytesWord a b c d`** — the word of four bytes. -/

namespace Audience

/-- The bytes of a word, lowest first. -/
def wordBytes (w : UInt32) : List UInt8 :=
  [w.toUInt8, (w >>> 8).toUInt8, (w >>> 16).toUInt8, (w >>> 24).toUInt8]

/-- The word of four bytes, lowest first. -/
def bytesWord (a b c d : UInt8) : UInt32 :=
  a.toUInt32 ||| (b.toUInt32 <<< 8) ||| (c.toUInt32 <<< 16) ||| (d.toUInt32 <<< 24)

end Audience
