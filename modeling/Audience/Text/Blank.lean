import Audience.Text.Ranges

/-! # Blanks

White space is the same set of characters everywhere in the library: the controls from tab to
carriage return, the blank, and the spaces and separators beyond ASCII.

* **`isBlank c`** — the class.
* **`trim cs`**, **`trimStart cs`** — a text without the blanks at its ends, or at its start.
* **`fields cs`** — the maximal runs of other characters.
* **`allBlank s`** — whether nothing else is in the text. -/

namespace Audience

/-- The white space characters. -/
def blankRanges : List (Nat × Nat) := [
  (0x9, 0xD), (0x20, 0x20), (0x85, 0x85), (0xA0, 0xA0), (0x1680, 0x1680), (0x2000, 0x200A),
  (0x2028, 0x2029), (0x202F, 0x202F), (0x205F, 0x205F), (0x3000, 0x3000)]

/-- Whether a character is white space. -/
def isBlank (c : Char) : Bool := inRanges blankRanges c.toNat

/-- The text without the blanks at its start. -/
def trimStart (cs : List Char) : List Char := cs.dropWhile isBlank

/-- The text without the blanks at either end. -/
def trim (cs : List Char) : List Char := (trimStart (trimStart cs).reverse).reverse

/-- The maximal runs of characters that are not blank. -/
def fields (cs : List Char) : List (List Char) :=
  (cs.splitOnP isBlank).filter (fun run => !run.isEmpty)

/-- Whether a text holds nothing but blanks. -/
def allBlank (s : String) : Bool := s.toList.all isBlank

end Audience
