import Audience.Text.Alphanumeric
import Audience.Text.Blank
import Audience.Text.Lowercase

/-! # Search words and keyword sets

A search query is compared with keyword sets word by word. Both sides are normalised first:
lowercase, with everything that is not alphanumeric read as a blank, and cut after a thousand words.

* **`normalize text`** — the normal form, its words divided by single blanks.
* **`wordsOf text`** — the words of a text in normal form.
* **`matchesWords words keywords`** — whether every word of a keyword set is among the words. -/

namespace Audience

/-- No query or keyword set keeps more words than this. -/
def wordLimit : Nat := 1000

/-- A character of the normal form: alphanumeric characters in lowercase, the rest blank. -/
def cleanChar (c : Char) : Char := if isAlphanumeric c then lowerChar c else ' '

/-- The words that a text keeps in its normal form. -/
def keptWords (text : String) : List String :=
  ((fields (text.toList.map cleanChar)).take wordLimit).map String.ofList

/-- The normal form of a text. -/
def normalize (text : String) : String := " ".intercalate (keptWords text)

/-- The words of a text that is in normal form. -/
def wordsOf (text : String) : List String := (fields text.toList).map String.ofList

/-- The different words of a text that is in normal form, in ascending order. -/
def distinctWords (text : String) : List String :=
  ((wordsOf text).mergeSort (fun a b => decide (a ≤ b))).eraseDups

/-- A keyword set matches when it has words and each of them is among the words of the query. -/
def matchesWords (words : List String) (keywords : String) : Bool :=
  let wanted := wordsOf (normalize keywords)
  !wanted.isEmpty && wanted.all (fun w => words.contains w)

end Audience
