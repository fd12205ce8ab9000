/-! # Character tables

A table says something about many characters. It is written as words of hexadecimal numbers: a code
point or a span of them (every second one if a step of two is given), and the values that belong to
it.

* **`TableRow.ofWord cs`** — the row that a word such as `100-12E/2:101` writes.
* **`tableOf lines`** — the rows of a table.
* **`findRow? table n`** — the row of a code point. -/

namespace Audience

/-- The code points `first`, `first + step`, … up to `last`, and what belongs to them. -/
structure TableRow where
  first : Nat
  last : Nat
  step : Nat
  values : List Nat

/-- The value of a hexadecimal digit in capitals. -/
def capitalHexValue (c : Char) : Nat := if c.isDigit then c.toNat - 48 else c.toNat - 55

/-- The number that hexadecimal digits write. -/
def hexNumber (cs : List Char) : Nat := cs.foldl (fun n c => 16 * n + capitalHexValue c) 0

/-- What stands before the first `mark`, and what stands after it. -/
def cutAt (mark : Char) (cs : List Char) : List Char × List Char :=
  (cs.takeWhile (fun c => c != mark), (cs.dropWhile (fun c => c != mark)).drop 1)

/-- The row that a word writes. -/
def TableRow.ofWord (cs : List Char) : TableRow :=
  let (span, values) := cutAt ':' cs
  let (ends, step) := cutAt '/' span
  let (first, last) := cutAt '-' ends
  ⟨hexNumber first, if last.isEmpty then hexNumber first else hexNumber last,
    if step.isEmpty then 1 else hexNumber step,
    if values.isEmpty then [] else (values.splitOn ',').map hexNumber⟩

/-- Whether a row speaks of a code point. -/
def TableRow.covers (row : TableRow) (n : Nat) : Bool :=
  decide (row.first ≤ n) && decide (n ≤ row.last) && decide ((n - row.first) % row.step = 0)

/-- The rows of a table. -/
def tableOf (lines : List String) : List TableRow :=
  lines.flatMap (fun line => (line.toList.splitOn ' ').map TableRow.ofWord)

/-- The row of a code point; the rows are in ascending order. -/
def findRow? : List TableRow → Nat → Option TableRow
  | [], _ => none
  | row :: rest, n =>
    if n < row.first then none else if row.covers n then some row else findRow? rest n

/-- Whether a table speaks of a code point. -/
def inTable (table : List TableRow) (n : Nat) : Bool := (findRow? table n).isSome

end Audience
