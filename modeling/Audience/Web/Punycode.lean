/-! # Punycode

Characters beyond ASCII are written in ASCII as a sequence of insertions: each says how far the next
one is from the last, first by code point, then by position. The distances are written in digits of
a base that adapts to their size.

* **`Punycode.encode cs`** — the ASCII form.
* **`Punycode.decode? cs`** — the characters of an ASCII form. -/

namespace Audience.Punycode

/-- The number of digits. -/
def base : Nat := 36

/-- The bias before the first distance. -/
def firstBias : Nat := 72

/-- The first code point beyond ASCII. -/
def firstCode : Nat := 128

/-- Divides a distance until it is small, and counts the divisions. -/
def shrink (delta k : Nat) : Nat × Nat :=
  if 455 < delta then shrink (delta / 35) (k + base) else (delta, k)
termination_by delta

/-- The bias after a distance, given how many characters there are then. -/
def adapt (delta count : Nat) (isFirst : Bool) : Nat :=
  let delta := if isFirst then delta / 700 else delta / 2
  let (delta, k) := shrink (delta + delta / count) 0
  k + 36 * delta / (delta + 38)

/-- The value from which on a digit at position `k` is not the last one. -/
def threshold (k bias : Nat) : Nat := min 26 (max 1 (k - bias))

/-! ## Writing -/

/-- The character of a digit. -/
def digitChar (d : Nat) : Char := if d < 26 then Char.ofNat (97 + d) else Char.ofNat (22 + d)

/-- The digits of a distance from position `k` on. -/
def distance (q k bias : Nat) : List Char :=
  let t := threshold k bias
  if q < t then [digitChar q]
  else digitChar (t + (q - t) % (base - t)) :: distance ((q - t) / (base - t)) (k + base) bias
termination_by q
decreasing_by
  rename_i h
  have h1 : 1 ≤ threshold k bias := by unfold threshold; omega
  have hle := Nat.div_le_self (q - threshold k bias) (base - threshold k bias)
  omega

/-- What has been written, the distance so far, the bias and the number of characters written. -/
structure Writing where
  written : List Char
  delta : Nat
  bias : Nat
  count : Nat

/-- Passes a character of the text while insertions of the code point `m` are written. -/
def Writing.pass (basic m : Nat) (w : Writing) (c : Nat) : Writing :=
  if c < m then { w with delta := w.delta + 1 }
  else if c = m then
    ⟨w.written ++ distance w.delta base w.bias, 0,
      adapt w.delta (w.count + 1) (decide (w.count = basic)), w.count + 1⟩
  else w

/-- Writes the insertions of the code points in ascending order; `n` is the least code point that is
left. -/
def insertions (codes : List Nat) (basic : Nat) : List Nat → Nat → Writing → Writing
  | [], _, w => w
  | m :: ms, n, w =>
    let w := { w with delta := w.delta + (m - n) * (w.count + 1) }
    let w := codes.foldl (Writing.pass basic m) w
    insertions codes basic ms (m + 1) { w with delta := w.delta + 1 }

/-- The ASCII form. -/
def encode (cs : List Char) : List Char :=
  let codes := cs.map Char.toNat
  let ascii := cs.filter (fun c => decide (c.toNat < firstCode))
  let others := ((codes.filter (fun n => decide (firstCode ≤ n))).mergeSort
    (fun a b => decide (a ≤ b))).eraseDups
  let head := if ascii.isEmpty then [] else ascii ++ ['-']
  (insertions codes ascii.length others firstCode ⟨head, 0, firstBias, ascii.length⟩).written

/-! ## Reading -/

/-- The value of a digit. -/
def digit? (c : Char) : Option Nat :=
  if c.isLower then some (c.toNat - 97)
  else if c.isUpper then some (c.toNat - 65)
  else if c.isDigit then some (c.toNat - 22)
  else none

/-- The characters so far, the last code point and position, and the distance that is being read:
its value, the weight and position of its next digit, and the bias. -/
structure Reading where
  chars : List Char
  code : Nat
  position : Nat
  delta : Nat
  weight : Nat
  k : Nat
  bias : Nat

/-- Inserts the next character once its distance is complete. -/
def Reading.insert (r : Reading) : Option Reading :=
  let count := r.chars.length + 1
  let total := r.position + r.delta
  let code := r.code + total / count
  let place := total % count
  if code.isValidChar then
    some ⟨r.chars.take place ++ Char.ofNat code :: r.chars.drop place, code, place + 1, 0, 1, base,
      adapt r.delta count (decide (r.code = firstCode ∧ r.position = 0 ∧
        r.chars.all (fun c => decide (c.toNat < firstCode))))⟩
  else none

/-- Takes a digit. -/
def Reading.step (r : Reading) (c : Char) : Option Reading := do
  let d ← digit? c
  let t := threshold r.k r.bias
  let r := { r with delta := r.delta + d * r.weight }
  if d < t then r.insert
  else some { r with weight := r.weight * (base - t), k := r.k + base }

/-- The characters before the last hyphen, and those after it. -/
def split (cs : List Char) : List Char × List Char :=
  let tail := (cs.reverse.takeWhile (· != '-')).reverse
  let head := cs.take (cs.length - tail.length - 1)
  if cs.contains '-' then if head.isEmpty then ([], cs) else (head, tail) else ([], cs)

/-- The characters of an ASCII form. -/
def decode? (cs : List Char) : Option (List Char) := do
  let (ascii, digits) := split cs
  let r ← digits.foldlM Reading.step ⟨ascii, firstCode, 0, 0, 1, base, firstBias⟩
  if r.k = base then some r.chars else none

end Audience.Punycode
