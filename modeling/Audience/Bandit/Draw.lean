import Audience.Number.Double
import Audience.Number.Power

/-! # Random draws

A generator first serves words that it was given, then words that it makes from a seed. An index
below a bound is drawn by multiplying a word with the bound; words that would favour some indices
are passed over.

* **`Rng.next g`** — the next word.
* **`Draw α`** — a computation that draws from a generator. It has no result when it never comes
  to an end, because all words from some point on are passed over.
* **`Draw.retry d accepts`** — draws until a value is accepted.
* **`Draw.between lo hi`** — a number from `lo` to `hi`.
* **`Draw.sample length amount`** — different indices below a length, in random order. -/

namespace Audience

/-- A source of random words. -/
structure Rng where
  /-- The words that come first. -/
  words : List UInt64
  /-- The state from which later words are made. -/
  state : UInt64
  deriving DecidableEq, Repr

namespace Rng

/-- The word that a state makes. -/
def mix (state : UInt64) : UInt64 :=
  let z := (state ^^^ (state >>> 30)) * 0xBF58476D1CE4E5B9
  let z := (z ^^^ (z >>> 27)) * 0x94D049BB133111EB
  z ^^^ (z >>> 31)

/-- The next word, and the generator after it. -/
def next (g : Rng) : UInt64 × Rng :=
  match g.words with
  | w :: rest => (w, { g with words := rest })
  | [] =>
    let state := g.state + 0x9E3779B97F4A7C15
    (mix state, ⟨[], state⟩)

/-- How many generators there can be after this one, with it, before one comes again: as many as it
has words, and one for each state. -/
def reach (g : Rng) : Nat := g.words.length + 0x10000000000000000

end Rng

/-- A computation that draws from a generator. -/
abbrev Draw (α : Type) := StateT Rng Option α

namespace Draw

/-- The next word. -/
def word : Draw UInt64 := fun g => some g.next

/-- How many 32-bit words there are. -/
def wordRange : Nat := 0x100000000

/-- How many 64-bit words there are. -/
def longWordRange : Nat := 0x10000000000000000

/-- Draws until a value is accepted, so many times at most. -/
def attempts {α : Type} (d : Draw α) (accepts : α → Bool) : Nat → Draw α
  | 0 => fun _ => none
  | n + 1 => do
    let a ← d
    if accepts a then return a else attempts d accepts n

/-- Draws until a value is accepted. Once a generator comes again, the values would repeat, and none
is ever accepted. -/
def retry {α : Type} (d : Draw α) (accepts : α → Bool) : Draw α := fun g =>
  attempts d accepts g.reach g

/-- The product of a word with a range, in words of some width. -/
def product (words range : Nat) : Draw Nat := do
  let w ← word
  return w.toNat % words * range

/-- A number below a range, from the first word whose product with the range picks one without
favour: the low part of the product is below a limit. -/
def below (words limit range : Nat) : Draw Nat := do
  let n ← retry (product words range) (fun n => n % words < limit)
  return n / words

/-- The greatest multiple of a range that is a shift of it and has 32 bits. -/
def shiftedLimit (range : Nat) : Nat := range * twoTo (31 - range.log2)

/-- A number from `lo` to `hi`. -/
def between (lo hi : Nat) : Draw Nat := do
  let range := hi - lo + 1
  let n ← below wordRange (shiftedLimit range) range
  return lo + n

/-! ## Sampling indices -/

/-- Puts an index in front of the first equal one, or at the end if there is none. -/
def placeBefore (t j : Nat) : List Nat → List Nat
  | [] => [t]
  | x :: xs => if x = t then j :: x :: xs else x :: placeBefore t j xs

/-- Draws one index from `0` to `j`; if it was drawn before, `j` takes the place in front of it. -/
def floydStep (drawn : List Nat) (j : Nat) : Draw (List Nat) := do
  let t ← between 0 j
  return placeBefore t j drawn

/-- Draws one index from `0` to `j`; if it was drawn before, `j` is taken. -/
def floydPush (drawn : List Nat) (j : Nat) : Draw (List Nat) := do
  let t ← between 0 j
  return drawn ++ [if drawn.contains t then j else t]

/-- Exchanges two items of a list. -/
def exchange (xs : List Nat) (i j : Nat) : List Nat :=
  match xs[i]?, xs[j]? with
  | some a, some b => (xs.set i b).set j a
  | _, _ => xs

/-- Exchanges an item with one that is not after it. -/
def shuffleStep (xs : List Nat) (i : Nat) : Draw (List Nat) := do
  let k ← between 0 i
  return exchange xs i k

/-- Different indices, drawn one at a time from growing ranges. Many of them are shuffled
afterwards, a few are put in random places at once. -/
def floyd (length amount : Nat) : Draw (List Nat) := do
  let js := List.range' (length - amount) amount
  if amount < 50 then js.foldlM floydStep []
  else
    let drawn ← js.foldlM floydPush []
    ((List.range amount).drop 1).reverse.foldlM shuffleStep drawn

/-- Exchanges an item with one that is not before it. -/
def inPlaceStep (length : Nat) (xs : Array Nat) (i : Nat) : Draw (Array Nat) := do
  let k ← between i (length - 1)
  return xs.swapIfInBounds i k

/-- The first items of a list of all indices that is shuffled from the front. -/
def inPlace (length amount : Nat) : Draw (List Nat) := do
  let xs ← (List.range amount).foldlM (inPlaceStep length) (Array.range length)
  return xs.toList.take amount

/-- An index below a length that has not been drawn before; those that have are passed over. -/
def newIndex (words length : Nat) (drawn : List Nat) : Draw Nat :=
  retry (below words (words - words % length) length) (fun i => !drawn.contains i)

/-- Draws one index that has not been drawn before. -/
def rejectionStep (words length : Nat) (drawn : List Nat) (_ : Nat) : Draw (List Nat) := do
  let i ← newIndex words length drawn
  return drawn ++ [i]

/-- Different indices, each drawn again until it differs from the ones before it. A length that is
no 32-bit number takes longer words. -/
def rejection (length amount : Nat) : Draw (List Nat) :=
  let words := if length < wordRange then wordRange else longWordRange
  (List.range amount).foldlM (rejectionStep words length) []

/-! ## The choice of a way -/

/-- The ways to sample indices. -/
inductive Way where
  | floyd
  | inPlace
  | rejection
  deriving DecidableEq, Repr

/-- Whether shuffling in place is cheaper than drawing a few indices one at a time. -/
def isDense (length amount : Nat) : Bool :=
  decide (11 < amount ∧ 5 * length < (50 + 8 * amount) * amount)

/-- How many indices a list may have for each one of many that are drawn, to be shuffled in
place. -/
def spread (length : Nat) : Single := if length < 500000 then ⟨0x43870000⟩ else ⟨0x4212AAAB⟩

/-- Whether shuffling in place is cheaper than drawing many indices anew until they differ. -/
def isCrowded (length amount : Nat) : Bool :=
  (Single.ofNat length).lt ((spread length).mul (.ofNat amount))

/-- The way to sample so many indices below a length. -/
def way (length amount : Nat) : Way :=
  if wordRange ≤ length then .rejection
  else if amount < 163 then if isDense length amount then .inPlace else .floyd
  else if isCrowded length amount then .inPlace else .rejection

/-- Different indices below a length, in random order. -/
def sample (length amount : Nat) : Draw (List Nat) :=
  match way length amount with
  | .floyd => floyd length amount
  | .inPlace => inPlace length amount
  | .rejection => rejection length amount

end Draw

end Audience
