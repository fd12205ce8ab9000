import Audience.Bandit.Arm
import Audience.Bandit.Draw

/-! # Choosing arms

An epsilon-greedy choice explores with probability epsilon: it takes eligible segments at random.
Otherwise it exploits what is known: it takes those with the greatest mean rewards.

* **`shouldExplore epsilon`** — draws whether to explore.
* **`explore eligible count`** — different eligible segments at random.
* **`exploit eligible arms count`** — the eligible segments with the greatest mean rewards. -/

namespace Audience

/-- A probability: the nearest number from zero to one, and zero for a NaN. -/
def clampProbability (x : Double) : Double :=
  if x.isNaN then .zero
  else if x.lt .zero then .zero
  else if Double.one.lt x then .one
  else x

/-- The smallest distance between two draws from zero to one. -/
def drawUnit : Double := ⟨0x3CA0000000000000⟩

/-- The number from zero to one that a word stands for, by its upper 53 bits. -/
def unitOf (w : UInt64) : Double := (Double.ofNat (w >>> 11).toNat).mul drawUnit

/-- Draws whether to explore. -/
def shouldExplore (epsilon : Double) : Draw Bool := do
  let w ← Draw.word
  return (unitOf w).lt (clampProbability epsilon)

/-- Different eligible segments at random. -/
def explore (eligible : List Segment) (count : Nat) : Draw (List Segment) := do
  let picked ← Draw.sample eligible.length (min count eligible.length)
  return picked.filterMap (fun i => eligible[i]?)

/-- The mean reward of a segment; one without an arm counts as zero. -/
def Arms.valueOf (arms : Arms) (s : Segment) : Double :=
  match arms.get? s with
  | some a => a.value
  | none => .zero

/-- The eligible segments with the greatest mean rewards; equal ones keep their order. -/
def exploit (eligible : List Segment) (arms : Arms) (count : Nat) : List Segment :=
  (((eligible.map (fun s => (s, arms.valueOf s))).mergeSort
    (fun a b => decide (b.2.order ≤ a.2.order))).take count).map Prod.fst

end Audience
