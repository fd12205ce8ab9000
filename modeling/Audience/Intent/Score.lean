import Audience.Intent.History

/-! # Scores of purchase intent

An entry counts until a time window after it has passed. The score of a segment is the sum of the
weights of its live entries, each times the level of a signal; sums stop at the greatest 64-bit
number. A segment without a live entry has no score.

* **`score? p now es`** — the score of entries that are newest first.
* **`History.scores h p now`** — the scores of all segments, in ascending order.
* **`predict threshold count scores`** — the segments with the highest scores. -/

namespace Audience

/-- How entries are scored. -/
structure Scoring where
  window : Span
  level : Nat
  deriving DecidableEq, Repr

/-- The greatest score. -/
def greatestScore : Nat := 0xFFFFFFFFFFFFFFFF

/-- Cuts a score off at the greatest one. -/
def saturate (n : Nat) : Nat := min n greatestScore

/-- Whether an entry no longer counts. A window that reaches beyond the calendar never ends. -/
def Entry.isDecayed (e : Entry) (window : Span) (now : Instant) : Bool :=
  match e.time.add? window with
  | some finish => finish.le now
  | none => false

/-- What an entry adds to a score. -/
def Entry.points (e : Entry) (level : Nat) : Nat := saturate (level * e.weight.toNat)

/-- Adds the points of the entries up to the first one that is decayed. -/
def scoreFrom (p : Scoring) (now : Instant) : Option Nat → List Entry → Option Nat
  | score, [] => score
  | score, e :: es =>
    if e.isDecayed p.window now then score
    else scoreFrom p now (some (saturate (score.getD 0 + e.points p.level))) es

/-- The score of entries that are newest first. -/
def score? (p : Scoring) (now : Instant) (es : List Entry) : Option Nat := scoreFrom p now none es

/-- The score of a segment. -/
structure SegmentScore where
  segment : Segment
  score : Nat
  deriving DecidableEq, Repr

/-- The scores of all segments with a live entry, ascending; equal scores are in the order of the
segments. -/
def History.scores (h : History) (p : Scoring) (now : Instant) : List SegmentScore :=
  (h.trails.entries.filterMap (fun t =>
    (score? p now t.2.entries).map (fun n => (⟨t.1, n⟩ : SegmentScore)))).mergeSort
      (fun a b => decide (a.score ≤ b.score))

/-- The segments of ascending scores that reach a threshold, from the end, and no more than
`count`. -/
def predict (threshold count : Nat) (scores : List SegmentScore) : List Segment :=
  ((scores.reverse.filter (fun s => decide (threshold ≤ s.score))).take count).map
    SegmentScore.segment

end Audience
