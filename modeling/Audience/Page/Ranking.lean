import Audience.Page.Window

/-! # Ranking interests

A ranking turns a window of pages into the segments of interest, the strongest first. The usual one
adds up the probabilities of each segment over the window.

* **`Ranking`** — a named way to rank.
* **`Ranking.summed`** — by the sum of probabilities, and by name among equal sums. -/

namespace Audience

/-- A way to rank the segments of a window. -/
structure Ranking where
  name : String
  /-- The strongest segments of a window, no more than a number of them. -/
  rank : Window → Nat → List Segment

/-- Adds a probability to the sum of its segment. -/
def addProbability (sums : Dict Double) (e : String × Double) : Dict Double :=
  sums.insert e.1 (((sums.get? e.1).getD .zero).add e.2)

/-- Adds the probabilities of a page. -/
def addPage (sums : Dict Double) (p : Page) : Dict Double := p.entries.foldl addProbability sums

/-- The sums of the probabilities of all segments, from the newest page to the oldest. -/
def Window.sums (w : Window) : Dict Double := w.pages.foldl addPage .empty

/-- Whether a segment ranks before another one: by sum, then by name. -/
def ranksBefore (a b : String × Double) : Bool :=
  decide (b.2.order < a.2.order ∨ (a.2.order = b.2.order ∧ a.1 ≤ b.1))

namespace Ranking

/-- The segments with the greatest sums. -/
def bySum (w : Window) (count : Nat) : List Segment :=
  ((w.sums.entries.mergeSort ranksBefore).take count).map Prod.fst

/-- Ranks by the sum of probabilities, and by name among equal sums. -/
def summed : Ranking := ⟨"summed_probability", bySum⟩

end Ranking

end Audience
