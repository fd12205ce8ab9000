import Audience.Bandit.Selection
import Audience.Proofs.Sorting
import Audience.Proofs.TotalOrder

/-! # The segments with the greatest rewards

Exploiting sorts the eligible segments by their mean rewards and takes the first ones. The sort
keeps the order of equal rewards, so the positions of the eligible segments end up in one strict
order: by reward in the total order of doubles, and by position among equal rewards.

* **`Arms.IsAhead arms eligible i j`** — the order of positions.
* **`Arms.Ranks arms eligible ranked`** — all positions in this order; there is one such list.
* **`exploit_eq_map_ranked`** — exploiting takes the first of them.
* **`exploited_segments`** — what exploiting takes, and what it does not depend on. -/

namespace Audience

namespace Arms

variable {arms : Arms} {eligible : List Segment} {i j : Fin eligible.length}

/-- The reward of the segment at a position. -/
def valueAt (arms : Arms) (eligible : List Segment) (i : Fin eligible.length) : Double :=
  arms.valueOf (eligible.get i)

/-- A position comes before another one whose reward is lower, or which is later and has the same
reward. -/
def IsAhead (arms : Arms) (eligible : List Segment) (i j : Fin eligible.length) : Prop :=
  (arms.valueAt eligible j).IsBelow (arms.valueAt eligible i) ∨
    arms.valueAt eligible i = arms.valueAt eligible j ∧ i < j

/-- By keys the order is the same. -/
theorem isAhead_iff : arms.IsAhead eligible i j ↔
    (arms.valueAt eligible j).order < (arms.valueAt eligible i).order ∨
      (arms.valueAt eligible i).order = (arms.valueAt eligible j).order ∧ i < j := by
  rw [IsAhead, Double.isBelow_iff, Double.order_inj]

/-- Of two positions only one comes before the other. -/
theorem IsAhead.asymm (h : arms.IsAhead eligible i j) : ¬arms.IsAhead eligible j i := by
  rw [isAhead_iff] at h ⊢
  omega

/-- All positions in the order of their rewards. -/
structure Ranks (arms : Arms) (eligible : List Segment)
    (ranked : List (Fin eligible.length)) : Prop where
  perm : ranked.Perm (List.finRange eligible.length)
  ordered : ranked.Pairwise (arms.IsAhead eligible)

/-- There is no second list of all positions in this order. -/
theorem Ranks.eq {ranked ranked' : List (Fin eligible.length)} (h : arms.Ranks eligible ranked)
    (h' : arms.Ranks eligible ranked') : ranked = ranked' := by
  refine (h.perm.trans h'.perm.symm).eq_of_pairwise ?_ h.ordered h'.ordered
  intro i j _ _ hij hji
  exact absurd hji hij.asymm

/-- Whether a position may stand before another one: its reward is not lower. -/
def mayPrecede (arms : Arms) (eligible : List Segment) (i j : Fin eligible.length) : Bool :=
  decide ((arms.valueAt eligible j).order ≤ (arms.valueAt eligible i).order)

/-- The segment at a position with its reward. -/
def valuedAt (arms : Arms) (eligible : List Segment) (i : Fin eligible.length) :
    Segment × Double := (eligible.get i, arms.valueAt eligible i)

/-- The positions sorted by their rewards. -/
def rankedPositions (arms : Arms) (eligible : List Segment) : List (Fin eligible.length) :=
  (List.finRange eligible.length).mergeSort (arms.mayPrecede eligible)

/-- The sorted positions are all positions in the order of their rewards. -/
theorem ranks_rankedPositions (arms : Arms) (eligible : List Segment) :
    arms.Ranks eligible (arms.rankedPositions eligible) := by
  refine ⟨List.mergeSort_perm _ _, ?_⟩
  have htrans : ∀ i j k, arms.mayPrecede eligible i j = true →
      arms.mayPrecede eligible j k = true → arms.mayPrecede eligible i k = true := by
    intro i j k hij hjk
    simp only [mayPrecede, decide_eq_true_eq] at hij hjk ⊢
    exact Int.le_trans hjk hij
  have htotal : ∀ i j,
      (arms.mayPrecede eligible i j || arms.mayPrecede eligible j i) = true := by
    intro i j
    simp only [mayPrecede, Bool.or_eq_true, decide_eq_true_eq]
    exact Int.le_total _ _
  -- the sort keeps the order of positions with equal rewards
  have hsorted := pairwise_mergeSort_ties htrans htotal
    (List.pairwise_lt_finRange eligible.length)
  refine hsorted.imp ?_
  rintro i j ⟨hle, hties⟩
  rw [isAhead_iff]
  simp only [mayPrecede, decide_eq_true_eq] at hle hties
  rcases Int.lt_or_eq_of_le hle with hlt | heq
  · exact .inl hlt
  · exact .inr ⟨heq.symm, hties (Int.le_of_eq heq.symm)⟩

end Arms

/-- Exploiting takes the segments at the first of the sorted positions. -/
theorem exploit_eq_map_ranked (eligible : List Segment) (arms : Arms) (count : Nat) :
    exploit eligible arms count
      = ((arms.rankedPositions eligible).take count).map eligible.get := by
  have hvalued : eligible.map (fun s => (s, arms.valueOf s))
      = (List.finRange eligible.length).map (arms.valuedAt eligible) := by
    conv_lhs => rw [← List.map_get_finRange eligible, List.map_map]
    rfl
  -- the comparison sees rewards only, so segments and positions are sorted alike
  have hsorted : (arms.rankedPositions eligible).map (arms.valuedAt eligible)
      = ((List.finRange eligible.length).map (arms.valuedAt eligible)).mergeSort
          (fun a b => decide (b.2.order ≤ a.2.order)) :=
    List.map_mergeSort fun _ _ _ _ => rfl
  rw [exploit, hvalued, ← hsorted, ← List.map_take, List.map_map]
  rfl

/-- Exploiting reads the arms of eligible segments only. -/
theorem exploit_congr {eligible : List Segment} {arms arms' : Arms}
    (h : ∀ s ∈ eligible, arms'.get? s = arms.get? s) (count : Nat) :
    exploit eligible arms' count = exploit eligible arms count := by
  have hvalues : eligible.map (fun s => (s, arms'.valueOf s))
      = eligible.map (fun s => (s, arms.valueOf s)) := by
    refine List.map_congr_left ?_
    intro s hs
    rw [Arms.valueOf, Arms.valueOf, h s hs]
  rw [exploit, exploit, hvalues]

/-- Exploiting takes the eligible segments at the first positions, the greatest reward in the total
order first and the earlier position among equal rewards; there is one such order of positions. The
reward of an arm is the mean of what it got, and a segment without an arm counts as zero. So arms of
other segments do not matter, and a greater number of segments only adds some at the end. -/
theorem exploited_segments (eligible : List Segment) (arms : Arms) :
    (∃! ranked, arms.Ranks eligible ranked) ∧
    (∀ ranked, arms.Ranks eligible ranked → ∀ count,
      exploit eligible arms count = (ranked.take count).map eligible.get) ∧
    (∀ s, arms.get? s = none → arms.valueOf s = .zero) ∧
    (∀ s a, arms.get? s = some a →
      arms.valueOf s = a.rewardSum.div (.ofNat (max a.pulls.toNat 1))) ∧
    (∀ arms' : Arms, (∀ s ∈ eligible, arms'.get? s = arms.get? s) → ∀ count,
      exploit eligible arms' count = exploit eligible arms count) ∧
    ∀ count count', count ≤ count' →
      exploit eligible arms count <+: exploit eligible arms count' := by
  have hranks := arms.ranks_rankedPositions eligible
  refine ⟨⟨_, hranks, fun _ h => h.eq hranks⟩, ?_, ?_, ?_, fun _ => exploit_congr, ?_⟩
  · intro ranked h count
    rw [h.eq hranks]
    exact exploit_eq_map_ranked eligible arms count
  · intro s hs
    rw [Arms.valueOf, hs]
  · intro s a hs
    rw [Arms.valueOf, hs]
    rfl
  · intro count count' hle
    rw [exploit_eq_map_ranked, exploit_eq_map_ranked]
    exact (List.take_prefix_take_left hle).map _

/-- Bags have a NaN for their reward, hats none at all and shoes minus zero; cars have the greatest
mean, but they are not eligible. -/
theorem exploited_segments_zeros :
    let eligible := ["hats", "shoes", "bags"]
    let arms : Arms := .ofList
      [("bags", ⟨0, .nan⟩), ("cars", ⟨1, .one⟩), ("shoes", ⟨2, .minusZero⟩)]
    exploit eligible arms 3 = ["bags", "hats", "shoes"] ∧
      exploit eligible (arms.erase "cars") 3 = ["bags", "hats", "shoes"] ∧
      exploit eligible arms 1 <+: exploit eligible arms 3 := by
  intro eligible arms
  have hranks : arms.Ranks eligible [2, 0, 1] :=
    ⟨by decide, List.Pairwise.imp Arms.isAhead_iff.2 (by decide +kernel)⟩
  obtain ⟨-, hexploit, -, -, hothers, hlonger⟩ := exploited_segments eligible arms
  have hall : exploit eligible arms 3 = ["bags", "hats", "shoes"] := hexploit _ hranks 3
  refine ⟨hall, (hothers (arms.erase "cars") ?_ 3).trans hall, hlonger 1 3 (by decide)⟩
  decide +kernel

end Audience
