import Audience.Page.Ranking
import Audience.Proofs.ByteOrder
import Audience.Proofs.Dictionary
import Audience.Proofs.Sorting
import Audience.Proofs.TotalOrder

/-! # The strongest interests of a window

A ranking adds up the probabilities of a window page by page in one dictionary, sorts its entries
and takes the first ones. The sum of a segment is what adding its own probabilities from the newest
page to the oldest gives, and the sort leaves no choice: of two segments one is the stronger.

* **`Window.sumOf w s`** — the sum of the probabilities of a segment.
* **`Window.IsStronger w a b`** — the order of segments, by sum and then by bytes.
* **`Window.get?_sums`** — what the dictionary of sums holds.
* **`ranked_interests`** — a ranking has the first of all segments in this order. -/

namespace Audience

/-! ## Sums -/

/-- A sum with one more number, if there is one. -/
def addTo (sum : Option Double) : Option Double → Option Double
  | none => sum
  | some v => some ((sum.getD .zero).add v)

/-- Adding entries of different segments adds to each segment its own number. -/
theorem get?_foldl_addProbability {es : List (String × Double)} (h : Ascending es)
    (sums : Dict Double) (s : Segment) :
    (es.foldl addProbability sums).get? s = addTo (sums.get? s) (es.lookup s) := by
  induction es generalizing sums with
  | nil => rfl
  | cons e es ih =>
    obtain ⟨k, v⟩ := e
    obtain ⟨hlt, hes⟩ := List.pairwise_cons.1 h
    rw [List.foldl_cons, ih hes, addProbability, Dict.get?_insert, List.lookup_cons]
    by_cases hs : s = k
    · -- the segment is not among the other entries
      subst hs
      have hnone : es.lookup s = none := by
        rw [Option.eq_none_iff_forall_ne_some]
        intro v' hv'
        exact String.lt_irrefl s (hlt _ ((Dict.lookup_eq_some_iff hes).1 hv'))
      simp [hnone, addTo]
    · rw [if_neg hs, beq_eq_false_iff_ne.2 hs]

/-- Adding a page adds to each segment its own probability. -/
theorem get?_addPage (sums : Dict Double) (p : Page) (s : Segment) :
    (addPage sums p).get? s = addTo (sums.get? s) (p.get? s) :=
  get?_foldl_addProbability p.ascending sums s

/-- Adding pages adds to each segment its probabilities one after another. -/
theorem get?_foldl_addPage (pages : List Page) (sums : Dict Double) (s : Segment) :
    (pages.foldl addPage sums).get? s
      = (pages.map fun p => p.get? s).foldl addTo (sums.get? s) := by
  induction pages generalizing sums with
  | nil => rfl
  | cons p pages ih => rw [List.foldl_cons, ih, get?_addPage, List.map_cons, List.foldl_cons]

/-- Adding numbers some of which are missing is adding those that are there. -/
theorem foldl_addTo (vs : List (Option Double)) (sum : Option Double) :
    vs.foldl addTo sum = if vs.filterMap id = [] then sum
      else some ((vs.filterMap id).foldl Double.add (sum.getD .zero)) := by
  induction vs generalizing sum with
  | nil => rfl
  | cons v vs ih =>
    cases v with
    | none => exact ih sum
    | some v =>
      have hcons : (some v :: vs).filterMap id = v :: vs.filterMap id := rfl
      rw [List.foldl_cons, ih, hcons, if_neg (List.cons_ne_nil _ _), List.foldl_cons]
      -- whether it is the last number or not, the sum goes on from it
      split
      next hnil =>
        rw [hnil]
        rfl
      next => rfl

namespace Window

variable {w : Window} {a b s : Segment}

/-- The probabilities of a segment on the pages that have it, newest first. -/
def probabilities (w : Window) (s : Segment) : List Double := w.pages.filterMap fun p => p.get? s

/-- The sum of the probabilities of a segment. -/
def sumOf (w : Window) (s : Segment) : Double := (w.probabilities s).foldl Double.add .zero

/-- A page of the window has the segment. -/
def Mentions (w : Window) (s : Segment) : Prop := ∃ p ∈ w.pages, s ∈ p.keys

/-- A segment that is mentioned has probabilities. -/
theorem mentions_iff : w.Mentions s ↔ w.probabilities s ≠ [] := by
  rw [Ne, probabilities, List.filterMap_eq_nil_iff]
  simp only [Mentions, Dict.mem_keys_iff, not_forall, exists_prop, Option.ne_none_iff_exists']

/-- The dictionary of sums has the sum of every segment that is mentioned. -/
theorem get?_sums (w : Window) (s : Segment) :
    w.sums.get? s = if w.probabilities s = [] then none else some (w.sumOf s) := by
  rw [sums, get?_foldl_addPage, foldl_addTo, List.filterMap_map]
  rfl

/-- The entries of the dictionary of sums are the segments that are mentioned and their sums. -/
theorem mem_entries_sums {e : String × Double} :
    e ∈ w.sums.entries ↔ w.Mentions e.1 ∧ e.2 = w.sumOf e.1 := by
  rw [← Dict.get?_eq_some_iff, get?_sums, mentions_iff]
  split
  next hnil => simp [hnil]
  next hsome => simp [hsome, eq_comm]

/-! ## The order of segments -/

/-- A segment is stronger than another one with a lower sum, or with the same sum and greater
bytes. -/
def IsStronger (w : Window) (a b : Segment) : Prop :=
  (w.sumOf b).IsBelow (w.sumOf a) ∨
    w.sumOf a = w.sumOf b ∧ Utf8.encode a.toList < Utf8.encode b.toList

/-- By keys and code points the order is the same. -/
theorem isStronger_iff : w.IsStronger a b ↔ (w.sumOf b).order < (w.sumOf a).order ∨
    (w.sumOf a).order = (w.sumOf b).order ∧ a < b := by
  rw [IsStronger, Double.isBelow_iff, Utf8.encode_lt_iff, Double.order_inj]

/-- Of two segments only one is the stronger. -/
theorem IsStronger.asymm (h : w.IsStronger a b) : ¬w.IsStronger b a := by
  rw [isStronger_iff] at h ⊢
  rcases h with hlt | ⟨heq, hlt⟩
  · omega
  · rintro (hlt' | ⟨-, hlt'⟩)
    · omega
    · exact String.lt_asymm hlt hlt'

/-- All segments that are mentioned, the strongest first. -/
structure Ranks (w : Window) (ranked : List Segment) : Prop where
  mem_iff : ∀ s, s ∈ ranked ↔ w.Mentions s
  ordered : ranked.Pairwise w.IsStronger

/-- No segment is there twice. -/
theorem Ranks.nodup {ranked : List Segment} (h : w.Ranks ranked) : ranked.Nodup := by
  refine h.ordered.imp ?_
  rintro a b hstronger rfl
  exact hstronger.asymm hstronger

/-- There is no second list of all segments in this order. -/
theorem Ranks.eq {ranked ranked' : List Segment} (h : w.Ranks ranked) (h' : w.Ranks ranked') :
    ranked = ranked' := by
  have hperm : ranked.Perm ranked' := by
    rw [List.perm_ext_iff_of_nodup h.nodup h'.nodup]
    intro s
    rw [h.mem_iff, h'.mem_iff]
  refine hperm.eq_of_pairwise ?_ h.ordered h'.ordered
  intro a b _ _ hab hba
  exact absurd hba hab.asymm

/-- The segments of a window sorted by their sums. -/
def rankedSegments (w : Window) : List Segment :=
  (w.sums.entries.mergeSort ranksBefore).map Prod.fst

/-- Ranking before is transitive. -/
theorem ranksBefore_trans (a b c : String × Double) (hab : ranksBefore a b = true)
    (hbc : ranksBefore b c = true) : ranksBefore a c = true := by
  simp only [ranksBefore, decide_eq_true_eq] at hab hbc ⊢
  rcases hab with hab | ⟨hab, hle⟩
  · exact .inl (by omega)
  · rcases hbc with hbc | ⟨hbc, hle'⟩
    · exact .inl (by omega)
    · exact .inr ⟨hab.trans hbc, String.le_trans hle hle'⟩

/-- Of two entries one ranks before the other. -/
theorem ranksBefore_total (a b : String × Double) :
    (ranksBefore a b || ranksBefore b a) = true := by
  simp only [ranksBefore, Bool.or_eq_true, decide_eq_true_eq]
  rcases lt_trichotomy a.2.order b.2.order with hlt | heq | hgt
  · exact .inr (.inl hlt)
  · rcases String.le_total a.1 b.1 with hle | hle
    · exact .inl (.inr ⟨heq, hle⟩)
    · exact .inr (.inr ⟨heq.symm, hle⟩)
  · exact .inl (.inl hgt)

/-- The sorted segments are all segments in the order of their strength. -/
theorem ranks_rankedSegments (w : Window) : w.Ranks w.rankedSegments := by
  refine ⟨?_, ?_⟩
  · intro s
    simp only [rankedSegments, List.mem_map, List.mem_mergeSort, mem_entries_sums]
    constructor
    · rintro ⟨e, ⟨hmentions, -⟩, rfl⟩
      exact hmentions
    · intro hmentions
      exact ⟨(s, w.sumOf s), ⟨hmentions, rfl⟩, rfl⟩
  · rw [rankedSegments, List.pairwise_map]
    refine (pairwise_mergeSort_ties ranksBefore_trans ranksBefore_total
      w.sums.ascending).imp_of_mem ?_
    rintro ⟨a, u⟩ ⟨b, v⟩ ha hb ⟨hbefore, hties⟩
    -- each segment stands there with its own sum
    have hu : u = w.sumOf a := (mem_entries_sums.1 (List.mem_mergeSort.1 ha)).2
    have hv : v = w.sumOf b := (mem_entries_sums.1 (List.mem_mergeSort.1 hb)).2
    subst hu hv
    simp only [ranksBefore, decide_eq_true_eq] at hbefore hties
    rw [isStronger_iff]
    rcases hbefore with hlt | ⟨heq, hle⟩
    · exact .inl hlt
    · refine .inr ⟨heq, ?_⟩
      by_cases hge : b ≤ a
      · exact hties (.inr ⟨heq.symm, hge⟩)
      · exact String.not_le.1 hge

end Window

/-- The ranking by sums takes the first of the sorted segments. -/
theorem rank_summed (w : Window) (count : Nat) :
    Ranking.summed.rank w count = w.rankedSegments.take count := List.map_take

/-- A list of all segments has as many as there are different ones. -/
theorem Window.Ranks.length {w : Window} {ranked : List Segment} (h : w.Ranks ranked) :
    ranked.length = (w.pages.flatMap Dict.keys).toFinset.card := by
  rw [← List.toFinset_card_of_nodup h.nodup]
  congr 1
  ext s
  rw [List.mem_toFinset, List.mem_toFinset, h.mem_iff, List.mem_flatMap]
  rfl

/-- A ranking has the first of all segments that occur on a page, the greatest sum in the total
order first and among equal sums the lowest bytes; there is one such order of the segments. No
segment is there twice, and as many are there as may be, or all of them. -/
theorem ranked_interests (w : Window) :
    (∃! ranked, w.Ranks ranked) ∧
    (∀ ranked, w.Ranks ranked → ∀ count, Ranking.summed.rank w count = ranked.take count) ∧
    ∀ count, (Ranking.summed.rank w count).Nodup ∧
      (Ranking.summed.rank w count).length
        = min count (w.pages.flatMap Dict.keys).toFinset.card := by
  have hranks := w.ranks_rankedSegments
  refine ⟨⟨_, hranks, fun _ h => h.eq hranks⟩, ?_, ?_⟩
  · intro ranked h count
    rw [h.eq hranks]
    exact rank_summed w count
  · intro count
    rw [rank_summed]
    refine ⟨hranks.nodup.sublist (List.take_sublist _ _), ?_⟩
    rw [List.length_take, hranks.length]

/-- Food and travel have the same sum and are in the order of their names; the sum of sports is a
NaN with a minus sign, which is below all numbers. -/
theorem ranked_interests_ties :
    let w : Window := ⟨[.ofList [("sports", .one), ("travel", .one)],
      .ofList [("food", .one), ("sports", .invalid)]]⟩
    Ranking.summed.rank w 2 = ["food", "travel"] ∧
      Ranking.summed.rank w 9 = ["food", "travel", "sports"] := by
  intro w
  have hkeys : w.pages.map Dict.keys = [["sports", "travel"], ["food", "sports"]] := by
    decide +kernel
  have hranks : w.Ranks ["food", "travel", "sports"] := by
    refine ⟨fun s => ?_, List.Pairwise.imp Window.isStronger_iff.2 (by decide +kernel)⟩
    have hmentions : w.Mentions s ↔ ∃ ks ∈ w.pages.map Dict.keys, s ∈ ks := by
      simp [Window.Mentions]
    rw [hmentions, hkeys]
    simp only [List.mem_cons, List.not_mem_nil, or_false, exists_eq_or_imp, exists_eq_left]
    tauto
  obtain ⟨-, hrank, -⟩ := ranked_interests w
  exact ⟨hrank _ hranks 2, hrank _ hranks 9⟩

end Audience
