import Audience.Proofs.ByteOrder
import Audience.Proofs.Contributions
import Audience.Proofs.Dictionary
import Audience.Proofs.Sorting

/-! # The segments with the highest scores

A prediction is read off the ascending scores from their end. Equal scores are in the order of the
segments there, so from the end the greater segment comes first. What reaches the threshold is kept
in this order and cut off: nothing that was left out belongs before anything that was taken.

* **`SegmentScore.IsBefore a b`** — the order of a prediction, by score and then by the bytes of the
  segments.
* **`History.Scores h p now a`** — a segment of a history has a score.
* **`History.pairwise_reverse_scores`** — the scores from their end are in this order.
* **`predicted_segments`** — a prediction has the first segments in this order. -/

namespace Audience

/-! ## The order of a prediction -/

namespace SegmentScore

/-- A score comes before another one that is lower, or that is equal and belongs to a segment with
lower bytes. -/
def IsBefore (a b : SegmentScore) : Prop :=
  b.score < a.score ∨
    a.score = b.score ∧ Utf8.encode b.segment.toList < Utf8.encode a.segment.toList

/-- By code points the order is the same. -/
theorem isBefore_iff {a b : SegmentScore} :
    a.IsBefore b ↔ b.score < a.score ∨ a.score = b.score ∧ b.segment < a.segment := by
  rw [IsBefore, Utf8.encode_lt_iff]

/-- No score comes before itself. -/
theorem not_isBefore_self (a : SegmentScore) : ¬a.IsBefore a := by
  rw [isBefore_iff]
  rintro (hlt | ⟨-, hlt⟩)
  · exact Nat.lt_irrefl _ hlt
  · exact String.lt_irrefl _ hlt

end SegmentScore

/-! ## Scores of a history -/

namespace History

variable {h : History} {p : Scoring} {now : Instant}

/-- A segment of a history has a score. -/
def Scores (h : History) (p : Scoring) (now : Instant) (a : SegmentScore) : Prop :=
  ∃ t, h.trails.get? a.segment = some t ∧ score? p now t.entries = some a.score

/-- A segment has no more than one score. -/
theorem Scores.eq {a b : SegmentScore} (ha : h.Scores p now a) (hb : h.Scores p now b)
    (hsegment : a.segment = b.segment) : a = b := by
  obtain ⟨segment, score⟩ := a
  obtain ⟨t, ht, hscore⟩ := ha
  obtain ⟨t', ht', hscore'⟩ := hb
  cases hsegment
  cases ht.symm.trans ht'
  cases hscore.symm.trans hscore'
  rfl

/-- The scores in the order of their segments. -/
def unsortedScores (h : History) (p : Scoring) (now : Instant) : List SegmentScore :=
  h.trails.entries.filterMap (fun t =>
    (score? p now t.2.entries).map (fun n => (⟨t.1, n⟩ : SegmentScore)))

/-- The segments of these scores are ascending. -/
theorem pairwise_unsortedScores (h : History) (p : Scoring) (now : Instant) :
    (h.unsortedScores p now).Pairwise (fun a b => a.segment < b.segment) := by
  refine h.trails.ascending.filterMap _ ?_
  intro e e' hlt a ha b hb
  obtain ⟨n, -, rfl⟩ := Option.map_eq_some_iff.1 ha
  obtain ⟨n', -, rfl⟩ := Option.map_eq_some_iff.1 hb
  exact hlt

/-- The scores are those of the segments of the history. -/
theorem mem_scores {a : SegmentScore} : a ∈ h.scores p now ↔ h.Scores p now a := by
  rw [scores, List.mem_mergeSort, List.mem_filterMap]
  constructor
  · rintro ⟨⟨s, t⟩, hmem, hscore⟩
    obtain ⟨n, hn, rfl⟩ := Option.map_eq_some_iff.1 hscore
    exact ⟨t, Dict.get?_eq_some_iff.2 hmem, hn⟩
  · rintro ⟨t, ht, hscore⟩
    exact ⟨(a.segment, t), Dict.get?_eq_some_iff.1 ht, by rw [hscore]; rfl⟩

/-- From their end the scores are in the order of a prediction: the sort keeps equal scores in the
order of their segments. -/
theorem pairwise_reverse_scores (h : History) (p : Scoring) (now : Instant) :
    (h.scores p now).reverse.Pairwise SegmentScore.IsBefore := by
  rw [List.pairwise_reverse]
  have htrans : ∀ a b c : SegmentScore, decide (a.score ≤ b.score) = true →
      decide (b.score ≤ c.score) = true → decide (a.score ≤ c.score) = true := by
    simpa using fun a b c => Nat.le_trans
  have htotal : ∀ a b : SegmentScore,
      (decide (a.score ≤ b.score) || decide (b.score ≤ a.score)) = true := by
    simpa using fun a b => Nat.le_total _ _
  refine (pairwise_mergeSort_ties htrans htotal (h.pairwise_unsortedScores p now)).imp ?_
  rintro a b ⟨hle, hties⟩
  rw [SegmentScore.isBefore_iff]
  simp only [decide_eq_true_eq] at hle hties
  rcases Nat.lt_or_eq_of_le hle with hlt | heq
  · exact .inl hlt
  · exact .inr ⟨heq.symm, hties heq.ge⟩

/-- The scores that reach a threshold, in the order of a prediction. -/
def ranking (h : History) (p : Scoring) (now : Instant) (threshold : Nat) : List SegmentScore :=
  (h.scores p now).reverse.filter (fun s => decide (threshold ≤ s.score))

/-- The scores that reach a threshold are all there. -/
theorem mem_ranking {threshold : Nat} {a : SegmentScore} :
    a ∈ h.ranking p now threshold ↔ h.Scores p now a ∧ threshold ≤ a.score := by
  rw [ranking, List.mem_filter, List.mem_reverse, mem_scores, decide_eq_true_eq]

/-- They are in the order of a prediction. -/
theorem pairwise_ranking (h : History) (p : Scoring) (now : Instant) (threshold : Nat) :
    (h.ranking p now threshold).Pairwise SegmentScore.IsBefore :=
  (h.pairwise_reverse_scores p now).filter _

/-- No segment is there twice. -/
theorem nodup_ranking (h : History) (p : Scoring) (now : Instant) (threshold : Nat) :
    ((h.ranking p now threshold).map SegmentScore.segment).Nodup := by
  rw [List.Nodup, List.pairwise_map]
  refine (h.pairwise_ranking p now threshold).imp_of_mem ?_
  intro a b ha hb hbefore hsegment
  cases (mem_ranking.1 ha).1.eq (mem_ranking.1 hb).1 hsegment
  exact a.not_isBefore_self hbefore

end History

/-- What is left of a list when its first items are taken comes after them. -/
theorem isBefore_of_not_taken {ranked : List SegmentScore}
    (h : ranked.Pairwise SegmentScore.IsBefore) {count : Nat} {a b : SegmentScore}
    (ha : a ∈ ranked.take count) (hb : b ∈ ranked) (hnot : b ∉ ranked.take count) :
    a.IsBefore b := by
  rw [← List.take_append_drop count ranked] at h hb
  have hdropped := (List.mem_append.1 hb).resolve_left hnot
  exact (List.pairwise_append.1 h).2.2 a ha b hdropped

/-- A prediction has the first segments of those whose score reaches the threshold, the greatest
score first and among equal scores the greatest bytes. No segment is there twice, and all that
reaches the threshold and is left out comes after all that is there. The model predicts three
segments at most, by the threshold of its settings. -/
theorem predicted_segments (h : History) (p : Scoring) (now : Instant) (threshold count : Nat) :
    (∃ ranked : List SegmentScore, ranked.Pairwise SegmentScore.IsBefore ∧
      (∀ a, a ∈ ranked ↔ h.Scores p now a ∧ threshold ≤ a.score) ∧
      predict threshold count (h.scores p now)
        = (ranked.take count).map SegmentScore.segment) ∧
    (predict threshold count (h.scores p now)).Nodup ∧
    (∀ a b, h.Scores p now a → h.Scores p now b → threshold ≤ b.score →
      a.segment ∈ predict threshold count (h.scores p now) →
      b.segment ∉ predict threshold count (h.scores p now) → a.IsBefore b) ∧
    ∀ (σ : Type) (access : Access σ History) (config : IntentConfig) (s : σ),
      (IntentModel.predict access config now s).result
        = (IntentModel.history access s).result.map fun h =>
            predict config.threshold 3
              (h.scores ⟨.ofSeconds config.windowSeconds, config.level⟩ now) := by
  have hpredict : predict threshold count (h.scores p now)
      = ((h.ranking p now threshold).take count).map SegmentScore.segment := rfl
  rw [hpredict]
  refine ⟨⟨_, h.pairwise_ranking p now threshold, fun a => History.mem_ranking, rfl⟩, ?_, ?_, ?_⟩
  · rw [List.map_take]
    exact (h.nodup_ranking p now threshold).sublist (List.take_sublist _ _)
  · intro a b ha hb hreaches htaken hleft
    obtain ⟨a', ha', hsegment⟩ := List.mem_map.1 htaken
    have hscores := History.mem_ranking.1 (List.mem_of_mem_take ha')
    cases hscores.1.eq ha hsegment
    refine isBefore_of_not_taken (h.pairwise_ranking p now threshold) ha'
      (History.mem_ranking.2 ⟨hb, hreaches⟩) fun hb' => hleft ?_
    exact List.mem_map_of_mem hb'
  · intro σ access config s
    rw [IntentModel.result_predict, IntentModel.history, Op.result_orFresh]
    rfl

/-- Hats and shoes have the same score, and one segment is predicted: the greater one. -/
theorem predicted_segments_ties :
    let h := (History.empty.append "hats" ⟨⟨0, 0⟩, 2⟩ 5).append "shoes" ⟨⟨0, 0⟩, 2⟩ 5
    let p : Scoring := ⟨.ofSeconds 60, 1⟩
    predict 1 1 (h.scores p ⟨1, 0⟩) = ["shoes"] ∧
      SegmentScore.IsBefore ⟨"shoes", 2⟩ ⟨"hats", 2⟩ := by
  intro h p
  have hunsorted : h.unsortedScores p ⟨1, 0⟩ = [⟨"hats", 2⟩, ⟨"shoes", 2⟩] := by decide +kernel
  have hscores : h.scores p ⟨1, 0⟩ = [⟨"hats", 2⟩, ⟨"shoes", 2⟩] := by
    change (h.unsortedScores p ⟨1, 0⟩).mergeSort _ = _
    rw [hunsorted]
    exact List.mergeSort_of_pairwise (by decide)
  have hpredicted : predict 1 1 (h.scores p ⟨1, 0⟩) = ["shoes"] := by rw [hscores]; rfl
  have hshoes : h.Scores p ⟨1, 0⟩ ⟨"shoes", 2⟩ := History.mem_scores.1 (by simp [hscores])
  have hhats : h.Scores p ⟨1, 0⟩ ⟨"hats", 2⟩ := History.mem_scores.1 (by simp [hscores])
  refine ⟨hpredicted, ?_⟩
  refine (predicted_segments h p ⟨1, 0⟩ 1 1).2.2.1 _ _ hshoes hhats (by decide) ?_ ?_
  · simp [hpredicted]
  · simp [hpredicted]

end Audience
