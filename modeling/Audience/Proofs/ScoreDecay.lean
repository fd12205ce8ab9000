import Audience.Proofs.LiveScores
import Audience.Proofs.Prediction

/-! # Scores decay

As time passes entries cease to count and none begins to. With a longer window more of them count,
also where it is cut off at the longest span or reaches beyond the calendar. So what counts later or
with a shorter window is part of what counts now, and neither the walk that stops at the first
decayed entry nor the cut at the greatest score turns this around.

* **`Entry.IsLive.mono`** — what is live is live earlier and with a longer window.
* **`liveEntries_sublist`** — the live entries later are some of those now.
* **`Scoring.IsWithin p p'`** — a scoring has no longer window and no higher level than another one.
* **`score?_mono`** — the scores of entries.
* **`History.Reaches h p now threshold s`** — a segment has a score that reaches a threshold.
* **`scores_decay`** — the scores of a history. -/

namespace Audience

/-! ## Live entries -/

/-- A live entry is live at any earlier time and with any longer window. -/
theorem Entry.IsLive.mono {e : Entry} {window window' : Span} {now now' : Instant}
    (he : e.time.IsPlain) (hwindow : 0 ≤ window.totalNanos)
    (hlonger : window.totalNanos ≤ window'.totalNanos) (hnow : now.totalNanos ≤ now'.totalNanos)
    (h : e.IsLive window now') : e.IsLive window' now := by
  have hstart := ((Instant.inCalendar_iff_inRange he.2).1 he.1).1
  rcases h with h | h
  · exact .inl (by omega)
  · -- a window can leave the calendar at its end only, and the longer one leaves it there too
    refine .inr fun hrange => h ⟨by omega, ?_⟩
    have hend := hrange.2
    omega

/-- The entries that are live later or with a shorter window are some of the live ones. -/
theorem liveEntries_sublist {window window' : Span} {now now' : Instant} {es : List Entry}
    (hplain : ∀ e ∈ es, e.time.IsPlain) (hwindow : 0 ≤ window.totalNanos)
    (hlonger : window.totalNanos ≤ window'.totalNanos) (hnow : now.totalNanos ≤ now'.totalNanos) :
    (liveEntries window now' es).Sublist (liveEntries window' now es) := by
  have hfilter : liveEntries window now' es
      = (liveEntries window' now es).filter (fun e => decide (e.IsLive window now')) := by
    rw [liveEntries, liveEntries, List.filter_filter]
    refine List.filter_congr fun e he => ?_
    rw [Bool.eq_iff_iff, Bool.and_eq_true, decide_eq_true_eq, decide_eq_true_eq]
    exact ⟨fun h => ⟨h, h.mono (hplain e he) hwindow hlonger hnow⟩, And.left⟩
  rw [hfilter]
  exact List.filter_sublist

/-! ## Scores of entries -/

/-- Some of the entries weigh no more than all of them. -/
theorem totalWeight_le_of_sublist {es es' : List Entry} (h : es.Sublist es') :
    totalWeight es ≤ totalWeight es' := by
  induction h with
  | slnil => exact Nat.le_refl _
  | cons e _ ih => exact Nat.le_trans ih (Nat.le_add_left _ _)
  | cons_cons e _ ih => exact Nat.add_le_add_left ih _

/-- Cutting off keeps the order of scores. -/
theorem saturate_le_saturate {a b : Nat} (h : a ≤ b) : saturate a ≤ saturate b := by
  simp only [saturate]
  omega

/-- A scoring has a window that does not go back and is no longer than that of another one, and its
level is no higher. -/
structure Scoring.IsWithin (p p' : Scoring) : Prop where
  forward : 0 ≤ p.window.totalNanos
  window : p.window.totalNanos ≤ p'.window.totalNanos
  level : p.level ≤ p'.level

/-- Entries that have a score have one at any earlier time and by any wider scoring, and it is no
lower. -/
theorem score?_mono {p p' : Scoring} (hp : p.IsWithin p') {now now' : Instant}
    (hnow : now.IsPlain) (hnow' : now'.IsPlain) (hle : now.le now' = true) {es : List Entry}
    (horder : NewestFirst es) (hplain : ∀ e ∈ es, e.time.IsPlain) {score : Nat}
    (hscore : score? p now' es = some score) :
    ∃ score', score? p' now es = some score' ∧ score ≤ score' := by
  have hsublist := liveEntries_sublist hplain hp.forward hp.window
    ((Instant.le_iff_totalNanos hnow.2 hnow'.2).1 hle)
  rw [score?_newestFirst hnow' hp.forward horder hplain] at hscore
  rw [score?_newestFirst hnow (Int.le_trans hp.forward hp.window) horder hplain]
  split at hscore
  next => cases hscore
  next hlive =>
    cases hscore
    -- what is live later is live now as well, so there is a score also if all weights are zero
    have hlive' : liveEntries p'.window now es ≠ [] := by
      intro hnil
      rw [hnil, List.sublist_nil] at hsublist
      exact hlive hsublist
    rw [if_neg hlive']
    exact ⟨_, rfl, saturate_le_saturate
      (Nat.mul_le_mul hp.level (totalWeight_le_of_sublist hsublist))⟩

/-! ## Scores of histories -/

/-- More seconds are no shorter span, also where it is cut off at the longest one. -/
theorem Span.totalNanos_ofSeconds_mono {n n' : Nat} (h : n ≤ n') :
    (ofSeconds n).totalNanos ≤ (ofSeconds n').totalNanos := by
  rw [ofSeconds, ofSeconds]
  split <;> split
  all_goals
    simp only [longest, longestSeconds, totalNanos, nanosPerSecond] at *
    omega

/-- Settings with no more seconds and no higher level. -/
theorem IntentConfig.isWithin_scoring {config config' : IntentConfig}
    (hwindow : config.windowSeconds ≤ config'.windowSeconds)
    (hlevel : config.level ≤ config'.level) : config.scoring.IsWithin config'.scoring :=
  ⟨Span.totalNanos_ofSeconds_nonneg _, Span.totalNanos_ofSeconds_mono hwindow, hlevel⟩

namespace History

/-- A segment has a score that reaches a threshold. -/
def Reaches (h : History) (p : Scoring) (now : Instant) (threshold : Nat) (s : Segment) : Prop :=
  ∃ a ∈ h.scores p now, a.segment = s ∧ threshold ≤ a.score

/-- The scores of a history at an earlier time and by a wider scoring. -/
theorem scores_mono {h : History} (hplain : h.IsPlain) {p p' : Scoring} (hp : p.IsWithin p')
    {now now' : Instant} (hnow : now.IsPlain) (hnow' : now'.IsPlain) (hle : now.le now' = true)
    {a : SegmentScore} (ha : a ∈ h.scores p now') :
    ∃ b ∈ h.scores p' now, b.segment = a.segment ∧ a.score ≤ b.score := by
  obtain ⟨t, ht, hscore⟩ := mem_scores.1 ha
  have htimes := hplain t (List.mem_map_of_mem (Dict.get?_eq_some_iff.1 ht))
  obtain ⟨score', hscore', hgreater⟩ := score?_mono hp hnow hnow' hle t.newestFirst htimes hscore
  exact ⟨⟨a.segment, score'⟩, mem_scores.2 ⟨t, ht, hscore'⟩, rfl, hgreater⟩

end History

/-- A segment that has a score has one at any earlier time, with any longer window and any higher
level, and it is no lower. So while nothing is recorded no segment comes to reach a threshold, and a
longer window neither drops a segment nor lowers its score. -/
theorem scores_decay {h : History} (hplain : h.IsPlain) {now now' : Instant} (hnow : now.IsPlain)
    (hnow' : now'.IsPlain) (hle : now.le now' = true) :
    (∀ config config' : IntentConfig, config.windowSeconds ≤ config'.windowSeconds →
      config.level ≤ config'.level → ∀ a ∈ h.scores config.scoring now',
        ∃ b ∈ h.scores config'.scoring now, b.segment = a.segment ∧ a.score ≤ b.score) ∧
    (∀ (config : IntentConfig) (threshold : Nat) (s : Segment),
      h.Reaches config.scoring now' threshold s → h.Reaches config.scoring now threshold s) ∧
    ∀ (config : IntentConfig) (seconds : Nat), config.windowSeconds ≤ seconds →
      ∀ a ∈ h.scores config.scoring now,
        ∃ b ∈ h.scores { config with windowSeconds := seconds }.scoring now,
          b.segment = a.segment ∧ a.score ≤ b.score := by
  refine ⟨?_, ?_, ?_⟩
  · intro config config' hwindow hlevel a ha
    have hscoring := IntentConfig.isWithin_scoring hwindow hlevel
    exact History.scores_mono hplain hscoring hnow hnow' hle ha
  · rintro config threshold s ⟨a, ha, rfl, hreaches⟩
    have hscoring := config.isWithin_scoring (Nat.le_refl _) (Nat.le_refl _)
    obtain ⟨b, hb, hsegment, hgreater⟩ := History.scores_mono hplain hscoring hnow hnow' hle ha
    exact ⟨b, hb, hsegment, Nat.le_trans hreaches hgreater⟩
  · intro config seconds hlonger a ha
    have hscoring : config.scoring.IsWithin { config with windowSeconds := seconds }.scoring :=
      IntentConfig.isWithin_scoring hlonger (Nat.le_refl _)
    have hsame : now.le now = true := (Instant.le_iff_totalNanos hnow.2 hnow.2).2 (Int.le_refl _)
    exact History.scores_mono hplain hscoring hnow hnow hsame ha

/-- The newer of two entries gives shoes six points within a minute. Before, and with a window that
reaches beyond the calendar, both count and there are no fewer. -/
theorem scores_decay_shoes :
    let h := (History.empty.append "shoes" ⟨⟨0, 0⟩, 2⟩ 5).append "shoes" ⟨⟨100, 0⟩, 3⟩ 5
    ⟨"shoes", 6⟩ ∈ h.scores (IntentConfig.scoring ⟨true, 1, 60, 2, 5, 1⟩) ⟨110, 0⟩ ∧
      ∃ b ∈ h.scores (IntentConfig.scoring ⟨true, 1, 18446744073709551615, 3, 5, 1⟩) ⟨50, 5⟩,
        b.segment = "shoes" ∧ 6 ≤ b.score := by
  intro h
  have hplain : h.IsPlain :=
    .append (.append (fun _ ht => absurd ht List.not_mem_nil) _ (by decide) _) _ (by decide) _
  have hshoes : h.Scores (IntentConfig.scoring ⟨true, 1, 60, 2, 5, 1⟩) ⟨110, 0⟩ ⟨"shoes", 6⟩ :=
    ⟨_, rfl, by decide +kernel⟩
  refine ⟨History.mem_scores.2 hshoes, ?_⟩
  have hnow : Instant.IsPlain ⟨50, 5⟩ := by decide
  exact (scores_decay hplain hnow (by decide) (by decide)).1 _ _ (by decide) (by decide) _
    (History.mem_scores.2 hshoes)

end Audience
