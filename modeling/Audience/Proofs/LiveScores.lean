import Audience.Intent.Model
import Audience.Proofs.HistoryCodec
import Audience.Proofs.StoreView

/-! # Scores count every live entry

The score of a trail is added up from its newest entry to the first one that is decayed, and cut off
at every step. Trails are newest first and the live entries of such a list come first, so nothing
live is left out; and cutting off at every step is cutting off at the end.

* **`Entry.IsLive e window now`** — whether an entry counts, in nanoseconds without bounds.
* **`totalWeight es`** — the sum of the weights of entries.
* **`score?_newestFirst`** — the score of entries that are newest first.
* **`score?_of_decoded`** — the scores of a history that was decoded and appended to. -/

namespace Audience

/-! ## Time in nanoseconds -/

namespace Instant

/-- Whether a number of nanoseconds from the start of 1970 is within the calendar. -/
def InRange (n : Int) : Prop :=
  firstSecond * nanosPerSecond ≤ n ∧ n < (lastSecond + 1) * nanosPerSecond

instance (n : Int) : Decidable (InRange n) := inferInstanceAs (Decidable (_ ∧ _))

/-- Outside of leap seconds, instants are ordered by their nanoseconds. -/
theorem le_iff_totalNanos {a b : Instant} (ha : a.nanos < nanosPerSecond)
    (hb : b.nanos < nanosPerSecond) : a.le b = true ↔ a.totalNanos ≤ b.totalNanos := by
  simp only [le, totalNanos, decide_eq_true_eq, nanosPerSecond] at *
  omega

/-- Outside of leap seconds, an instant is within the calendar when its nanoseconds are. -/
theorem inCalendar_iff_inRange {t : Instant} (h : t.nanos < nanosPerSecond) :
    t.inCalendar = true ↔ InRange t.totalNanos := by
  rw [inCalendar, decide_eq_true_eq, InRange]
  simp only [totalNanos, nanosPerSecond, firstSecond, lastSecond] at *
  omega

/-- The instant of a number of nanoseconds is not part of a leap second. -/
theorem nanos_ofTotalNanos_lt (n : Int) : (ofTotalNanos n).nanos < nanosPerSecond := by
  simp only [ofTotalNanos, nanosPerSecond]
  omega

/-- The instant of a number of nanoseconds has that number. -/
theorem totalNanos_ofTotalNanos (n : Int) : (ofTotalNanos n).totalNanos = n := by
  simp only [ofTotalNanos, totalNanos, nanosPerSecond]
  omega

/-- Outside of leap seconds, an instant moves by the nanoseconds of a span. -/
theorem add?_eq {t : Instant} (h : t.nanos < nanosPerSecond) (s : Span) :
    t.add? s = if InRange (t.totalNanos + s.totalNanos) then
      some (ofTotalNanos (t.totalNanos + s.totalNanos)) else none := by
  have hleap : t.isLeap = false := by simpa [isLeap] using h
  have hrange := inCalendar_iff_inRange (nanos_ofTotalNanos_lt (t.totalNanos + s.totalNanos))
  rw [totalNanos_ofTotalNanos] at hrange
  simp [add?, hleap, shift, hrange]

end Instant

/-! ## Live entries -/

namespace Entry

/-- Whether an entry counts: its window has not passed, or reaches beyond the calendar. -/
def IsLive (e : Entry) (window : Span) (now : Instant) : Prop :=
  now.totalNanos < e.time.totalNanos + window.totalNanos ∨
    ¬Instant.InRange (e.time.totalNanos + window.totalNanos)

instance (e : Entry) (window : Span) (now : Instant) : Decidable (e.IsLive window now) :=
  inferInstanceAs (Decidable (_ ∨ _))

variable {window : Span} {now : Instant}

/-- The entries that are not decayed are the live ones. -/
theorem isDecayed_eq {e : Entry} (he : e.time.IsPlain) (hnow : now.IsPlain) :
    e.isDecayed window now = decide (¬e.IsLive window now) := by
  rw [isDecayed, Instant.add?_eq he.2, Bool.eq_iff_iff, decide_eq_true_eq, IsLive]
  by_cases hrange : Instant.InRange (e.time.totalNanos + window.totalNanos)
  · simp only [if_pos hrange]
    rw [Instant.le_iff_totalNanos (Instant.nanos_ofTotalNanos_lt _) hnow.2,
      Instant.totalNanos_ofTotalNanos]
    simp [hrange]
  · simp [hrange]

/-- With a window that does not go back, an entry that may stand before a live one is live. -/
theorem IsLive.of_precedes {a b : Entry} (hab : a.precedes b = true) (ha : a.time.IsPlain)
    (hb : b.time.IsPlain) (hwindow : 0 ≤ window.totalNanos) (h : b.IsLive window now) :
    a.IsLive window now := by
  have horder : b.time.totalNanos ≤ a.time.totalNanos :=
    (Instant.le_iff_totalNanos hb.2 ha.2).1 hab
  have hstart := ((Instant.inCalendar_iff_inRange hb.2).1 hb.1).1
  rcases h with h | h
  · exact .inl (by omega)
  · -- the window of the older entry ends after the calendar, and so does the other one
    refine .inr fun hrange => h ⟨?_, ?_⟩
    · omega
    · have := hrange.2
      omega

end Entry

/-- A span of seconds does not go back. -/
theorem Span.totalNanos_ofSeconds_nonneg (n : Nat) : 0 ≤ (Span.ofSeconds n).totalNanos := by
  rw [ofSeconds]
  split
  · simp only [totalNanos, nanosPerSecond]
    omega
  · decide

/-- The live entries among some, in their order. -/
def liveEntries (window : Span) (now : Instant) (es : List Entry) : List Entry :=
  es.filter (fun e => decide (e.IsLive window now))

/-- After a decayed entry no older one is live. -/
theorem liveEntries_eq_nil {window : Span} {now : Instant} {e : Entry} {es : List Entry}
    (hwindow : 0 ≤ window.totalNanos) (horder : NewestFirst (e :: es))
    (hplain : ∀ x ∈ e :: es, x.time.IsPlain) (he : ¬e.IsLive window now) :
    liveEntries window now es = [] := by
  rw [liveEntries, List.filter_eq_nil_iff]
  intro x hx hlive
  have hbefore := (List.pairwise_cons.1 horder).1 x hx
  exact he (.of_precedes hbefore (hplain e List.mem_cons_self)
    (hplain x (List.mem_cons_of_mem _ hx)) hwindow (of_decide_eq_true hlive))

/-! ## Scores -/

/-- The sum of the weights of entries. -/
def totalWeight (es : List Entry) : Nat := es.foldr (fun e n => e.weight.toNat + n) 0

/-- The sum of one more weight. -/
theorem totalWeight_cons (e : Entry) (es : List Entry) :
    totalWeight (e :: es) = e.weight.toNat + totalWeight es := rfl

/-- A summand may be cut off before the sum is. -/
theorem saturate_add_saturate (a b : Nat) : saturate (a + saturate b) = saturate (a + b) := by
  simp only [saturate, greatestScore]
  omega

/-- The score of entries that are newest first, on top of the score of the entries before them. -/
theorem scoreFrom_newestFirst {p : Scoring} {now : Instant} (hnow : now.IsPlain)
    (hwindow : 0 ≤ p.window.totalNanos) {es : List Entry} (horder : NewestFirst es)
    (hplain : ∀ e ∈ es, e.time.IsPlain) (score : Option Nat) :
    scoreFrom p now score es = if liveEntries p.window now es = [] then score
      else some (saturate (score.getD 0
        + p.level * totalWeight (liveEntries p.window now es))) := by
  induction es generalizing score with
  | nil => rfl
  | cons e es ih =>
    have hes : ∀ x ∈ es, x.time.IsPlain := fun x hx => hplain x (List.mem_cons_of_mem _ hx)
    rw [scoreFrom, Entry.isDecayed_eq (hplain e List.mem_cons_self) hnow]
    by_cases he : e.IsLive p.window now
    · -- a live entry adds its points, and the walk goes on
      have hlive : liveEntries p.window now (e :: es) = e :: liveEntries p.window now es :=
        List.filter_cons_of_pos (decide_eq_true he)
      rw [if_neg (by simpa using he), ih (List.pairwise_cons.1 horder).2 hes, hlive,
        if_neg (List.cons_ne_nil _ _), totalWeight_cons, Nat.mul_add, Option.getD_some,
        Entry.points, saturate_add_saturate]
      by_cases hnil : liveEntries p.window now es = []
      · rw [if_pos hnil, hnil]
        rfl
      · rw [if_neg hnil, Nat.add_comm (saturate _), saturate_add_saturate, Nat.add_comm _ (_ + _),
          Nat.add_assoc]
    · -- the walk stops, and nothing that it has not seen is live
      have hnil := liveEntries_eq_nil hwindow horder hplain he
      have hlive : liveEntries p.window now (e :: es) = liveEntries p.window now es :=
        List.filter_cons_of_neg (by simpa using he)
      rw [if_pos (by simpa using he), hlive, if_pos hnil]

/-- The score of entries that are newest first counts all live ones. -/
theorem score?_newestFirst {p : Scoring} {now : Instant} (hnow : now.IsPlain)
    (hwindow : 0 ≤ p.window.totalNanos) {es : List Entry} (horder : NewestFirst es)
    (hplain : ∀ e ∈ es, e.time.IsPlain) :
    score? p now es = if liveEntries p.window now es = [] then none
      else some (saturate (p.level * totalWeight (liveEntries p.window now es))) := by
  rw [score?, scoreFrom_newestFirst hnow hwindow horder hplain, Option.getD_none, Nat.zero_add]

/-! ## Histories -/

/-- One appending: a segment, an entry and the number of entries that stay. -/
structure Appending where
  segment : Segment
  entry : Entry
  cap : Nat

namespace History

/-- A history with entries appended one after another. -/
def appendAll (h : History) (appendings : List Appending) : History :=
  appendings.foldl (fun h a => h.append a.segment a.entry a.cap) h

variable {h : History}

/-- Appending a plain entry keeps a history plain. -/
theorem IsPlain.append (hplain : h.IsPlain) (s : Segment) {e : Entry} (he : e.time.IsPlain)
    (cap : Nat) : (h.append s e cap).IsPlain := EachTime.append hplain s he cap

/-- Appending plain entries keeps a history plain. -/
theorem IsPlain.appendAll (hplain : h.IsPlain) {appendings : List Appending}
    (htimes : ∀ a ∈ appendings, a.entry.time.IsPlain) : (h.appendAll appendings).IsPlain := by
  induction appendings generalizing h with
  | nil => exact hplain
  | cons a rest ih =>
    exact ih (hplain.append a.segment (htimes a List.mem_cons_self) a.cap)
      fun b hb => htimes b (List.mem_cons_of_mem _ hb)

end History

/-- The scores of a history that was decoded from a text and appended to: a trail without a live
entry has none, and any other one has the weights of all its live entries times the level, cut off
at the greatest word. -/
theorem score?_of_decoded {text : String} {h : History}
    (hdecoded : Store.decoded History.ofJson? text = some h)
    (hnanos : ∀ t ∈ h.trails.values, ∀ e ∈ t.entries, e.time.nanos < nanosPerSecond)
    (appendings : List Appending) (htimes : ∀ a ∈ appendings, a.entry.time.IsPlain)
    (config : IntentConfig) {now : Instant} (hnow : now.IsPlain) {s : Segment} {t : Trail}
    (ht : (h.appendAll appendings).trails.get? s = some t) :
    score? config.scoring now t.entries =
      if liveEntries config.window now t.entries = [] then none
      else some (min 18446744073709551615
        (config.level * totalWeight (liveEntries config.window now t.entries))) := by
  -- decoding admits times of the calendar only
  have hstart : h.IsPlain := by
    intro t ht e he
    rw [Store.decoded, Option.bind_eq_some_iff] at hdecoded
    obtain ⟨v, _, hv⟩ := hdecoded
    exact ⟨History.inCalendar_of_ofJson? hv ht he, hnanos t ht e he⟩
  have hplain := hstart.appendAll htimes t (List.mem_map_of_mem (Dict.get?_eq_some_iff.1 ht))
  rw [score?_newestFirst hnow (Span.totalNanos_ofSeconds_nonneg _) t.newestFirst hplain,
    Nat.min_comm]
  rfl

/-- A stored entry and a newer one that is appended both count. -/
theorem score?_of_decoded_shoes :
    score? (IntentConfig.scoring ⟨true, 0, 3600, 7, 2, 1⟩) ⟨200, 0⟩
      ((Trail.single ⟨⟨60, 0⟩, 3⟩).insert ⟨⟨100, 5⟩, 2⟩ 2).entries = some 35 := by
  have hplain : (History.empty.append "shoes" ⟨⟨60, 0⟩, 3⟩ 2).IsPlain :=
    History.IsPlain.append (fun _ ht => absurd ht List.not_mem_nil) _ (by decide) _
  have hscore := score?_of_decoded (History.decode_render hplain)
    (fun t ht e he => (hplain t ht e he).2) [⟨"shoes", ⟨⟨100, 5⟩, 2⟩, 2⟩] (by decide)
    ⟨true, 0, 3600, 7, 2, 1⟩ (show Instant.IsPlain ⟨200, 0⟩ by decide) (s := "shoes")
    (t := (Trail.single ⟨⟨60, 0⟩, 3⟩).insert ⟨⟨100, 5⟩, 2⟩ 2) rfl
  rw [hscore]
  decide

end Audience
