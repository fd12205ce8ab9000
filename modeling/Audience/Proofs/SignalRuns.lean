import Audience.Intent.Model
import Audience.Proofs.HistoryCodec
import Audience.Proofs.Sorting
import Audience.Proofs.StoreView

/-! # The history of a run of signals

A trail is kept by putting each entry at its place and cutting the trail off, through the stored
text at every step. What is left after a run is what sorting all entries at once leaves.

* **`newest cap es`** — the newest of entries in order of recording, the later recorded first among
  those of one time.
* **`History.Traces h cap log`** — the trails of a history are the newest entries of a log.
* **`buyAll signals r`** — records signals one after another.
* **`trails_of_signals`** — the trails that are loaded after a run. -/

namespace Audience

/-! ## Placing and sorting -/

/-- An entry is placed behind the newer entries and in front of the others. -/
theorem place_eq (e : Entry) (es : List Entry) :
    place e es = es.takeWhile (fun x => !e.precedes x) ++ e :: es.dropWhile (fun x => !e.precedes x)
    := by
  induction es with
  | nil => rfl
  | cons x xs ih =>
    rw [place, List.takeWhile_cons, List.dropWhile_cons]
    by_cases hx : x.time.le e.time = true
    · simp [Entry.precedes, hx]
    · simp [Entry.precedes, hx, ih]

/-- Sorting one more entry puts it at its place. -/
theorem sorted_cons (e : Entry) (es : List Entry) :
    Trail.sorted (e :: es) = place e (Trail.sorted es) := by
  rw [place_eq]
  exact mergeSort_cons_eq Entry.precedes_trans Entry.precedes_total e es

/-- What is cut off before an entry is placed would be cut off afterwards. -/
theorem take_place_take (n : Nat) (e : Entry) (es : List Entry) :
    (place e (es.take n)).take n = (place e es).take n := by
  rw [place_eq, place_eq, take_insert_take]

/-- The newest of entries in order of recording, the later recorded first among those of one
time. -/
def newest (cap : Nat) (es : List Entry) : List Entry := (Trail.sorted es.reverse).take cap

/-- Recording one more entry puts it at its place among the newest. -/
theorem newest_concat (cap : Nat) (es : List Entry) (e : Entry) :
    newest cap (es ++ [e]) = (place e (newest cap es)).take cap := by
  rw [newest, newest, List.reverse_append, List.reverse_singleton, List.singleton_append,
    sorted_cons, take_place_take]

/-! ## Histories -/

/-- What is recorded for which segment, in order. -/
abbrev SegmentLog := List (Segment × Entry)

/-- The entries of a segment in order of recording. -/
def SegmentLog.entriesOf (log : SegmentLog) (s : Segment) : List Entry :=
  (log.filter (fun p => p.1 == s)).map Prod.snd

/-- What a signal records: its entry for each of its segments in turn. -/
def Signal.log (s : Signal) : SegmentLog := s.segments.map (fun g => (g, s.entry))

/-- What signals record, one after another. -/
def SegmentLog.ofSignals (signals : List Signal) : SegmentLog := signals.flatMap Signal.log

/-- The segments of a log are those that the signals name. -/
theorem SegmentLog.mem_segments_ofSignals (signals : List Signal) (g : Segment) :
    g ∈ (ofSignals signals).map Prod.fst ↔ g ∈ signals.flatMap Signal.segments := by
  have hsegments : ∀ s : Signal, s.log.map Prod.fst = s.segments := by
    intro s
    rw [Signal.log, List.map_map]
    exact List.map_id _
  rw [ofSignals, List.map_flatMap]
  simp only [hsegments]

namespace History

/-- The trails of a history are the newest entries of a log, for exactly the segments in it. -/
def Traces (h : History) (cap : Nat) (log : SegmentLog) : Prop :=
  ∀ s, (h.trails.get? s).map Trail.entries
    = if s ∈ log.map Prod.fst then some (newest cap (log.entriesOf s)) else none

/-- The empty history traces the empty log. -/
theorem traces_empty (cap : Nat) : empty.Traces cap [] := fun _ => rfl

variable {h : History} {cap : Nat} {log : SegmentLog}

/-- Appending an entry traces the log with that entry. -/
theorem Traces.append (hcap : 1 ≤ cap) (hlog : h.Traces cap log) (s : Segment) (e : Entry) :
    (h.append s e cap).Traces cap (log ++ [(s, e)]) := by
  intro s'
  have hs := hlog s'
  rw [History.append, Dict.get?_insert, List.map_append, List.map_singleton]
  by_cases hne : s' = s
  · subst hne
    have hlast : (log ++ [(s', e)]).entriesOf s' = log.entriesOf s' ++ [e] := by
      simp [SegmentLog.entriesOf]
    rw [if_pos rfl, if_pos (List.mem_append_right _ List.mem_cons_self), hlast, Option.map_some,
      Option.some.injEq, newest_concat]
    cases htrail : h.trails.get? s' with
    | some t =>
      -- the trail holds the newest entries so far
      by_cases hmem : s' ∈ log.map Prod.fst
      · rw [htrail, if_pos hmem, Option.map_some, Option.some.injEq] at hs
        rw [← hs]
        exact congrArg (fun n => (place e t.entries).take n) (Nat.max_eq_left hcap)
      · rw [htrail, if_neg hmem] at hs
        cases hs
    | none =>
      -- the segment is new, so nothing was recorded for it
      by_cases hmem : s' ∈ log.map Prod.fst
      · rw [htrail, if_pos hmem] at hs
        cases hs
      · have hnone : log.entriesOf s' = [] := by
          rw [SegmentLog.entriesOf, List.map_eq_nil_iff, List.filter_eq_nil_iff]
          intro p hp hps
          exact hmem (List.mem_map.2 ⟨p, hp, beq_iff_eq.1 hps⟩)
        have hfirst : newest cap [] = [] := by simp [newest, Trail.sorted]
        rw [hnone, hfirst]
        exact (List.take_of_length_le hcap).symm
  · have hsame : (log ++ [(s, e)]).entriesOf s' = log.entriesOf s' := by
      simp [SegmentLog.entriesOf, Ne.symm hne]
    rw [if_neg hne, hs, hsame]
    by_cases hmem : s' ∈ log.map Prod.fst
    · rw [if_pos hmem, if_pos (List.mem_append_left _ hmem)]
    · rw [if_neg hmem, if_neg]
      intro h
      rcases List.mem_append.1 h with h | h
      · exact hmem h
      · exact hne (List.mem_singleton.1 h)

/-- Recording a signal traces the log with what the signal records. -/
theorem Traces.record (hcap : 1 ≤ cap) (hlog : h.Traces cap log) (signal : Signal) :
    (h.record signal cap).Traces cap (log ++ signal.log) := by
  rw [History.record, Signal.log]
  generalize signal.segments = segments
  induction segments generalizing h log with
  | nil =>
    rw [List.map_nil, List.append_nil]
    exact hlog
  | cons s rest ih =>
    have hrest := ih (hlog.append hcap s signal.entry)
    rw [List.append_assoc, List.singleton_append] at hrest
    exact hrest

/-- The times of a history are among those of its log. -/
theorem Traces.isPlain (hlog : h.Traces cap log) (hplain : ∀ p ∈ log, p.2.time.IsPlain) :
    h.IsPlain := by
  intro t ht e he
  obtain ⟨⟨s, _⟩, hmem, rfl⟩ := List.mem_map.1 ht
  have hs := hlog s
  rw [Dict.get?_eq_some_iff.2 hmem, Option.map_some] at hs
  split at hs
  · rw [Option.some.inj hs] at he
    have hentry : e ∈ log.entriesOf s := by
      have h := List.mem_mergeSort.1 (List.mem_of_mem_take he)
      exact List.mem_reverse.1 h
    obtain ⟨p, hp, rfl⟩ := List.mem_map.1 hentry
    exact hplain p (List.mem_filter.1 hp).1
  · cases hs

end History

/-! ## The store -/

/-- The store keeps a history that traces a log of plain times; without entries it may keep none. -/
def Store.Records (s : Store) (cap : Nat) (log : SegmentLog) : Prop :=
  (∀ p ∈ log, p.2.time.IsPlain) ∧ ∃ rows h, s.Keeps rows ∧ h.Traces cap log ∧
    (rows.get? Store.historyKey = some (.text (History.toJson h).render)
      ∨ rows.get? Store.historyKey = none ∧ h = .empty)

namespace Store.Records

variable {s : Store} {cap : Nat} {log : SegmentLog}

/-- What a recording store loads traces its log. -/
theorem load (hs : s.Records cap log) : ∃ h, Store.history.load s = ⟨.ok h, s, []⟩
    ∧ h.Traces cap log := by
  obtain ⟨hplain, rows, h, hkeeps, htraces, hrow⟩ := hs
  refine ⟨h, ?_, htraces⟩
  have hload := hkeeps.load Store.historyKey History.ofJson? History.toJson .empty
  rcases hrow with hrow | ⟨hrow, rfl⟩
  · -- the text decodes to the history that was written
    rw [hrow, reading, decoded, History.decode_render (htraces.isPlain hplain)] at hload
    exact hload
  · -- nothing has been written yet
    rw [hrow] at hload
    exact hload

/-- Adding a signal to a recording store appends what the signal records to its log. -/
theorem update (hcap : 1 ≤ cap) (hs : s.Records cap log) {signal : Signal}
    (htime : signal.time.IsPlain) : ∃ s', IntentModel.update Store.history cap signal s
      = ⟨.ok (), s', []⟩ ∧ s'.Records cap (log ++ signal.log) := by
  obtain ⟨h, hload, htraces⟩ := hs.load
  obtain ⟨hplain, rows, _, hkeeps, _⟩ := hs
  have hhistory : IntentModel.history Store.history s = ⟨.ok h, s, []⟩ :=
    Op.orFresh_ok _ _ hload
  have hsave := hkeeps.save Store.historyKey History.ofJson? History.toJson .empty
    (h.record signal cap)
  refine ⟨_, ?_, ?_, rows.insert Store.historyKey (.text (h.record signal cap).toJson.render), _,
    hkeeps.withRows _, htraces.record hcap signal, .inl (Dict.get?_insert_self _ _ _)⟩
  · rw [IntentModel.update, Op.bind_ok hhistory, List.nil_append]
    exact hsave
  · intro p hp
    rcases List.mem_append.1 hp with hp | hp
    · exact hplain p hp
    · obtain ⟨g, _, rfl⟩ := List.mem_map.1 hp
      exact htime

end Store.Records

/-! ## Runs -/

/-- Whether a signal is accepted: it names segments, and all of them are usable. -/
def Signal.isValid (s : Signal) : Bool := !s.segments.isEmpty && s.segments.all Segment.isUsable

/-- There is no objection to exactly the valid signals. -/
theorem objection?_eq_none_iff {s : Signal} :
    IntentModel.objection? s = none ↔ s.isValid = true := by
  rw [IntentModel.objection?, Signal.isValid]
  cases s.segments.isEmpty <;> cases s.segments.all Segment.isUsable <;> simp

/-- A run of signals: the accepted ones, and the model and its store at the end. -/
structure SignalRun where
  accepted : List Signal
  final : Running IntentModel Store

/-- Records signals one after another, whether or not earlier ones were accepted. -/
def buyAll : List Signal → Running IntentModel Store → SignalRun
  | [], r => ⟨[], r⟩
  | s :: rest, r =>
    let out := IntentModel.buy Store.history s r
    let run := buyAll rest out.state
    match out.result with
    | .ok () => { run with accepted := s :: run.accepted }
    | .error _ => run

section Runs

variable {m : IntentModel} {s : Store} {log : SegmentLog}

/-- A signal that is not valid changes nothing. -/
theorem buy_of_not_isValid {signal : Signal} (h : signal.isValid = false)
    (r : Running IntentModel Store) :
    ∃ e, IntentModel.buy Store.history signal r = ⟨.error (.error e), r, []⟩ := by
  cases ho : IntentModel.objection? signal with
  | none =>
    rw [objection?_eq_none_iff.1 ho] at h
    cases h
  | some e =>
    refine ⟨e, ?_⟩
    rw [IntentModel.buy, ho]
    rfl

/-- A valid signal is recorded. -/
theorem buy_of_isValid (hlock : m.poisoned = false) (hcap : 1 ≤ m.config.trailCap)
    (hs : s.Records m.config.trailCap log) {signal : Signal} (hvalid : signal.isValid = true)
    (htime : signal.time.IsPlain) : ∃ s' l, IntentModel.buy Store.history signal ⟨m, s⟩
      = ⟨.ok (), ⟨m, s'⟩, l⟩ ∧ s'.Records m.config.trailCap (log ++ signal.log) := by
  obtain ⟨s', hupdate, hs'⟩ := hs.update hcap htime
  refine ⟨s', [⟨.debug, "purchase intent signal recorded", none⟩], ?_, hs'⟩
  rw [IntentModel.buy, objection?_eq_none_iff.2 hvalid]
  have hlocked := Op.underLock_ok (fun m => { m with poisoned := true }) hlock hupdate
  simp only [Op.bind_ofModel]
  rw [Op.bind_ok hlocked]
  rfl

/-- A run accepts the valid signals and records what they name. -/
theorem buyAll_records (hlock : m.poisoned = false) (hcap : 1 ≤ m.config.trailCap)
    (signals : List Signal) (htimes : ∀ x ∈ signals, x.time.IsPlain)
    (hs : s.Records m.config.trailCap log) :
    (buyAll signals ⟨m, s⟩).accepted = signals.filter Signal.isValid ∧
      (buyAll signals ⟨m, s⟩).final.store.Records m.config.trailCap
        (log ++ .ofSignals (signals.filter Signal.isValid)) := by
  induction signals generalizing s log with
  | nil =>
    rw [List.filter_nil, SegmentLog.ofSignals, List.flatMap_nil, List.append_nil]
    exact ⟨rfl, hs⟩
  | cons signal rest ih =>
    have hrest : ∀ x ∈ rest, x.time.IsPlain := fun x hx => htimes x (List.mem_cons_of_mem _ hx)
    by_cases hvalid : signal.isValid = true
    · obtain ⟨s', l, hbuy, hs'⟩ := buy_of_isValid hlock hcap hs hvalid
        (htimes signal List.mem_cons_self)
      obtain ⟨haccepted, hfinal⟩ := ih hrest hs'
      rw [List.append_assoc] at hfinal
      simp only [buyAll, hbuy]
      rw [List.filter_cons_of_pos hvalid, SegmentLog.ofSignals, List.flatMap_cons]
      exact ⟨congrArg (signal :: ·) haccepted, hfinal⟩
    · -- a signal that is refused changes neither the store nor the log
      rw [Bool.not_eq_true] at hvalid
      obtain ⟨e, hbuy⟩ := buy_of_not_isValid hvalid ⟨m, s⟩
      simp only [buyAll, hbuy]
      rw [List.filter_cons_of_neg (by rw [hvalid]; exact Bool.false_ne_true)]
      exact ih hrest hs

/-- The trails that are loaded after a run of signals over a store without a history: there is one
for exactly the segments that accepted signals name, and it holds the newest of all entries that
were ever accepted for the segment. -/
theorem trails_of_signals {rows : Dict Cell} (hlock : m.poisoned = false)
    (hcap : 1 ≤ m.config.trailCap) (hstore : s.Keeps rows)
    (hempty : rows.get? Store.historyKey = none) (signals : List Signal)
    (htimes : ∀ x ∈ signals, x.time.IsPlain) :
    (buyAll signals ⟨m, s⟩).accepted = signals.filter Signal.isValid ∧
      ∃ h, (Store.history.load (buyAll signals ⟨m, s⟩).final.store).result = .ok h ∧
        ∀ g, (h.trails.get? g).map Trail.entries =
          if g ∈ (buyAll signals ⟨m, s⟩).accepted.flatMap Signal.segments then
            some (newest m.config.trailCap
              ((SegmentLog.ofSignals (buyAll signals ⟨m, s⟩).accepted).entriesOf g))
          else none := by
  have hstart : s.Records m.config.trailCap [] :=
    ⟨fun _ hp => absurd hp List.not_mem_nil, rows, .empty, hstore, History.traces_empty _,
      .inr ⟨hempty, rfl⟩⟩
  obtain ⟨haccepted, hfinal⟩ := buyAll_records hlock hcap signals htimes hstart
  rw [List.nil_append] at hfinal
  obtain ⟨h, hload, htraces⟩ := hfinal.load
  refine ⟨haccepted, h, by rw [hload], fun g => ?_⟩
  rw [haccepted, htraces g]
  simp only [SegmentLog.mem_segments_ofSignals]

/-- A run over a new store: one signal is not valid, one names its segment twice, and one arrives
late. -/
theorem trails_of_signals_opened :
    let m : IntentModel := .new ⟨true, 0, 3600, 1, 2, 1⟩
    let signals : List Signal := [⟨⟨60, 5⟩, ["shoes", "shoes"], 1⟩, ⟨⟨70, 0⟩, [], 2⟩,
      ⟨⟨30, 999999999⟩, ["hats", "shoes"], 3⟩, ⟨⟨60, 5⟩, ["shoes"], 4⟩]
    let run := buyAll signals ⟨m, Store.opened .memory⟩
    run.accepted = signals.filter Signal.isValid ∧
      ∃ h, (Store.history.load run.final.store).result = .ok h ∧
        ∀ g, (h.trails.get? g).map Trail.entries =
          if g ∈ run.accepted.flatMap Signal.segments then
            some (newest 2 ((SegmentLog.ofSignals run.accepted).entriesOf g))
          else none :=
  trails_of_signals rfl (by decide) (Store.keeps_opened (by decide)) rfl _ (by decide)

end Runs

end Audience
