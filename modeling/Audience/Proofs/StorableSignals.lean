import Audience.Proofs.BoundedValues
import Audience.Proofs.LoadedResources

/-! # Signals of visits can be recorded

The rules that a resource follows when it is loaded are those that a signal has to follow when it is
recorded. So no signal of a visit is refused: over a store at work a visit is recorded for each of
the segments that its signal names, and the trails of all other segments are loaded afterwards as
they were loaded before. A visit that is no signal leaves the store as it was.

* **`IntentResource.IsSound.areUsable_of_signalOf?`** — the segments of a signal are usable.
* **`History.IsRecorded h signal h'`** — a history after a signal, by the segments that it names.
* **`History.isRecorded_record`** — what recording a signal does to the trails.
* **`History.IsStampable.isRecorded_reread`** — the same of the history that is read back.
* **`IntentModel.Serves`** — a model with its resource over a store at work.
* **`visits_are_recorded`** — visits are recorded, or are no signals. -/

namespace Audience

/-! ## Segments of signals -/

namespace IntentResource

variable {r : IntentResource} {now : Instant} {address : String} {signal : Signal}

/-- The site of a host is one of the resource. -/
theorem mem_of_siteFor? {host : String} {site : FunnelSite} (h : r.siteFor? host = some site) :
    site ∈ r.sites := List.mem_of_find?_eq_some h

/-- The segments of a signal are those of a site or of a keyword entry, so they are usable. -/
theorem IsSound.areUsable_of_signalOf? (hr : r.IsSound)
    (h : r.signalOf? now address = some signal) : Segment.AreUsable signal.segments := by
  simp only [signalOf?, Option.bind_eq_bind, Option.bind_eq_some_iff] at h
  obtain ⟨url, _, h⟩ := h
  split at h
  · rw [urlSignal?] at h
    split at h
    next site hsite =>
      obtain ⟨host, _, hsite⟩ := Option.bind_eq_some_iff.1 hsite
      cases h
      exact hr.sites site (mem_of_siteFor? hsite)
    next =>
      obtain ⟨query, _, h⟩ := Option.bind_eq_some_iff.1 h
      obtain ⟨k, hk, rfl⟩ := Option.map_eq_some_iff.1 h
      exact hr.keywords k (List.mem_of_find?_eq_some hk)
  · cases h

end IntentResource

/-- The valid signals are those of usable segments. -/
theorem Signal.isValid_iff_areUsable {signal : Signal} :
    signal.isValid = true ↔ Segment.AreUsable signal.segments := by
  simp [Signal.isValid, Segment.AreUsable]

/-! ## Trails of recorded signals -/

namespace History

variable {h h' : History} {signal : Signal} {cap : Nat}

/-- A history after a signal: the segments that it names have trails, and the trails of all others
are those of before. -/
structure IsRecorded (h : History) (signal : Signal) (h' : History) : Prop where
  named : ∀ g ∈ signal.segments, ∃ t, h'.trails.get? g = some t
  others : ∀ g, g ∉ signal.segments → h'.trails.get? g = h.trails.get? g

/-- Appending keeps the trails of all other segments. -/
theorem get?_append_of_ne (h : History) {g s : Segment} (hne : g ≠ s) (e : Entry) (cap : Nat) :
    (h.append s e cap).trails.get? g = h.trails.get? g := Dict.get?_insert_of_ne _ hne _

/-- Appending gives a trail to its segment and takes none away. -/
theorem exists_get?_append (h : History) {g s : Segment} (e : Entry) (cap : Nat)
    (htrail : g = s ∨ ∃ t, h.trails.get? g = some t) :
    ∃ t, (h.append s e cap).trails.get? g = some t := by
  by_cases heq : g = s
  · subst heq
    exact ⟨_, Dict.get?_insert_self _ _ _⟩
  · rw [get?_append_of_ne h heq]
    exact htrail.resolve_left heq

/-- Appending for some segments in turn keeps the trails of all others. -/
theorem get?_foldl_append_of_not_mem (h : History) {g : Segment} {segments : List Segment}
    (hg : g ∉ segments) (e : Entry) (cap : Nat) :
    (segments.foldl (fun h s => h.append s e cap) h).trails.get? g = h.trails.get? g := by
  induction segments generalizing h with
  | nil => rfl
  | cons s rest ih =>
    obtain ⟨hne, hrest⟩ := not_or.1 (mt List.mem_cons.2 hg)
    rw [List.foldl_cons, ih _ hrest, get?_append_of_ne h hne]

/-- Appending for some segments in turn gives a trail to each of them and takes none away. -/
theorem exists_get?_foldl_append (h : History) {g : Segment} {segments : List Segment}
    (htrail : g ∈ segments ∨ ∃ t, h.trails.get? g = some t) (e : Entry) (cap : Nat) :
    ∃ t, (segments.foldl (fun h s => h.append s e cap) h).trails.get? g = some t := by
  induction segments generalizing h with
  | nil => exact htrail.resolve_left List.not_mem_nil
  | cons s rest ih =>
    refine ih _ ?_
    by_cases hrest : g ∈ rest
    · exact .inl hrest
    · refine .inr (exists_get?_append h e cap ?_)
      exact htrail.imp_left fun hg => (List.mem_cons.1 hg).resolve_right hrest

/-- Recording a signal gives a trail to each of its segments and keeps the trails of all others. -/
theorem isRecorded_record (h : History) (signal : Signal) (cap : Nat) :
    h.IsRecorded signal (h.record signal cap) where
  named _ hg := exists_get?_foldl_append h (.inl hg) signal.entry cap
  others _ hg := get?_foldl_append_of_not_mem h hg signal.entry cap

/-- The history that is read back after a signal differs from a stampable one in nothing but the
trails of the segments that the signal names. -/
theorem IsStampable.isRecorded_reread (hstamps : h.IsStampable)
    (hrecorded : h.IsRecorded signal h') : h.IsRecorded signal h'.reread where
  named g hg :=
    have ⟨_, htrail⟩ := hrecorded.named g hg
    exists_get?_reread htrail
  others g hg := by
    rw [← hrecorded.others g hg]
    refine get?_reread_of_isStampable fun t htrail => ?_
    rw [hrecorded.others g hg] at htrail
    exact hstamps t (List.mem_map_of_mem (Dict.get?_eq_some_iff.1 htrail))

/-- The times of a history that is loaded are stampable. -/
theorem isStampable_of_load {s : Store} (hload : (Kind.intent.load s).result = .ok h) :
    h.IsStampable :=
  Kind.property_of_load (k := .intent) (P := IsStampable) .empty
    (fun _ _ => isStampable_of_decoded) hload

end History

/-! ## Visits -/

namespace IntentModel

variable {r : IntentResource} {m : IntentModel} {s : Store} {h : History} {signal : Signal}

/-- A model that has its resource and a sound lock, over a store that it loads a history from. -/
structure Serves (m : IntentModel) (s : Store) (r : IntentResource) (h : History) : Prop where
  resource : m.resource.content = some r
  lock : m.poisoned = false
  load : (history Store.history s).result = .ok h

/-- A signal without an objection is recorded, and what is loaded afterwards is the history of
before with this signal. -/
theorem buy_recorded (hm : m.Serves s r h) (hsignal : objection? signal = none)
    (htime : signal.time.inCalendar = true) :
    ∃ s' l h', buy Store.history signal ⟨m, s⟩ = ⟨.ok (), ⟨m, s'⟩, l⟩ ∧
      Store.history.load s' = ⟨.ok h', s', []⟩ ∧ h.IsRecorded signal h' := by
  have hload : (Kind.intent.load s).result = .ok h := hm.load
  obtain ⟨⟨rows, hs⟩, -⟩ := (Kind.intent.load_cases s).2 h hload
  let recorded := h.record signal m.config.trailCap
  let s' := s.withRows (rows.insert Store.historyKey (.text recorded.toJson.render))
  have hstamps : h.IsStampable := History.isStampable_of_load hload
  refine ⟨s', (buy Store.history signal ⟨m, s⟩).log, recorded.reread, ?_, ?_,
    hstamps.isRecorded_reread (h.isRecorded_record signal _)⟩
  · have hchange : m.change? signal = some fun h => History.record h signal m.config.trailCap := by
      rw [change?, hsignal]
      rfl
    have hchanges := m.changesBy_buy signal
    rw [hchange] at hchanges
    exact Outcome.eq_mk (hchanges.result_of_load hm.lock hs hload)
      (hchanges.state_of_load hm.lock hs hload)
  · have hcalendar : recorded.InCalendar := hstamps.inCalendar.record htime _
    have hread := (hs.withRows (rows.insert Store.historyKey (.text recorded.toJson.render))).load
      Store.historyKey History.ofJson? History.toJson .empty
    rw [Dict.get?_insert_self, Store.reading, Store.decoded, hcalendar.decode_render] at hread
    exact hread

/-- The signal of a visit is recorded as if it had been given. -/
theorem visit_of_signal {address : String} {now : Instant} (hm : m.resource.content = some r)
    (hsignal : r.signalOf? now address = some signal) {s' : Store} {l : List LogLine}
    (hbuy : buy Store.history signal ⟨m, s⟩ = ⟨.ok (), ⟨m, s'⟩, l⟩) :
    visit Store.history address now ⟨m, s⟩ = ⟨.ok (some signal), ⟨m, s'⟩, l⟩ := by
  rw [visit, Op.bind_ofModel]
  simp only [hm, hsignal]
  rw [Op.bind_ok hbuy, Op.pure_apply, List.append_nil]

/-- A visit that is no signal is ignored. -/
theorem visit_of_no_signal {address : String} {now : Instant} (hm : m.resource.content = some r)
    (hsignal : r.signalOf? now address = none) :
    visit Store.history address now ⟨m, s⟩ = ⟨.ok none, ⟨m, s⟩, []⟩ := by
  rw [visit, Op.bind_ofModel]
  simp only [hm, hsignal, Op.pure_apply]

end IntentModel

/-- Every signal of a visit by a resource that has been loaded has segments, none of them blank, and
is taken. Over a store that a history is loaded from, a visit gives its signal, and the history that
is stored then has trails for the segments that it names and for all others those that were loaded
before; or the visit is no signal and changes nothing. -/
theorem visits_are_recorded {json : String} {r : IntentResource}
    (hr : IntentResource.load json = .ok r) (address : String) {now : Instant}
    (hnow : now.inCalendar = true) :
    (∀ signal, r.signalOf? now address = some signal →
      signal.segments ≠ [] ∧ (∀ g ∈ signal.segments, allBlank g = false) ∧
        IntentModel.objection? signal = none) ∧
    ∀ m s h, IntentModel.Serves m s r h →
      (∃ signal s' l h', r.signalOf? now address = some signal ∧
        IntentModel.visit Store.history address now ⟨m, s⟩ = ⟨.ok (some signal), ⟨m, s'⟩, l⟩ ∧
        Store.history.load s' = ⟨.ok h', s', []⟩ ∧ h.IsRecorded signal h') ∨
      (r.signalOf? now address = none ∧
        IntentModel.visit Store.history address now ⟨m, s⟩ = ⟨.ok none, ⟨m, s⟩, []⟩) := by
  have hsound := (IntentResource.load_eq_ok_iff.1 hr).2
  have htaken : ∀ signal, r.signalOf? now address = some signal →
      IntentModel.objection? signal = none := by
    intro signal hsignal
    rw [objection?_eq_none_iff, Signal.isValid_iff_areUsable]
    exact hsound.areUsable_of_signalOf? hsignal
  refine ⟨fun signal hsignal => ?_, fun m s h hm => ?_⟩
  · obtain ⟨hsome, husable⟩ := hsound.areUsable_of_signalOf? hsignal
    refine ⟨hsome, fun g hg => ?_, htaken signal hsignal⟩
    simpa [Segment.isUsable] using husable g hg
  · cases hsignal : r.signalOf? now address with
    | none => exact .inr ⟨rfl, IntentModel.visit_of_no_signal hm.resource hsignal⟩
    | some signal =>
      have htime : signal.time.inCalendar = true := by
        rw [IntentResource.time_of_signalOf? hsignal]
        exact hnow
      obtain ⟨s', l, h', hbuy, hload, hrecorded⟩ :=
        IntentModel.buy_recorded hm (htaken signal hsignal) htime
      exact .inl ⟨signal, s', l, h', rfl, IntentModel.visit_of_signal hm.resource hsignal hbuy,
        hload, hrecorded⟩

/-- A visit to a funnel site over a history of hats: shoes are recorded and the hats are kept. -/
theorem visits_are_recorded_shoes :
    let json := "\x7b\"version\":1,\"sites\":[\x7b\"url_netloc\":\"shoes.example\","
      ++ "\"segments\":[\"shoes\"],\"weight\":5\x7d]\x7d"
    let r : IntentResource := ⟨1, [⟨"shoes.example", ["shoes"], 5⟩], [], []⟩
    let h := History.empty.append "hats" ⟨⟨0, 0⟩, 3⟩ 9
    let m : IntentModel := ⟨⟨true, 1, 60, 1, 9, 1⟩, ⟨"purchase_intent", some r⟩, false⟩
    let s := (Store.opened .memory).withRows
      (Dict.empty.insert Store.historyKey (.text h.toJson.render))
    IntentResource.load json = .ok r ∧ IntentModel.Serves m s r h ∧
      ∃ s' l h', IntentModel.visit Store.history "https://www.shoes.example/sale" ⟨7, 0⟩ ⟨m, s⟩
          = ⟨.ok (some ⟨⟨7, 0⟩, ["shoes"], 5⟩), ⟨m, s'⟩, l⟩ ∧
        Store.history.load s' = ⟨.ok h', s', []⟩ ∧ (∃ t, h'.trails.get? "shoes" = some t) ∧
        h'.trails.get? "hats" = h.trails.get? "hats" := by
  intro json r h m s
  have hr : IntentResource.load json = .ok r := by
    refine IntentResource.load_eq_ok_iff.2 ⟨by decide +kernel, IntentResource.isValid_iff.1 ?_⟩
    decide +kernel
  have hsignal : r.signalOf? ⟨7, 0⟩ "https://www.shoes.example/sale"
      = some ⟨⟨7, 0⟩, ["shoes"], 5⟩ := by decide +kernel
  have hplain : (⟨0, 0⟩ : Instant).IsPlain := by decide +kernel
  have hstamps : h.IsStampable := History.EachTime.empty.append "hats" hplain.isStampable 9
  have hm : IntentModel.Serves m s r h := by
    refine ⟨rfl, rfl, ?_⟩
    have hopened : (Store.opened .memory).Keeps .empty := Store.keeps_opened (by decide)
    have hload := (hopened.withRows
      (Dict.empty.insert Store.historyKey (.text h.toJson.render))).loadOrFresh
      Store.historyKey History.ofJson? History.toJson .empty
      "stored purchase intent history is malformed, starting empty"
    rw [Dict.get?_insert_self, Store.settled, Store.decoded, hstamps.decode_render] at hload
    exact congrArg Outcome.result hload
  refine ⟨hr, hm, ?_⟩
  have hnow : (⟨7, 0⟩ : Instant).inCalendar = true := by decide +kernel
  rcases (visits_are_recorded hr _ hnow).2 m s h hm with hdone | ⟨hnone, -⟩
  · obtain ⟨signal, s', l, h', hsome, hvisit, hload, hrecorded⟩ := hdone
    rw [hsignal, Option.some.injEq] at hsome
    subst hsome
    exact ⟨s', l, h', hvisit, hload, hrecorded.named "shoes" (by decide),
      hrecorded.others "hats" (by decide)⟩
  · rw [hsignal] at hnone
    cases hnone

end Audience
