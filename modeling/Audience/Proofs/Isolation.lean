import Audience.Proofs.AlikeStores
import Audience.Proofs.Lists
import Audience.Proofs.StoreDifference

/-! # What a signal leaves alone

A signal reaches one model, or two in the case of a page text, and changes nothing but what these
models have stored. Input that a model ignores changes nothing of it, whatever is stored: a value
that does not decode or is out of order stays as it is.

* **`Store.recordEvent_cases`** — all that an event can do to a store.
* **`Call.Edits e c x`** — what a call can do to the value of a model.
* **`Engine.IgnoresVisit`**, **`Engine.IgnoresFeedback`**, **`Engine.IgnoresPage`**,
  **`Engine.IgnoresEmbedding`** — why a model takes nothing from a signal.
* **`signals_isolated`** — what each signal can change, and that ignored input changes nothing. -/

namespace Audience

/-! ## What a signal can do -/

namespace Store

variable {s t : Store}

/-- Without a table of events nothing is recorded. -/
theorem state_recordEvent_of_not (h : ¬(s.poisoned = false ∧ ∃ es lastId, s.KeepsEvents es lastId))
    (config : EmbeddingConfig) (event : Event) : (recordEvent config event s).state = s := by
  have hinsert : ∃ e : Error, events.insert event s = ⟨.error (.error e), s, []⟩ := by
    cases hpoisoned : s.poisoned with
    | true =>
      exact ⟨.storage (.lockPoisoned Op.poisonedDetails), by simp [events, guarded, hpoisoned]⟩
    | false =>
      obtain ⟨e, hmissing⟩ := Database.eventRows_error (d := s.database) fun es lastId htable =>
        h ⟨hpoisoned, es, lastId, htable⟩
      exact ⟨e, guarded_eq hpoisoned (Op.bind_error hmissing)⟩
  obtain ⟨e, hinsert⟩ := hinsert
  rw [recordEvent, Op.bind_error hinsert]

/-- Recording an event leaves the store as it was, or appends the row of the event and keeps the
newest rows. -/
theorem recordEvent_cases (config : EmbeddingConfig) (event : Event) (s : Store) :
    (recordEvent config event s).state = s ∨
      ∃ es lastId, s.KeepsEvents es lastId ∧ (recordEvent config event s).state = s.withEvents
        (Database.remaining config.historySize (es ++ [event.row (lastId + 1)])) (lastId + 1) := by
  by_cases h : s.poisoned = false ∧ ∃ es lastId, s.KeepsEvents es lastId
  · obtain ⟨hsound, es, lastId, hevents⟩ := h
    exact .inr ⟨es, lastId, hevents, state_recordEvent hsound hevents config event⟩
  · exact .inl (state_recordEvent_of_not h config event)

/-- The table of events of a database. -/
def eventTable? (s : Store) : Option Table := s.database.tables.get? Database.eventTable

/-- The events after an event has been recorded depend on the events before it, and on nothing else
that is stored. -/
theorem eventTable?_recordEvent (hpoisoned : t.poisoned = s.poisoned)
    (htable : t.eventTable? = s.eventTable?) (config : EmbeddingConfig) (event : Event) :
    (recordEvent config event t).state.eventTable?
      = (recordEvent config event s).state.eventTable? := by
  by_cases h : s.poisoned = false ∧ ∃ es lastId, s.KeepsEvents es lastId
  · obtain ⟨hsound, es, lastId, hs⟩ := h
    have ht : t.KeepsEvents es lastId := htable.trans hs
    rw [state_recordEvent hsound hs, state_recordEvent (hpoisoned.trans hsound) ht]
    exact (keepsEvents_withEvents _ _ _).trans (keepsEvents_withEvents _ _ _).symm
  · have h' : ¬(t.poisoned = false ∧ ∃ es lastId, t.KeepsEvents es lastId) := by
      rintro ⟨hsound, es, lastId, ht⟩
      exact h ⟨hpoisoned.symm.trans hsound, es, lastId, htable.symm.trans ht⟩
    rw [state_recordEvent_of_not h, state_recordEvent_of_not h', htable]

end Store

/-! ## What a call leaves alone -/

namespace Call

variable {e : Engine} {x : Edit}

/-- The model whose value a call changes. -/
def kind : Call → Kind
  | .visit _ _ => .intent
  | .page _ _ => .page
  | .feedback _ => .bandit

/-- What a call can do to the value of a model. -/
inductive Edits (e : Engine) : Call → Edit → Prop
  | visit {address : String} {now : Instant} {r : IntentResource} {s : Signal}
    (hsignal : r.signalOf? now address = some s) (hvalid : IntentModel.objection? s = none) :
    Edits e (.visit address now)
      ⟨.intent, fun h => History.record h s e.models.intent.config.trailCap⟩
  | page (text : String) (now : Instant) (p : Page) :
    Edits e (.page text now) ⟨.page, fun w => Window.push w p e.models.page.config.windowSize⟩
  | feedback {f : Feedback} {reward : Double} (hreward : BanditModel.rewardOf f = .ok reward) :
    Edits e (.feedback f) ⟨.bandit, fun a => Arms.record a f.segment reward⟩

/-- Every edit of a call is one of these. -/
theorem edits_of_edit? {c : Call} (h : c.edit? e = some x) : Edits e c x := by
  cases c with
  | visit address now =>
    simp only [edit?, Option.bind_eq_bind, Option.ite_none_right_eq_some] at h
    obtain ⟨-, h⟩ := h
    obtain ⟨r, -, h⟩ := Option.bind_eq_some_iff.1 h
    obtain ⟨s, hsignal, h⟩ := Option.bind_eq_some_iff.1 h
    obtain ⟨f, hchange, rfl⟩ := Option.map_eq_some_iff.1 h
    obtain ⟨hvalid, hf⟩ := Option.ite_none_left_eq_some.1 hchange
    cases hf
    exact .visit hsignal (Option.not_isSome_iff_eq_none.1 hvalid)
  | page text now =>
    obtain ⟨-, h⟩ := Option.ite_none_right_eq_some.1 h
    obtain ⟨f, hchange, rfl⟩ := Option.map_eq_some_iff.1 h
    obtain ⟨p, -, rfl⟩ := Option.map_eq_some_iff.1 hchange
    exact .page text now p
  | feedback f =>
    obtain ⟨-, h⟩ := Option.ite_none_right_eq_some.1 h
    obtain ⟨change, hchange, rfl⟩ := Option.map_eq_some_iff.1 h
    obtain ⟨reward, hreward, rfl⟩ := Option.map_eq_some_iff.1 hchange
    exact .feedback (eq_ok_of_toOption hreward)

/-- A call changes the value of its own model. -/
theorem Edits.kind_eq {c : Call} (h : Edits e c x) : x.kind = c.kind := by
  cases h <;> rfl

/-- A change reaches nothing but the value of the model, and nothing at all where there is none. -/
theorem afterEdit_isolated (c : Call) (e : Engine) : ∃ s, c.afterEdit e = e.withStore s ∧
    Store.SameBut [c.kind.key] [] e.models.store s ∧
      (c.edit? e = none → s = e.models.store) := by
  rw [afterEdit]
  cases hedit : c.edit? e with
  | none => exact ⟨e.models.store, rfl, .refl _ _ _, fun _ => rfl⟩
  | some x =>
    simp only
    split
    · exact ⟨e.models.store, rfl, .refl _ _ _, fun _ => rfl⟩
    · refine ⟨_, rfl, ?_, fun h => absurd h (Option.some_ne_none x)⟩
      rw [← (edits_of_edit? hedit).kind_eq]
      obtain hsame | ⟨rows, hrows, hstate⟩ := x.update_cases e.models.store
      · rw [hsame]
        exact .refl _ _ _
      · rw [hstate]
        exact .withRows hrows _ _

/-- An event reaches nothing but the table of events, and nothing at all where there is none. -/
theorem afterEvent_isolated (c : Call) (e : Engine) : ∃ s, c.afterEvent e = e.withStore s ∧
    Store.SameBut [] [Database.eventTable] e.models.store s ∧
      (c.event? e = none → s = e.models.store) := by
  rw [afterEvent]
  cases c.event? e with
  | none => exact ⟨e.models.store, rfl, .refl _ _ _, fun _ => rfl⟩
  | some event =>
    refine ⟨_, rfl, ?_, fun h => absurd h (Option.some_ne_none event)⟩
    obtain hsame | ⟨es, lastId, _, hstate⟩ :=
      Store.recordEvent_cases e.models.embedding.config event e.models.store
    · rw [hsame]
      exact .refl _ _ _
    · rw [hstate]
      exact .withEvents _ _ _

/-- A call without an event leaves the events alone. -/
theorem operation_isolated {c : Call} (hevent : ∀ e, c.event? e = none) (e : Engine) :
    ∃ s, (c.operation e).state = e.withStore s ∧
      Store.SameBut [c.kind.key] [] e.models.store s ∧
      (c.edit? e = none → s = e.models.store) := by
  obtain ⟨s, hs, hsame, hnone⟩ := c.afterEdit_isolated e
  obtain ⟨t, ht, -, hquiet⟩ := c.afterEvent_isolated (c.afterEdit e)
  refine ⟨s, ?_, hsame, hnone⟩
  rw [state_operation, ht, hquiet (hevent _), hs]
  rfl

end Call

/-! ## Ignored input -/

namespace Engine

/-- Why the model of purchase intent takes nothing from a visit. -/
inductive IgnoresVisit (e : Engine) (address : String) (now : Instant) : Prop
  | disabled (h : e.config.intent.enabled = false)
  | notReady (h : e.models.intent.resource.content = none)
  | noSignal {r : IntentResource} (hready : e.models.intent.resource.content = some r)
    (h : r.signalOf? now address = none)
  | noSegments {r : IntentResource} {s : Signal}
    (hready : e.models.intent.resource.content = some r)
    (hsignal : r.signalOf? now address = some s) (h : s.segments = [])
  | blankSegment {r : IntentResource} {s : Signal} {g : Segment}
    (hready : e.models.intent.resource.content = some r)
    (hsignal : r.signalOf? now address = some s) (hmem : g ∈ s.segments)
    (h : Segment.isUsable g = false)

/-- Why the bandit model takes nothing from feedback. -/
inductive IgnoresFeedback (e : Engine) (f : Feedback) : Prop
  | disabled (h : e.config.bandit.enabled = false)
  | blankSegment (h : Segment.isUsable f.segment = false)
  | noReward (h : f.event.reward? = none)

/-- Why the model of page interests takes nothing from a text. -/
inductive IgnoresPage (e : Engine) (text : String) : Prop
  | disabled (h : e.config.page.enabled = false)
  | blankText (h : allBlank text = true)
  | notReady (h : e.models.page.classifier.content = none)
  | noKnownToken {c : LinearClassifier} (hready : e.models.page.classifier.content = some c)
    (h : ∀ token ∈ tokenize text, c.weights.get? token = none)

/-- Why the model of embeddings takes nothing from a text. -/
inductive IgnoresEmbedding (e : Engine) (text : String) : Prop
  | disabled (h : e.config.embedding.enabled = false)
  | blankText (h : allBlank text = true)
  | notReady (h : e.models.embedding.embedder.content = none)
  | noKnownToken {w : WordVectors} (hready : e.models.embedding.embedder.content = some w)
    (h : ∀ token ∈ tokenize text, w.vectors.get? token = none)

end Engine

/-- A signal without segments or with a blank one is objected to. -/
theorem IntentModel.exists_objection {s : Signal}
    (h : s.segments = [] ∨ ∃ g ∈ s.segments, Segment.isUsable g = false) :
    ∃ reason, objection? s = some (.invalidInput reason) := by
  rw [objection?]
  obtain hempty | ⟨g, hmem, hblank⟩ := h
  · rw [hempty]
    exact ⟨_, rfl⟩
  · have hall : s.segments.all Segment.isUsable = false := by
      rw [List.all_eq_false]
      exact ⟨g, hmem, by simp [hblank]⟩
    split
    · exact ⟨_, rfl⟩
    · simp only [hall]
      exact ⟨_, rfl⟩

namespace Engine

variable {e : Engine}

/-- An ignored visit changes no value. -/
theorem IgnoresVisit.edit?_eq_none {address : String} {now : Instant}
    (h : e.IgnoresVisit address now) : (Call.visit address now).edit? e = none := by
  simp only [Call.edit?]
  cases h with
  | disabled h => simp [h]
  | notReady h => simp [h]
  | noSignal hready h => simp [hready, h]
  | noSegments hready hsignal h =>
    obtain ⟨reason, hobjection⟩ := IntentModel.exists_objection (.inl h)
    simp [hready, hsignal, hobjection, IntentModel.change?]
  | blankSegment hready hsignal hmem h =>
    obtain ⟨reason, hobjection⟩ := IntentModel.exists_objection (.inr ⟨_, hmem, h⟩)
    simp [hready, hsignal, hobjection, IntentModel.change?]

/-- Ignored feedback changes no value. -/
theorem IgnoresFeedback.edit?_eq_none {f : Feedback} (h : e.IgnoresFeedback f) :
    (Call.feedback f).edit? e = none := by
  have hno (hreward : (BanditModel.rewardOf f).toOption = none) :
      (Call.feedback f).edit? e = none := by
    simp [Call.edit?, BanditModel.change?_eq_none hreward]
  cases h with
  | disabled h => simp [Call.edit?, h]
  | blankSegment h => exact hno (by simp [BanditModel.rewardOf, h, Except.toOption])
  | noReward h =>
    refine hno ?_
    cases hblank : Segment.isUsable f.segment <;>
      simp [BanditModel.rewardOf, hblank, h, Except.toOption]

/-- An ignored text changes no window. -/
theorem IgnoresPage.edit?_eq_none {text : String} (h : e.IgnoresPage text) (now : Instant) :
    (Call.page text now).edit? e = none := by
  have hno (hpage : e.models.page.page? text = none) : (Call.page text now).edit? e = none := by
    simp [Call.edit?, PageModel.change?_eq_none hpage]
  cases h with
  | disabled h => simp [Call.edit?, h]
  | blankText h => exact hno (by simp [PageModel.page?, h])
  | notReady h => exact hno (by simp [PageModel.page?, h])
  | @noKnownToken c hready h =>
    have hknown : c.knownWeights (tokenize text) = [] := List.filterMap_eq_nil_iff.2 h
    have hrefused : Classifier.classify c text
        = .error (.resource (.noKnownTokens LinearClassifier.name)) := by
      simp [Classifier.classify, LinearClassifier.classify, hknown]
    exact hno (by simp [PageModel.page?, hready, hrefused, Except.toOption])

/-- An ignored text is no event. -/
theorem IgnoresEmbedding.event?_eq_none {text : String} (h : e.IgnoresEmbedding text)
    (now : Instant) : (Call.page text now).event? e = none := by
  simp only [Call.event?]
  cases h with
  | disabled h => simp [h]
  | blankText h => simp [h]
  | notReady h => simp [h]
  | @noKnownToken w hready h =>
    have hknown : w.knownVectors (tokenize text) = [] := List.filterMap_eq_nil_iff.2 h
    have hrefused : ∃ failure, EmbeddingModel.vectorOf w text = .error failure := by
      rw [EmbeddingModel.vectorOf]
      simp only [Embedder.embed, WordVectors.embedInRoom]
      split
      · refine ⟨.error (.resource (.noKnownTokens WordVectors.name)), ?_⟩
        simp [WordVectors.embed, WordVectors.knownCount, hknown]
        rfl
      · exact ⟨.crash, rfl⟩
    obtain ⟨failure, hrefused⟩ := hrefused
    simp [hready, hrefused]

/-- The engine with another model of page interests, switched on or off. -/
def withPage (e : Engine) (enabled : Bool) (m : PageModel LinearClassifier) : Engine :=
  ⟨{ e.config with page := { e.config.page with enabled := enabled } }, { e.models with page := m }⟩

end Engine

/-! ## Signals -/

/-- The events after a page text do not depend on the model of page interests. -/
theorem Call.eventTable?_page (e : Engine) (text : String) (now : Instant) (enabled : Bool)
    (m : PageModel LinearClassifier) :
    (Engine.page text now (e.withPage enabled m)).state.models.store.eventTable?
      = (Engine.page text now e).state.models.store.eventTable? := by
  let c := Call.page text now
  obtain ⟨s, hs, hsame, -⟩ := c.afterEdit_isolated e
  obtain ⟨s', hs', hsame', -⟩ := c.afterEdit_isolated (e.withPage enabled m)
  have hpoisoned : s'.poisoned = s.poisoned := hsame'.poisoned.trans hsame.poisoned.symm
  have htable : s'.eventTable? = s.eventTable? :=
    (hsame'.table _ (by decide) List.not_mem_nil).trans
      (hsame.table _ (by decide) List.not_mem_nil).symm
  have hevent : c.event? ((e.withPage enabled m).withStore s') = c.event? (e.withStore s) := rfl
  rw [Call.state_page, Call.state_page, hs, hs', afterEvent, afterEvent, hevent]
  cases c.event? (e.withStore s) with
  | none => exact htable
  | some event => exact Store.eventTable?_recordEvent hpoisoned htable _ event

/-- A visit changes nothing but the history, feedback nothing but the arms, and a page text nothing
but the window and the events. What a model ignores changes nothing of it, and a signal with a blank
segment is refused whatever its other segments are. The events after a page text are the same for
every model of page interests, whether it is switched on, ready, or refuses the text. -/
theorem signals_isolated (e : Engine) :
    (∀ address now, ∃ s, (Engine.visit address now e).state = e.withStore s ∧
      Store.SameBut [Store.historyKey] [] e.models.store s ∧
      (e.IgnoresVisit address now → s = e.models.store)) ∧
    (∀ f, ∃ s, (Engine.feedback f e).state = e.withStore s ∧
      Store.SameBut [Store.armsKey] [] e.models.store s ∧
      (e.IgnoresFeedback f → s = e.models.store)) ∧
    (∀ text now, ∃ s, (Engine.page text now e).state = e.withStore s ∧
      Store.SameBut [Store.windowKey] [Database.eventTable] e.models.store s ∧
      (e.IgnoresPage text → Store.SameBut [] [Database.eventTable] e.models.store s) ∧
      (e.IgnoresEmbedding text → Store.SameBut [Store.windowKey] [] e.models.store s) ∧
      ∀ enabled m, (Engine.page text now (e.withPage enabled m)).state.models.store.eventTable?
        = s.eventTable?) ∧
    ∀ (σ : Type) (access : Access σ History) (signal : Signal) (running : Running IntentModel σ),
      (signal.segments = [] ∨ ∃ g ∈ signal.segments, Segment.isUsable g = false) →
      ∃ reason, IntentModel.buy access signal running
        = ⟨.error (.error (.invalidInput reason)), running, []⟩ := by
  refine ⟨fun address now => ?_, fun f => ?_, fun text now => ?_, ?_⟩
  · obtain ⟨s, hs, hsame, hnone⟩ :=
      Call.operation_isolated (c := .visit address now) (fun _ => rfl) e
    exact ⟨s, hs, hsame, fun h => hnone h.edit?_eq_none⟩
  · obtain ⟨s, hs, hsame, hnone⟩ := Call.operation_isolated (c := .feedback f) (fun _ => rfl) e
    exact ⟨s, hs, hsame, fun h => hnone h.edit?_eq_none⟩
  · -- the window comes first, and the events after it
    obtain ⟨s, hs, hwindow, hnoEdit⟩ := (Call.page text now).afterEdit_isolated e
    obtain ⟨t, ht, hevents, hnoEvent⟩ := (Call.page text now).afterEvent_isolated (e.withStore s)
    have hstate : (Engine.page text now e).state = e.withStore t := by
      rw [Call.state_page, hs, ht]
      rfl
    refine ⟨t, hstate, ?_, fun h => ?_, fun h => ?_, fun enabled m => ?_⟩
    · exact (hwindow.mono (fun _ => id) (List.nil_subset _)).trans
        (hevents.mono (List.nil_subset _) fun _ => id)
    · rw [← hnoEdit (h.edit?_eq_none now)]
      exact hevents
    · have hsame : t = s := hnoEvent (h.event?_eq_none now)
      rw [hsame]
      exact hwindow
    · rw [Call.eventTable?_page, hstate]
      rfl
  · intro σ access signal running h
    obtain ⟨reason, hobjection⟩ := IntentModel.exists_objection h
    refine ⟨reason, ?_⟩
    rw [IntentModel.buy, hobjection]
    rfl

/-- A window and arms that do not decode stay as they are after a text without a known word and
after feedback on a blank segment, and a signal for shoes and a blank segment is refused. -/
theorem signals_isolated_spoiled :
    let rows := (Dict.empty.insert Store.windowKey (.text "[")).insert Store.armsKey (.text "]")
    let classifier : LinearClassifier :=
      ⟨1, ["fashion"], [.zero], Dict.empty.insert "shoes" [.one]⟩
    let blank : Engine := ⟨.default, .new .default .summed ((Store.opened .memory).withRows rows)⟩
    let e := blank.withPage true
      ⟨blank.config.page, ⟨"classifier", some classifier⟩, .summed, false⟩
    let now : Instant := ⟨0, 0⟩
    (Engine.page "Hats!" now e).state.models.store = e.models.store ∧
      (Engine.feedback ⟨" ", .clicked⟩ e).state.models.store = e.models.store ∧
      ∃ reason, (IntentModel.buy Store.history ⟨now, ["shoes", " "], 1⟩
        ⟨e.models.intent, e.models.store⟩).result = .error (.error (.invalidInput reason)) := by
  intro rows classifier blank e now
  obtain ⟨-, hfeedback, hpage, hbuy⟩ := signals_isolated e
  refine ⟨?_, ?_, ?_⟩
  · obtain ⟨s, hs, -, hwindow, hevents, -⟩ := hpage "Hats!" now
    have hwindow := hwindow (.noKnownToken (c := classifier) rfl (by decide +kernel))
    have hevents := hevents (.notReady rfl)
    have hsame : Store.SameBut [] [] e.models.store s := { hwindow with table := hevents.table }
    rw [hs]
    exact hsame.eq
  · obtain ⟨s, hs, -, hsame⟩ := hfeedback ⟨" ", .clicked⟩
    rw [hs]
    exact hsame (.blankSegment (by decide))
  · obtain ⟨reason, hrefused⟩ := hbuy Store Store.history ⟨now, ["shoes", " "], 1⟩
      ⟨e.models.intent, e.models.store⟩ (.inr ⟨" ", by decide, by decide⟩)
    exact ⟨reason, congrArg Outcome.result hrefused⟩

end Audience
