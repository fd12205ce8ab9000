import Audience.Proofs.Interleaving

/-! # Calls without interruption

The steps of a call that no other call interrupts do together what the operation of the engine
does, and so do the steps of opting out.

* **`Call.Reaches c a b`** — one phase comes some steps after another.
* **`Call.reaches_operation`** — a call ends with what the operation of the engine leaves behind.
* **`OptOut.steps_eq_optOut`** — opting out returns what the operation of the engine returns. -/

namespace Audience

/-! ## The steps together -/

/-- Inserts an event and deletes the events that are too many. -/
def recordEvent (config : EmbeddingConfig) (event : Event) : Op Store Unit := do
  Store.events.insert event
  let _ ← EmbeddingModel.purge Store.events config

namespace Call

/-- The engine after a call has changed the value of a model. -/
def afterEdit (c : Call) (e : Engine) : Engine :=
  match c.edit? e with
  | some x => if x.kind.isPoisoned e then e else e.withStore (x.update e.models.store).state
  | none => e

/-- The engine after a call has recorded an event. -/
def afterEvent (c : Call) (e : Engine) : Engine :=
  match c.event? e with
  | some event => e.withStore (recordEvent e.models.embedding.config event e.models.store).state
  | none => e

/-- One phase comes some steps after another when no other call interrupts. -/
inductive Reaches (c : Call) : Engine × Phase → Engine × Phase → Prop
  | refl (a : Engine × Phase) : Reaches c a a
  | step {e : Engine} {p : Phase} {b : Engine × Phase}
    (h : Reaches c (p.next c (fun _ => true) e) b) : Reaches c (e, p) b

/-- Steps after steps are steps. -/
theorem Reaches.trans {c : Call} {x y z : Engine × Phase} (hxy : c.Reaches x y)
    (hyz : c.Reaches y z) : c.Reaches x z := by
  induction hxy with
  | refl a => exact hyz
  | step h ih => exact .step (ih hyz)

/-- A call that holds the lock updates the value. -/
theorem reaches_of_locked (c : Call) (e : Engine) (x : Edit) :
    c.Reaches (e, .updating x .locked)
      (e.withStore (x.update e.models.store).state, .released) := by
  refine .step ?_
  simp only [Phase.next, Update.next, Edit.update]
  cases hload : x.kind.load e.models.store with
  | mk result s l =>
    cases result with
    | error err =>
      rw [Op.bind_error hload]
      exact .step (.refl _)
    | ok v =>
      rw [Op.bind_ok hload]
      exact .step (.step (.refl _))

/-- A call first changes the value of its model. -/
theorem reaches_released (c : Call) (e : Engine) :
    c.Reaches (e, .begun) (c.afterEdit e, .released) := by
  refine .step ?_
  rw [Phase.next, afterEdit]
  cases c.edit? e with
  | none => exact .refl _
  | some x =>
    refine .step ?_
    -- no other call runs, so the lock is free
    simp only [Phase.next, Update.next, if_true]
    by_cases hpoisoned : x.kind.isPoisoned e = true
    · simp only [hpoisoned, if_true]
      exact .refl _
    · simp only [hpoisoned]
      exact reaches_of_locked c e x

/-- A call then records its event. -/
theorem reaches_finished (c : Call) (e : Engine) :
    c.Reaches (e, .released) (c.afterEvent e, .finished) := by
  refine .step ?_
  rw [Phase.next, afterEvent]
  cases c.event? e with
  | none => exact .refl _
  | some event =>
    refine .step ?_
    simp only [Phase.next, recordEvent]
    cases hinsert : Store.events.insert event e.models.store with
    | mk result s l =>
      cases result with
      | error err =>
        rw [Op.bind_error hinsert]
        exact .refl _
      | ok u =>
        rw [Op.bind_ok hinsert]
        have hpurge := Op.state_bind_of_keeps (f := fun _ => (pure () : Op Store Unit))
          (x := EmbeddingModel.purge Store.events e.models.embedding.config) (fun _ _ => rfl) s
        rw [hpurge]
        exact .step (.refl _)

/-- A call ends after a change and an event. -/
theorem reaches_end (c : Call) (e : Engine) :
    c.Reaches (e, .begun) (c.afterEvent (c.afterEdit e), .finished) :=
  (reaches_released c e).trans (reaches_finished c _)

end Call

/-! ## The operations of the engine -/

namespace Engine

variable {τ α : Type}

/-- Reporting an error keeps the state that is left behind. -/
theorem state_reported (model : String) (x : Op τ α) (s : τ) :
    (reported model x s).state = (x s).state := by
  rw [reported, Op.state_bind_of_keeps, Op.state_attempt]
  intro r s
  cases r with
  | ok a => rfl
  | error err =>
    simp only
    cases isRefusal err <;> rfl

/-- Reporting an error leaves none. -/
theorem result_reported (model : String) {x : Op τ α} {s : τ} (hx : (x s).result ≠ .error .crash) :
    (reported model x s).result = .ok () := by
  cases hout : x s with
  | mk result s' l =>
    cases result with
    | ok a =>
      have hattempt : Op.attempt x s = ⟨.ok (.ok a), s', l⟩ := by rw [Op.attempt, hout]
      rw [reported, Op.bind_ok hattempt]
      rfl
    | error err =>
      cases err with
      | error err =>
        have hattempt : Op.attempt x s = ⟨.ok (.error err), s', l⟩ := by rw [Op.attempt, hout]
        rw [reported, Op.bind_ok hattempt]
        simp only
        cases isRefusal err <;> rfl
      | crash => exact absurd (by rw [hout]) hx

/-- What is cut off is not reported. -/
theorem result_reported_of_crash (model : String) {x : Op τ α} {s : τ}
    (hx : (x s).result = .error .crash) : (reported model x s).result = .error .crash := by
  cases hout : x s with
  | mk result s' l =>
    rw [hout] at hx
    subst hx
    have hattempt : Op.attempt x s = ⟨.error .crash, s', l⟩ := by rw [Op.attempt, hout]
    rw [reported, Op.bind_error hattempt]

end Engine

/-- Taking a visit is never cut off. -/
theorem IntentModel.neverCrashes_visit (address : String) (now : Instant) :
    (visit Store.history address now).NeverCrashes := by
  refine .bind (.read _) fun slot => ?_
  cases slot.content with
  | none => exact .bind (.log _ _) fun _ => .pure none
  | some r =>
    simp only
    cases r.signalOf? now address with
    | none => exact .pure none
    | some s => exact .bind (Kind.neverCrashes_process .intent s) fun _ => .pure (some s)

/-- Whether the model is cut off while it embeds a page text. -/
def EmbeddingModel.isCutOff (m : EmbeddingModel WordVectors) (text : String) : Bool :=
  !allBlank text &&
    match m.embedder.content.map (fun e => vectorOf e text) with
    | some (.error .crash) => true
    | _ => false

/-- Recording a page text is cut off exactly if embedding it is. -/
theorem EmbeddingModel.result_process_eq_crash_iff (m : EmbeddingModel WordVectors) (store : Store)
    (text locale : String) (now : Instant) :
    (process Store.events text locale now ⟨m, store⟩).result = .error .crash ↔
      m.isCutOff text = true := by
  have hpurge : ∀ config, (purge Store.events config).NeverCrashes := by
    intro config
    refine .bind (Store.neverCrashes_keepNewest _) fun deleted => ?_
    by_cases hdeleted : 0 < deleted
    · simp only [hdeleted]
      exact .bind (.log _ _) fun _ => .pure _
    · simp only [hdeleted]
      exact .pure _
  rw [process, isCutOff]
  by_cases hblank : allBlank text = true
  · simp only [hblank, if_true, Bool.not_true, Bool.false_and, Bool.false_eq_true, iff_false]
    exact fun h => nomatch h
  · simp only [hblank, Bool.false_eq_true, if_false, Op.bind_ofModel, Bool.not_false,
      Bool.true_and]
    cases m.embedder.content with
    | none =>
      simp only [Option.map_none, Bool.false_eq_true, iff_false]
      exact fun h => nomatch h
    | some e =>
      simp only [Option.map_some]
      cases vectorOf e text with
      | error failure =>
        rw [Op.bind_ofResult_error]
        cases failure <;> simp
      | ok v =>
        -- once there is a vector, only the store is left
        have hrest : ((Op.onStore (Store.events.insert ⟨now.truncateMicros, locale, digest text, v⟩)
            >>= fun _ => Op.onStore (purge Store.events m.config) >>= fun _ => pure () :
            Op (Running (EmbeddingModel WordVectors) Store) Unit)).NeverCrashes :=
          .bind (Store.neverCrashes_insert _).zoom fun _ =>
            .bind (hpurge m.config).zoom fun _ => .pure _
        simp only [Op.bind_ofResult_ok, Op.bind_ofModel, Bool.false_eq_true, iff_false]
        exact hrest ⟨m, store⟩

/-- What embedding a page text leaves behind. -/
theorem EmbeddingModel.state_process (text locale : String) (now : Instant)
    (m : EmbeddingModel WordVectors) (store : Store) :
    (process Store.events text locale now ⟨m, store⟩).state =
      if allBlank text then ⟨m, store⟩
      else
        match m.embedder.content.map (fun e => vectorOf e text) with
        | some (.ok v) =>
          ⟨m, (recordEvent m.config ⟨now.truncateMicros, locale, digest text, v⟩ store).state⟩
        | _ => ⟨m, store⟩ := by
  rw [process]
  by_cases hblank : allBlank text = true
  · simp only [hblank, if_true]
    rfl
  · simp only [hblank, Bool.false_eq_true, if_false, Op.bind_ofModel]
    cases m.embedder.content with
    | none => rfl
    | some e =>
      simp only [Option.map_some]
      cases vectorOf e text with
      | error err => rfl
      | ok v =>
        simp only [Op.bind_ofResult_ok, Op.bind_ofModel, recordEvent]
        cases hinsert : Store.events.insert ⟨now.truncateMicros, locale, digest text, v⟩ store with
        | mk result s l =>
          have honStore : Op.onStore (Store.events.insert
              ⟨now.truncateMicros, locale, digest text, v⟩) (⟨m, store⟩ : Running _ Store)
                = ⟨result, ⟨m, s⟩, l⟩ := by
            rw [Op.onStore, Op.zoom, hinsert]
          cases result with
          | error err => rw [Op.bind_error honStore, Op.bind_error hinsert]
          | ok u =>
            rw [Op.bind_ok honStore, Op.bind_ok hinsert]
            simp only
            rw [Op.state_bind_of_keeps (fun _ _ => rfl), Op.state_bind_of_keeps (fun _ _ => rfl)]
            rfl

/-! ## The steps do what the operation does -/

namespace Call

/-- The engine after the change of a value that is known. -/
theorem afterEdit_eq {e : Engine} {call : Call} {k : Kind} {c : Option (k.Value → k.Value)}
    (h : call.edit? e = c.map (Edit.mk k)) :
    call.afterEdit e = e.withStore (k.storeAfter (k.isPoisoned e) c e.models.store) := by
  rw [afterEdit, h]
  cases c with
  | none => rfl
  | some f =>
    rw [Option.map_some]
    simp only
    cases k.isPoisoned e <;> rfl

/-- The engine stays as it is if no value is changed. -/
theorem afterEdit_of_none {e : Engine} {call : Call} (h : call.edit? e = none) :
    call.afterEdit e = e := by
  rw [afterEdit, h]

/-- What a visit leaves behind. -/
theorem state_visit (e : Engine) (address : String) (now : Instant) :
    (Engine.visit address now e).state = (Call.visit address now).afterEdit e := by
  rw [Engine.visit, Op.bind_get]
  by_cases henabled : e.config.intent.enabled = true
  · have hstate : ∀ x : Op (Running IntentModel Store) (Option Signal),
        (Engine.onModels (Engine.reported intentName (Models.onIntent x)) e).state
          = { e with models := { e.models with
                intent := (x ⟨e.models.intent, e.models.store⟩).state.model
                store := (x ⟨e.models.intent, e.models.store⟩).state.store } } := by
      intro x
      exact congrArg (fun m => { e with models := m }) (Engine.state_reported _ _ _)
    rw [if_pos henabled, hstate, IntentModel.visit]
    simp only [Op.bind_ofModel]
    cases hcontent : e.models.intent.resource.content with
    | none =>
      have hedit : (Call.visit address now).edit? e = none := by simp [edit?, hcontent]
      rw [afterEdit_of_none hedit]
      rfl
    | some r =>
      simp only
      cases hsignal : r.signalOf? now address with
      | none =>
        have hedit : (Call.visit address now).edit? e = none := by simp [edit?, hcontent, hsignal]
        rw [afterEdit_of_none hedit]
        rfl
      | some s =>
        have hedit : (Call.visit address now).edit? e
            = (e.models.intent.change? s).map (Edit.mk .intent) := by
          simp [edit?, henabled, hcontent, hsignal]
        simp only
        rw [Op.state_bind_of_keeps (fun _ _ => rfl), (e.models.intent.changesBy_buy s).state,
          afterEdit_eq hedit]
        rfl
  · have hedit : (Call.visit address now).edit? e = none := if_neg henabled
    rw [if_neg henabled, afterEdit_of_none hedit]
    rfl

/-- What feedback leaves behind. -/
theorem state_feedback (e : Engine) (f : Feedback) :
    (Engine.feedback f e).state = (Call.feedback f).afterEdit e := by
  rw [Engine.feedback, Op.bind_get]
  by_cases henabled : e.config.bandit.enabled = true
  · have hedit : (Call.feedback f).edit? e = (BanditModel.change? f).map (Edit.mk .bandit) :=
      if_pos henabled
    have hstate : (Engine.onModels (Engine.reported banditName
        (Models.onBandit (BanditModel.process Store.arms f))) e).state
          = { e with models := { e.models with
                bandit := (BanditModel.process Store.arms f
                  ⟨e.models.bandit, e.models.store⟩).state.model
                store := (BanditModel.process Store.arms f
                  ⟨e.models.bandit, e.models.store⟩).state.store } } :=
      congrArg (fun m => { e with models := m }) (Engine.state_reported _ _ _)
    rw [if_pos henabled, afterEdit_eq hedit, hstate, (e.models.bandit.changesBy_process f).state]
    rfl
  · have hedit : (Call.feedback f).edit? e = none := if_neg henabled
    rw [if_neg henabled, afterEdit_of_none hedit]
    rfl

/-- The model of page interests does what the change of a page call does. -/
theorem state_pageModel (e : Engine) (text : String) (now : Instant)
    (henabled : e.config.page.enabled = true) :
    (Engine.onModels (Engine.reported pageName (Models.onPage
      (PageModel.process Store.window text))) e).state = (Call.page text now).afterEdit e := by
  have hedit : (Call.page text now).edit? e
      = (e.models.page.change? text).map (Edit.mk .page) := if_pos henabled
  have hstate : (Engine.onModels (Engine.reported pageName
      (Models.onPage (PageModel.process Store.window text))) e).state
        = { e with models := { e.models with
              page := (PageModel.process Store.window text
                ⟨e.models.page, e.models.store⟩).state.model
              store := (PageModel.process Store.window text
                ⟨e.models.page, e.models.store⟩).state.store } } :=
    congrArg (fun m => { e with models := m }) (Engine.state_reported _ _ _)
  rw [afterEdit_eq hedit, hstate, (e.models.page.changesBy_process text).state]
  rfl

/-- The model of page interests never fails from the outside. -/
theorem result_pageModel (e : Engine) (text : String) : (Engine.onModels (Engine.reported pageName
    (Models.onPage (PageModel.process Store.window text))) e).result = .ok () :=
  Engine.result_reported pageName ((Kind.neverCrashes_process .page text).zoom e.models)

/-- The model of embeddings does what the event of a page call does. -/
theorem state_embeddingModel (e : Engine) (text : String) (now : Instant) :
    ((if e.config.embedding.enabled then
        Engine.onModels (Engine.reported embeddingName (Models.onEmbedding
          (EmbeddingModel.process Store.events text e.config.embedding.locale now)))
      else pure () : Op Engine Unit) e).state = (Call.page text now).afterEvent e := by
  have hstate : (Engine.onModels (Engine.reported embeddingName (Models.onEmbedding
      (EmbeddingModel.process Store.events text e.config.embedding.locale now))) e).state
        = { e with models := { e.models with
              embedding := (EmbeddingModel.process Store.events text e.config.embedding.locale now
                ⟨e.models.embedding, e.models.store⟩).state.model
              store := (EmbeddingModel.process Store.events text e.config.embedding.locale now
                ⟨e.models.embedding, e.models.store⟩).state.store } } :=
    congrArg (fun m => { e with models := m }) (Engine.state_reported _ _ _)
  rw [afterEvent, event?]
  by_cases henabled : e.config.embedding.enabled = true
  · simp only [henabled, if_true]
    rw [hstate, EmbeddingModel.state_process]
    by_cases hblank : allBlank text = true
    · simp [hblank]
    · simp only [hblank]
      cases e.models.embedding.embedder.content with
      | none => rfl
      | some c =>
        simp only [Option.map_some, Option.bind_eq_bind, Option.bind_some]
        cases EmbeddingModel.vectorOf c text <;> rfl
  · simp only [henabled]
    rfl

/-- A change of a value keeps the settings and the model of embeddings. -/
theorem afterEdit_keeps (c : Call) (e : Engine) :
    (c.afterEdit e).config = e.config ∧
      (c.afterEdit e).models.embedding = e.models.embedding := by
  rw [afterEdit]
  split
  · split <;> exact ⟨rfl, rfl⟩
  · exact ⟨rfl, rfl⟩

/-- What a page text leaves behind. -/
theorem state_page (e : Engine) (text : String) (now : Instant) :
    (Engine.page text now e).state
      = (Call.page text now).afterEvent ((Call.page text now).afterEdit e) := by
  have hconfig := ((Call.page text now).afterEdit_keeps e).1
  -- the first model leaves the settings alone, so the second one sees the same
  have hembedding := state_embeddingModel ((Call.page text now).afterEdit e) text now
  rw [hconfig] at hembedding
  rw [Engine.page, Op.bind_get]
  by_cases henabled : e.config.page.enabled = true
  · simp only [henabled, if_true]
    rw [Op.state_bind_of_ok (result_pageModel e text), state_pageModel e text now henabled,
      hembedding]
  · have hnone : (Call.page text now).afterEdit e = e := afterEdit_of_none (if_neg henabled)
    rw [hnone] at hembedding ⊢
    simp only [henabled]
    exact hembedding

/-- Whether a call is cut off: a page text is where its embedder is. -/
def isCutOff (e : Engine) : Call → Bool
  | .page text _ => e.config.embedding.enabled && e.models.embedding.isCutOff text
  | _ => false

/-- The model of embeddings fails from the outside only where it is cut off. -/
theorem result_embeddingModel (e : Engine) (text : String) (now : Instant) :
    ((if e.config.embedding.enabled then
        Engine.onModels (Engine.reported embeddingName (Models.onEmbedding
          (EmbeddingModel.process Store.events text e.config.embedding.locale now)))
      else pure () : Op Engine Unit) e).result
      = if (Call.page text now).isCutOff e then .error .crash else .ok () := by
  have hcrash : (Models.onEmbedding (EmbeddingModel.process Store.events text
      e.config.embedding.locale now) e.models).result = .error .crash ↔
        e.models.embedding.isCutOff text = true :=
    EmbeddingModel.result_process_eq_crash_iff e.models.embedding e.models.store text _ now
  rw [isCutOff]
  by_cases henabled : e.config.embedding.enabled = true
  · simp only [henabled, if_true, Bool.true_and]
    by_cases hcut : e.models.embedding.isCutOff text = true
    · rw [if_pos hcut]
      exact Engine.result_reported_of_crash embeddingName (hcrash.2 hcut)
    · rw [if_neg hcut]
      exact Engine.result_reported embeddingName (mt hcrash.1 hcut)
  · simp only [henabled]
    rfl

/-- A call fails from the outside only where it is cut off. -/
theorem result_operation (c : Call) (e : Engine) :
    (c.operation e).result = if c.isCutOff e then .error .crash else .ok () := by
  cases c with
  | visit address now =>
    rw [operation, Engine.visit, Op.bind_get]
    split
    · exact Engine.result_reported intentName
        ((IntentModel.neverCrashes_visit address now).zoom e.models)
    · rfl
  | feedback f =>
    rw [operation, Engine.feedback, Op.bind_get]
    split
    · exact Engine.result_reported banditName
        ((Kind.neverCrashes_process .bandit f).zoom e.models)
    · rfl
  | page text now =>
    -- the first model leaves the second one alone
    obtain ⟨hconfig, hmodel⟩ := (Call.page text now).afterEdit_keeps e
    have hsame : (Call.page text now).isCutOff ((Call.page text now).afterEdit e)
        = (Call.page text now).isCutOff e := by
      rw [isCutOff, isCutOff, hconfig, hmodel]
    have hembedding := result_embeddingModel ((Call.page text now).afterEdit e) text now
    rw [hconfig, hsame] at hembedding
    rw [operation, Engine.page, Op.bind_get]
    by_cases henabled : e.config.page.enabled = true
    · simp only [henabled, if_true]
      rw [Op.result_bind_of_ok (result_pageModel e text), state_pageModel e text now henabled,
        hembedding]
    · simp only [henabled]
      exact result_embeddingModel e text now

/-- What a call leaves behind: a change and an event. -/
theorem state_operation (c : Call) (e : Engine) :
    (c.operation e).state = c.afterEvent (c.afterEdit e) := by
  cases c with
  | visit address now => exact state_visit e address now
  | page text now => exact state_page e text now
  | feedback f => exact state_feedback e f

/-- A call whose steps are not interrupted ends with what the operation of the engine leaves
behind. -/
theorem reaches_operation (c : Call) (e : Engine) :
    c.Reaches (e, .begun) ((c.operation e).state, .finished) := by
  rw [state_operation]
  exact c.reaches_end e

end Call

/-! ## Opting out -/

/-- Opting out takes all resources out and clears the store. -/
theorem Engine.optOut_eq (e : Engine) :
    (optOut e).result = (Store.clearAll e.models.store).result ∧
      (optOut e).state = (reset e).state.withStore (Store.clearAll e.models.store).state := by
  cases hclear : Store.clearAll e.models.store with
  | mk result s l =>
    -- taking resources out never fails, so the store is always cleared
    have hreset : reset e = ⟨.ok (), (reset e).state, (reset e).log⟩ := rfl
    have honStore : onStore (fun _ => Store.clearAll) (reset e).state
        = ⟨result, (reset e).state.withStore s, l⟩ := by
      change (⟨(Store.clearAll e.models.store).result, (reset e).state.withStore
        (Store.clearAll e.models.store).state, (Store.clearAll e.models.store).log⟩ :
          Outcome _ _) = _
      rw [hclear]
    rw [optOut, Op.bind_ok hreset]
    cases result with
    | error err =>
      rw [Op.bind_error honStore]
      exact ⟨rfl, rfl⟩
    | ok u =>
      rw [Op.bind_ok honStore]
      exact ⟨rfl, rfl⟩

/-- Opting out without interruption returns what the operation of the engine returns, and leaves
behind what it leaves behind. -/
theorem OptOut.steps_eq_optOut (e : Engine) :
    let step := fun s : Engine × OptOut => s.2.next s.1
    step (step (step (step (step (e, .pending)))))
      = ((Engine.optOut e).state, .returned (Engine.optOut e).result) := by
  obtain ⟨hresult, hstate⟩ := e.optOut_eq
  rw [hresult, hstate]
  rfl

end Audience
