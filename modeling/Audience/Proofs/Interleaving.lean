import Audience.Engine
import Audience.Proofs.LockedUpdate
import Audience.Proofs.ModelRequests

/-! # Calls that run at the same time

Signals may be taken by several callers at once, and one more may opt out meanwhile. Each access to
the store is one step, and so is taking or giving back the lock of a model; the steps of different
calls come in any order.

* **`Call.edit?`** — the update that a call is going to make, and **`Call.event?`**, the event that
  it is going to record.
* **`Phase.next`** — one step of a call, and **`OptOut.next`**, one of opting out.
* **`World.run turns w`** — the steps of all calls in the order of a schedule. -/

namespace Audience

/-! ## Calls -/

/-- A signal for the engine. -/
inductive Call where
  | visit (address : String) (now : Instant)
  | page (text : String) (now : Instant)
  | feedback (f : Feedback)

namespace Call

/-- The operation of the engine. -/
def operation : Call → Op Engine Unit
  | .visit address now => Engine.visit address now
  | .page text now => Engine.page text now
  | .feedback f => Engine.feedback f

/-- What a call is going to do to the value of a model, by the resources that it finds. -/
def edit? (e : Engine) : Call → Option Edit
  | .visit address now =>
    if e.config.intent.enabled then do
      let s ← (← e.models.intent.resource.content).signalOf? now address
      (e.models.intent.change? s).map (Edit.mk .intent)
    else none
  | .page text _ =>
    if e.config.page.enabled then (e.models.page.change? text).map (Edit.mk .page) else none
  | .feedback f =>
    if e.config.bandit.enabled then (BanditModel.change? f).map (Edit.mk .bandit) else none

/-- The event that a call is going to record, by the embedder that it finds. -/
def event? (e : Engine) : Call → Option Event
  | .page text now =>
    if e.config.embedding.enabled && !allBlank text then do
      match EmbeddingModel.vectorOf (← e.models.embedding.embedder.content) text with
      | .ok v => some ⟨now.truncateMicros, e.config.embedding.locale, digest text, v⟩
      | .error _ => none
    else none
  | _ => none

end Call

/-! ## Steps of a call -/

/-- How far a call has come. -/
inductive Phase where
  /-- Nothing has been done. -/
  | begun
  /-- The value of a model is updated. -/
  | updating (x : Edit) (u : Update x.kind)
  /-- No lock is held any more. -/
  | released
  /-- An event is to be inserted. -/
  | inserting (event : Event)
  /-- Events that are too many are to be deleted. -/
  | purging
  | finished

/-- Whether the lock of a model is poisoned. -/
def Kind.isPoisoned (e : Engine) : Kind → Bool
  | .intent => e.models.intent.poisoned
  | .page => e.models.page.poisoned
  | .bandit => e.models.bandit.poisoned

/-- The engine over another store. -/
def Engine.withStore (e : Engine) (s : Store) : Engine :=
  { e with models := { e.models with store := s } }

namespace Phase

/-- The model whose lock is held. -/
def holds : Phase → Option Kind
  | .updating x u => if u.holds then some x.kind else none
  | _ => none

/-- Whether a copy of the value of a model is held. -/
def hasCopy (k : Kind) : Phase → Bool
  | .updating x (.copied _) => decide (x.kind = k)
  | _ => false

/-- Whether the call has come to its end. -/
def isFinished : Phase → Bool
  | .finished => true
  | _ => false

/-- The phase of a call whose update has come so far, or has come to its end. -/
def ofUpdate (x : Edit) : Option (Update x.kind) → Phase
  | some u => .updating x u
  | none => .released

/-- One step of a call, where `isFree` tells which locks are free. -/
def next (c : Call) (isFree : Kind → Bool) (e : Engine) : Phase → Engine × Phase
  | .begun =>
    -- the resources are read before the lock is taken
    match c.edit? e with
    | some x => (e, .updating x .waiting)
    | none => (e, .released)
  | .updating x u =>
    let (s, u') := u.next x.change (isFree x.kind) (x.kind.isPoisoned e) e.models.store
    (e.withStore s, ofUpdate x u')
  | .released =>
    match c.event? e with
    | some event => (e, .inserting event)
    | none => (e, .finished)
  | .inserting event =>
    let out := Store.events.insert event e.models.store
    match out.result with
    | .ok _ => (e.withStore out.state, .purging)
    | .error _ => (e.withStore out.state, .finished)
  | .purging =>
    let out := EmbeddingModel.purge Store.events e.models.embedding.config e.models.store
    (e.withStore out.state, .finished)
  | .finished => (e, .finished)

end Phase

/-! ## Steps of opting out -/

/-- How far opting out has come. -/
inductive OptOut where
  /-- It has not begun. -/
  | pending
  /-- Resources are still to be taken out, and then the store is to be cleared. -/
  | emptying (rest : List ResourceKind)
  | returned (result : Except Failure Unit)

/-- Takes the resource of one kind out. -/
def Engine.resetSlot (e : Engine) : ResourceKind → Engine
  | .intent => { e with models := { e.models with intent := e.models.intent.reset } }
  | .page => { e with models := { e.models with page := e.models.page.reset } }
  | .embedding => { e with models := { e.models with embedding := e.models.embedding.reset } }

/-- One step of opting out. -/
def OptOut.next (e : Engine) : OptOut → Engine × OptOut
  | .pending => (e, .emptying [.intent, .page, .embedding])
  | .emptying (k :: rest) => (e.resetSlot k, .emptying rest)
  | .emptying [] =>
    -- all deletions are one access to the store, and no lock of a model is taken
    let out := Store.clearAll e.models.store
    (e.withStore out.state, .returned out.result)
  | .returned result => (e, .returned result)

/-! ## Schedules -/

/-- A call and how far it has come. -/
structure Task where
  call : Call
  phase : Phase

/-- An engine, the calls that run on it, and a call that opts out. -/
structure World where
  engine : Engine
  tasks : List Task
  optOut : OptOut
  /-- The edits that have been saved so far, with the task of each. -/
  saves : List (Nat × Edit)

/-- Whose turn it is. -/
inductive Turn where
  | task (i : Nat)
  | optOut
  deriving DecidableEq, Repr

namespace World

/-- The store of all calls. -/
def store (w : World) : Store := w.engine.models.store

/-- Whether no call holds the lock of a model. -/
def isFree (w : World) (k : Kind) : Bool := w.tasks.all (fun t => t.phase.holds != some k)

/-- Calls on an engine before any of them has done anything. -/
def new (e : Engine) (calls : List Call) : World :=
  ⟨e, calls.map (fun c => ⟨c, .begun⟩), .pending, []⟩

/-- What a task saves in its next step. -/
def savedBy (i : Nat) : Phase → List (Nat × Edit)
  | .updating x (.copied _) => [(i, x)]
  | _ => []

/-- A task has come further, and has saved some edits. -/
def moved (w : World) (i : Nat) (e : Engine) (t : Task) (new : List (Nat × Edit)) : World :=
  { w with engine := e, tasks := w.tasks.set i t, saves := w.saves ++ new }

/-- One step of a task. -/
def stepTask (w : World) (i : Nat) : World :=
  match w.tasks[i]? with
  | none => w
  | some t =>
    let (e, phase) := t.phase.next t.call w.isFree w.engine
    w.moved i e ⟨t.call, phase⟩ (savedBy i t.phase)

/-- One step. -/
def step (w : World) : Turn → World
  | .task i => w.stepTask i
  | .optOut =>
    let (e, optOut) := w.optOut.next w.engine
    { w with engine := e, optOut := optOut }

/-- Steps in the order of a schedule. -/
def run (w : World) (turns : List Turn) : World := turns.foldl step w

end World

end Audience
