import Audience.Access
import Audience.Intent.Extract
import Audience.Intent.Score

/-! # The model of purchase intent

The model turns visits into signals, keeps their history in a store and predicts the segments with
the highest scores. Without its resource it ignores visits.

* **`IntentModel.visit`** — records the signal of a visit.
* **`IntentModel.buy`** — records a signal.
* **`IntentModel.predict`** — the segments that reach the threshold. -/

namespace Audience

/-- The settings of the model. -/
structure IntentConfig where
  enabled : Bool
  /-- The least score of a predicted segment. -/
  threshold : Nat
  /-- How long an entry counts, in seconds. -/
  windowSeconds : Nat
  /-- What a weight of one is worth. -/
  level : Nat
  /-- How many entries a trail keeps. -/
  trailCap : Nat
  /-- The version of the resource that the model takes. -/
  resourceVersion : Nat
  deriving DecidableEq, Repr

namespace IntentConfig

/-- How long an entry counts. -/
def window (c : IntentConfig) : Span := .ofSeconds c.windowSeconds

/-- How entries are scored. -/
def scoring (c : IntentConfig) : Scoring := ⟨c.window, c.level⟩

end IntentConfig

/-- The model of purchase intent. -/
structure IntentModel where
  config : IntentConfig
  resource : Slot IntentResource
  /-- Whether a crash has poisoned the lock of the history. -/
  poisoned : Bool

namespace IntentModel

/-- A model without its resource. -/
def new (config : IntentConfig) : IntentModel := ⟨config, .empty IntentResource.name, false⟩

/-- No prediction has more segments. -/
def predictionLimit : Nat := 3

variable {σ : Type}

/-- Installs the resource of a payload, or empties the slot. -/
def load (json : String) : Op IntentModel Unit := do
  let m ← Op.get
  let (result, slot) := m.resource.load (IntentResource.load json) m.config.resourceVersion
  Op.set { m with resource := slot }
  Op.ofExcept result
  Op.log .info "purchase intent resource loaded"

/-- Takes the resource out. -/
def reset (m : IntentModel) : IntentModel := { m with resource := m.resource.reset }

/-- The stored history; one that does not decode counts as empty. -/
def history (access : Access σ History) : Op σ History :=
  access.load.orFresh .empty "stored purchase intent history is malformed, starting empty"

/-- What is wrong with a signal, if anything is. -/
def objection? (s : Signal) : Option Error :=
  if s.segments.isEmpty then some (.invalidInput "signal has no segments")
  else if !s.segments.all Segment.isUsable then
    some (.invalidInput "signal has an empty segment")
  else none

/-- Adds a signal to the stored history. -/
def update (access : Access σ History) (cap : Nat) (s : Signal) : Op σ Unit := do
  let h ← history access
  access.save (h.record s cap)

/-- Records a signal. -/
def buy (access : Access σ History) (s : Signal) : Op (Running IntentModel σ) Unit := do
  match objection? s with
  | some e => Op.fail e
  | none =>
    let config ← Op.ofModel IntentModel.config
    Op.underLock IntentModel.poisoned (fun m => { m with poisoned := true })
      (update access config.trailCap s)
    Op.log .debug "purchase intent signal recorded"

/-- Records the signal of a visit, if there is one. -/
def visit (access : Access σ History) (address : String) (now : Instant) :
    Op (Running IntentModel σ) (Option Signal) := do
  match (← Op.ofModel IntentModel.resource).content with
  | none =>
    Op.log .debug "resource not ready, ignoring visit"
    return none
  | some r =>
    match r.signalOf? now address with
    | none => return none
    | some s =>
      buy access s
      return some s

/-- The scores of all segments with a live entry, ascending. -/
def scores (access : Access σ History) (config : IntentConfig) (now : Instant) :
    Op σ (List SegmentScore) := do
  let h ← history access
  return h.scores config.scoring now

/-- The segments with the highest scores that reach the threshold. -/
def predict (access : Access σ History) (config : IntentConfig) (now : Instant) :
    Op σ (List Segment) := do
  let scores ← scores access config now
  Op.log .debug "purchase intent predicted"
  return Audience.predict config.threshold predictionLimit scores

end IntentModel

end Audience
