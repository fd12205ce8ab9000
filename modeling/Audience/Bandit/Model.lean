import Audience.Access
import Audience.Bandit.Selection

/-! # The bandit model

The model learns from feedback on ads which segments are worth showing, and chooses among those that
are eligible. What it has learnt is kept in a store.

* **`BanditModel.process`** — records feedback on a segment.
* **`BanditModel.select`** — chooses segments. -/

namespace Audience

/-- The settings of the model. -/
structure BanditConfig where
  enabled : Bool
  /-- The probability of exploring. -/
  epsilon : Double
  /-- The segments that may be chosen at the start. -/
  eligible : List Segment
  /-- How many segments are chosen. -/
  maxSegments : Nat
  deriving DecidableEq, Repr

/-- Feedback on an ad for a segment. -/
structure Feedback where
  segment : Segment
  event : AdEvent
  deriving DecidableEq, Repr

/-- The bandit model. -/
structure BanditModel where
  config : BanditConfig
  /-- The segments that may be chosen: usable ones, each once. -/
  eligible : List Segment
  /-- Whether a crash has poisoned the lock of the arms. -/
  poisoned : Bool

namespace BanditModel

variable {σ : Type}

/-- A model with the eligible segments of its settings. -/
def new (config : BanditConfig) : BanditModel :=
  ⟨config, Segment.distinctUsable config.eligible, false⟩

/-- Replaces the eligible segments. What is known about others stays. -/
def setEligible (segments : List Segment) : Op BanditModel Unit := do
  Op.log .info "bandit eligible segments updated"
  Op.modify (fun m => { m with eligible := Segment.distinctUsable segments })

/-- The stored arms; arms that do not decode count as none. -/
def arms (access : Access σ Arms) : Op σ Arms :=
  access.load.orFresh .empty "stored bandit arms are malformed, starting empty"

/-- The reward of feedback, or what is wrong with it. -/
def rewardOf (f : Feedback) : Except Error Double :=
  if !Segment.isUsable f.segment then .error (.invalidInput "feedback segment is empty")
  else
    match f.event.reward? with
    | some r => .ok r
    | none => .error (.invalidInput ("`" ++ f.event.name ++ "` events carry no bandit reward"))

/-- Adds a reward to the stored arms. -/
def update (access : Access σ Arms) (s : Segment) (reward : Double) : Op σ Unit := do
  let a ← arms access
  access.save (a.record s reward)

/-- Records feedback on a segment. -/
def process (access : Access σ Arms) (f : Feedback) : Op (Running BanditModel σ) Unit := do
  let reward ← Op.ofExcept (rewardOf f)
  Op.underLock BanditModel.poisoned (fun m => { m with poisoned := true })
    (update access f.segment reward)
  Op.log .debug "bandit arm updated"

/-- A drawn value and the generator after it; a draw without result cuts the operation off. -/
def draw {α : Type} (d : Draw α) (g : Rng) : Op σ (α × Rng) :=
  match d g with
  | some r => pure r
  | none => Op.crash

/-- Chooses segments: explores or exploits as a draw says. -/
def select (access : Access σ Arms) (m : BanditModel) (epsilon : Double) (g : Rng) :
    Op σ (List Segment) := do
  let (explores, g) ← draw (shouldExplore epsilon) g
  if explores then
    let (picked, _) ← draw (explore m.eligible m.config.maxSegments) g
    Op.log .debug "bandit explored"
    return picked
  else
    let known ← arms access
    Op.log .debug "bandit exploited"
    return exploit m.eligible known m.config.maxSegments

end BanditModel

end Audience
