import Audience.Proofs.StoredValues

/-! # An update step by step

An update takes the lock of its model, loads the value, saves the changed one and gives the lock
back. Each of these is one step, and what others do comes in between.

* **`Update k`** — how far an update has come, and **`Update.next`**, one step.
* **`Update.Moves`** — what one step can do. -/

namespace Audience

/-- How far an update of the value of a model has come. -/
inductive Update (k : Kind) where
  /-- The lock is needed. -/
  | waiting
  /-- The lock is held. -/
  | locked
  /-- The stored value has been loaded. -/
  | copied (copy : k.Value)
  /-- The changed value has been saved, or an access has failed; the lock is still held. -/
  | stored

namespace Update

variable {k : Kind}

/-- Whether the lock is held. -/
def holds : Update k → Bool
  | .waiting => false
  | .locked => true
  | .copied _ => true
  | .stored => true

/-- One step of an update, after which the lock has been given back if nothing is left to do. An
update waits for a lock that is not free, and gives up on one that is poisoned. -/
def next (change : k.Value → k.Value) (isFree isPoisoned : Bool) (s : Store) :
    Update k → Store × Option (Update k)
  | .waiting =>
    if isFree then
      if isPoisoned then (s, none) else (s, some .locked)
    else (s, some .waiting)
  | .locked =>
    let out := k.load s
    match out.result with
    | .ok v => (out.state, some (.copied v))
    | .error _ => (out.state, some .stored)
  | .copied v => ((k.save (change v) s).state, some .stored)
  | .stored => (s, none)

/-- What one step of an update can do. -/
inductive Moves (change : k.Value → k.Value) (isFree isPoisoned : Bool) (s : Store) :
    Update k → Store → Option (Update k) → Prop
  | wait : Moves change isFree isPoisoned s .waiting s (some .waiting)
  | giveUp (hpoisoned : isPoisoned = true) : Moves change isFree isPoisoned s .waiting s none
  | acquire (hfree : isFree = true) (hsound : isPoisoned = false) :
    Moves change isFree isPoisoned s .waiting s (some .locked)
  | load {v : k.Value} (hload : (k.load s).result = .ok v) :
    Moves change isFree isPoisoned s .locked s (some (.copied v))
  | fail {e : Failure} (hload : (k.load s).result = .error e) :
    Moves change isFree isPoisoned s .locked s (some .stored)
  | save (v : k.Value) :
    Moves change isFree isPoisoned s (.copied v) (k.save (change v) s).state (some .stored)
  | release : Moves change isFree isPoisoned s .stored s none

/-- Every step of an update does one of these. -/
theorem moves_next (change : k.Value → k.Value) (isFree isPoisoned : Bool) (s : Store)
    (u : Update k) : Moves change isFree isPoisoned s u (u.next change isFree isPoisoned s).1
      (u.next change isFree isPoisoned s).2 := by
  cases u with
  | waiting =>
    cases isFree with
    | false => exact .wait
    | true =>
      cases isPoisoned with
      | true => exact .giveUp rfl
      | false => exact .acquire rfl rfl
  | locked =>
    have hstate := (k.load_cases s).1
    simp only [next]
    cases hload : (k.load s).result with
    | ok v =>
      rw [hstate]
      exact .load hload
    | error e =>
      rw [hstate]
      exact .fail hload
  | copied v => exact .save v
  | stored => exact .release

end Update

end Audience
