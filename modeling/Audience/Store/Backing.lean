import Audience.Store.Basic

/-! # The backing of the models

The models reach what they have stored through a backing: one access for each of them. The store is
one backing; to rehearse an outage, a backing can be made to fail.

* **`Backing σ`** — the accesses of all models to a store `σ`.
* **`Store.backing`** — the accesses to the store.
* **`Fault`** — a way to fail, and **`Backing.withFaults`**, a backing that fails. -/

namespace Audience

/-- The accesses of all models. -/
structure Backing (σ : Type) where
  history : Access σ History
  window : Access σ Window
  arms : Access σ Arms
  events : EventAccess σ

/-- The accesses to the store. -/
def Store.backing : Backing Store := ⟨Store.history, Store.window, Store.arms, Store.events⟩

/-! ## Rehearsed outages -/

/-- The operations that can be made to fail. -/
inductive FaultPoint where
  | load
  | save
  | purge
  deriving DecidableEq, Repr

/-- A point at which an access fails, and whether it crashes there. -/
structure Fault where
  point : FaultPoint
  crashes : Bool
  deriving DecidableEq, Repr

variable {σ α : Type}

/-- The operation at a point, or the failure that stands in for it. -/
def Fault.standIn (fault : Option Fault) (point : FaultPoint) (x : Op σ α) : Op σ α :=
  match fault with
  | none => x
  | some f =>
    if f.point ≠ point then x
    else if f.crashes then .crash
    else .fail (.loadFailure "store" "database is locked")

/-- An access that fails. -/
def Access.withFault (access : Access σ α) (fault : Option Fault) : Access σ α where
  load := Fault.standIn fault .load access.load
  save a := Fault.standIn fault .save (access.save a)

/-- An access to events that fails. -/
def EventAccess.withFault (access : EventAccess σ) (fault : Option Fault) : EventAccess σ where
  insert e := Fault.standIn fault .save (access.insert e)
  all := Fault.standIn fault .load access.all
  keepNewest keep := Fault.standIn fault .purge (access.keepNewest keep)

/-- The faults of the accesses of all models. -/
structure Faults where
  history : Option Fault
  window : Option Fault
  arms : Option Fault
  events : Option Fault
  deriving DecidableEq, Repr

/-- No faults. -/
def Faults.none : Faults := ⟨.none, .none, .none, .none⟩

/-- A backing that fails. -/
def Backing.withFaults (b : Backing σ) (f : Faults) : Backing σ :=
  ⟨b.history.withFault f.history, b.window.withFault f.window, b.arms.withFault f.arms,
    b.events.withFault f.events⟩

end Audience
