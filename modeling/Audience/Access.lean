import Audience.Op

/-! # Access to stored values

A model keeps one value in a store that it shares with others. It reaches the value through an
access: a pair of operations on the store. Updating the value takes both, so the model holds a lock
meanwhile; a crash under the lock poisons it, and no later update gets through.

* **`Access σ α`** — loads and saves a value of type `α` in a store `σ`.
* **`Running μ σ`** — a model together with its store.
* **`Op.underLock`** — an operation under the lock of a model. -/

namespace Audience

/-- How a value is loaded from a store and saved to it. -/
structure Access (σ α : Type) where
  load : Op σ α
  save : α → Op σ Unit

/-- A model together with the store that it works on. -/
structure Running (μ σ : Type) where
  model : μ
  store : σ

namespace Op

variable {μ σ α : Type}

/-- An operation on the store of a running model. -/
def onStore (x : Op σ α) : Op (Running μ σ) α :=
  zoom Running.store (fun s r => { r with store := s }) x

/-- Reads a value off the model. -/
def ofModel (f : μ → α) : Op (Running μ σ) α := read (fun r => f r.model)

/-- What is said about a poisoned lock. -/
def poisonedDetails : String := "poisoned lock: another task failed inside"

/-- An operation on the store under the lock of the model. It does not run once the lock is
poisoned, and a crash within it poisons the lock. -/
def underLock (isPoisoned : μ → Bool) (poison : μ → μ) (x : Op σ α) : Op (Running μ σ) α := fun r =>
  if isPoisoned r.model then ⟨.error (.error (.storage (.lockPoisoned poisonedDetails))), r, []⟩
  else
    let out := x r.store
    match out.result with
    | .error .crash => ⟨out.result, ⟨poison r.model, out.state⟩, out.log⟩
    | _ => ⟨out.result, ⟨r.model, out.state⟩, out.log⟩

/-- The value of an operation, where a stored value that does not decode counts as the one given,
with a warning. -/
def orFresh (x : Op σ α) (fresh : α) (warning : String) : Op σ α := do
  match ← attempt x with
  | .ok a => return a
  | .error e =>
    if e.isMalformedState then
      log .warn warning
      return fresh
    else fail e

end Op

end Audience
