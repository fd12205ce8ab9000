import Audience.Error
import Audience.Log

/-! # Operations

An operation takes a state to an outcome, the state afterwards and the lines that it logged. The
outcome is a value, an error, or a crash: the state a failed operation leaves behind is kept.

* **`Op σ α`** — operations on states `σ` with values `α`.
* **`Op.zoom get set op`** — an operation on a part of the state.
* **`Op.attempt op`** — turns an error into a value; a crash stays one. -/

namespace Audience

/-- How an operation ends without a value. -/
inductive Failure where
  | error (e : Error)
  /-- The operation was cut off in the middle. -/
  | crash
  deriving DecidableEq, Repr

/-- What an operation leaves behind. -/
structure Outcome (σ α : Type) where
  result : Except Failure α
  state : σ
  log : List LogLine

/-- An operation on a state. -/
def Op (σ α : Type) : Type := σ → Outcome σ α

namespace Op

variable {σ τ α β : Type}

/-- The operation that gives a value and does nothing else. -/
protected def pure (a : α) : Op σ α := fun s => ⟨.ok a, s, []⟩

/-- One operation after another. The second one does not run after a failure. -/
protected def bind (x : Op σ α) (f : α → Op σ β) : Op σ β := fun s =>
  let r := x s
  match r.result with
  | .ok a =>
    let r' := f a r.state
    ⟨r'.result, r'.state, r.log ++ r'.log⟩
  | .error e => ⟨.error e, r.state, r.log⟩

instance : Monad (Op σ) where
  pure := Op.pure
  bind := Op.bind

/-- The current state. -/
def get : Op σ σ := fun s => ⟨.ok s, s, []⟩

/-- Replaces the state. -/
def set (s : σ) : Op σ Unit := fun _ => ⟨.ok (), s, []⟩

/-- Changes the state. -/
def modify (f : σ → σ) : Op σ Unit := fun s => ⟨.ok (), f s, []⟩

/-- Fails with an error. -/
def fail (e : Error) : Op σ α := fun s => ⟨.error (.error e), s, []⟩

/-- Crashes. -/
def crash : Op σ α := fun s => ⟨.error .crash, s, []⟩

/-- Gives a value or fails with an error. -/
def ofExcept : Except Error α → Op σ α
  | .ok a => Op.pure a
  | .error e => fail e

/-- Ends with a result. -/
def ofResult (r : Except Failure α) : Op σ α := fun s => ⟨r, s, []⟩

/-- Logs a line. -/
def log (level : LogLevel) (message : String) : Op σ Unit :=
  fun s => ⟨.ok (), s, [⟨level, message, none⟩]⟩

/-- Logs a line about a model. -/
def logFor (model : String) (level : LogLevel) (message : String) : Op σ Unit :=
  fun s => ⟨.ok (), s, [⟨level, message, some model⟩]⟩

/-- Turns an error into a value. A crash stays one. -/
def attempt (x : Op σ α) : Op σ (Except Error α) := fun s =>
  let r := x s
  match r.result with
  | .ok a => ⟨.ok (.ok a), r.state, r.log⟩
  | .error (.error e) => ⟨.ok (.error e), r.state, r.log⟩
  | .error .crash => ⟨.error .crash, r.state, r.log⟩

/-- An operation on a part of the state. -/
def zoom (view : τ → σ) (put : σ → τ → τ) (x : Op σ α) : Op τ α := fun t =>
  let r := x (view t)
  ⟨r.result, put r.state t, r.log⟩

/-- Reads a value off the state. -/
def read (f : σ → α) : Op σ α := fun s => ⟨.ok (f s), s, []⟩

/-! ## Readings -/

/-- A pure operation keeps the state and logs nothing. -/
@[simp] theorem pure_apply (a : α) (s : σ) : (pure a : Op σ α) s = ⟨.ok a, s, []⟩ := rfl

/-- After a value, the next operation runs on the state that the first one left. -/
theorem bind_ok {x : Op σ α} {f : α → Op σ β} {s s' : σ} {a : α} {l : List LogLine}
    (h : x s = ⟨.ok a, s', l⟩) :
    (x >>= f) s = ⟨(f a s').result, (f a s').state, l ++ (f a s').log⟩ := by
  change Op.bind x f s = _
  simp [Op.bind, h]

/-- After a failure nothing runs. -/
theorem bind_error {x : Op σ α} {f : α → Op σ β} {s s' : σ} {e : Failure} {l : List LogLine}
    (h : x s = ⟨.error e, s', l⟩) : (x >>= f) s = ⟨.error e, s', l⟩ := by
  change Op.bind x f s = _
  simp [Op.bind, h]

end Op

end Audience
