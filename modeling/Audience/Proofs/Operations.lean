import Audience.Access

/-! # Facts about operations

How operations that are put together run: each lemma says what a composed operation leaves behind
in terms of what its parts do.

* **`Op.bind_get`**, **`Op.bind_ofModel`** — operations that keep the state.
* **`Op.orFresh_ok`**, **`Op.orFresh_malformed`**, **`Op.orFresh_error`** — a value or a fresh one.
* **`Op.underLock_ok`**, **`Op.state_underLock`** — an operation under a lock.
* **`Op.NeverCrashes x`** — an operation that is never cut off. -/

namespace Audience

/-- An outcome with a given result and a given state. -/
theorem Outcome.eq_mk {σ α : Type} {o : Outcome σ α} {r : Except Failure α} {s : σ}
    (hresult : o.result = r) (hstate : o.state = s) : o = ⟨r, s, o.log⟩ := by
  subst hresult hstate
  rfl

namespace Op

variable {μ σ α β : Type}

/-- After an operation, its value may be given once more. -/
theorem bind_pure_eq (x : Op σ α) : Op.bind x Op.pure = x := by
  funext s
  rw [Op.bind]
  cases x s with
  | mk result s' l => cases result <;> simp [Op.pure]

/-- Of three operations the first two or the last two may be put together first. -/
theorem bind_bind_eq {γ : Type} (x : Op σ α) (f : α → Op σ β) (g : β → Op σ γ) :
    Op.bind (Op.bind x f) g = Op.bind x (fun a => Op.bind (f a) g) := by
  funext s
  simp only [Op.bind]
  cases (x s).result with
  | error e => rfl
  | ok a => cases hf : (f a (x s).state).result <;> simp [hf]

instance : LawfulMonad (Op σ) :=
  LawfulMonad.mk' (Op σ) bind_pure_eq (fun _ _ => rfl) bind_bind_eq

/-- The state is handed on. -/
@[simp] theorem bind_get (f : σ → Op σ β) (s : σ) : ((get : Op σ σ) >>= f) s = f s s := rfl

/-- What is read off the model is handed on. -/
@[simp] theorem bind_ofModel (g : μ → α) (f : α → Op (Running μ σ) β) (r : Running μ σ) :
    (ofModel g >>= f) r = f (g r.model) r := rfl

/-- What is given is the result, and the state is kept. -/
theorem ofExcept_apply (r : Except Error α) (s : σ) :
    ofExcept r s = ⟨r.mapError Failure.error, s, []⟩ := by
  cases r <;> rfl

/-- A value that is given is handed on. -/
@[simp] theorem bind_ofExcept_ok (a : α) (f : α → Op σ β) (s : σ) :
    (ofExcept (.ok a) >>= f) s = f a s := rfl

/-- A value that is the result is handed on. -/
@[simp] theorem bind_ofResult_ok (a : α) (f : α → Op σ β) (s : σ) :
    (ofResult (.ok a) >>= f) s = f a s := rfl

/-- After a failure that is the result nothing runs. -/
@[simp] theorem bind_ofResult_error (e : Failure) (f : α → Op σ β) (s : σ) :
    (ofResult (.error e) >>= f) s = ⟨.error e, s, []⟩ := rfl

/-- An operation that keeps the state may follow another one. -/
theorem state_bind_of_keeps {x : Op σ α} {f : α → Op σ β} (hf : ∀ a s, (f a s).state = s) (s : σ) :
    ((x >>= f) s).state = (x s).state := by
  change (Op.bind x f s).state = _
  rw [Op.bind]
  cases (x s).result with
  | ok a => exact hf a _
  | error e => rfl

/-- After a value, the next operation runs on the state that the first one left. -/
theorem state_bind_of_ok {x : Op σ α} {f : α → Op σ β} {s : σ} {a : α} (h : (x s).result = .ok a) :
    ((x >>= f) s).state = (f a (x s).state).state := by
  change (Op.bind x f s).state = _
  rw [Op.bind, h]

/-- After a value, the result is that of the next operation. -/
theorem result_bind_of_ok {x : Op σ α} {f : α → Op σ β} {s : σ} {a : α} (h : (x s).result = .ok a) :
    ((x >>= f) s).result = (f a (x s).state).result := by
  change (Op.bind x f s).result = _
  rw [Op.bind, h]

/-- An operation that always gives a value turns the value before it into that one. -/
theorem result_bind_of_value {x : Op σ α} {f : α → Op σ β} {g : α → β}
    (hf : ∀ a s, (f a s).result = .ok (g a)) (s : σ) :
    ((x >>= f) s).result = (x s).result.map g := by
  cases hout : x s with
  | mk result s' l =>
    cases result with
    | error e => rw [bind_error hout, Except.map]
    | ok a => rw [bind_ok hout, hf, Except.map]

/-- Turning errors into values keeps the state that is left behind. -/
theorem state_attempt (x : Op σ α) (s : σ) : (attempt x s).state = (x s).state := by
  rw [attempt]
  cases (x s).result with
  | ok a => rfl
  | error e => cases e <;> rfl

/-! ## Fresh values -/

section OrFresh

variable {x : Op σ α} {s s' : σ} {l : List LogLine} (fresh : α) (warning : String)

/-- A value is kept. -/
theorem orFresh_ok {a : α} (h : x s = ⟨.ok a, s', l⟩) :
    orFresh x fresh warning s = ⟨.ok a, s', l⟩ := by
  have hattempt : attempt x s = ⟨.ok (.ok a), s', l⟩ := by rw [attempt, h]
  rw [orFresh, bind_ok hattempt]
  simp

/-- A value that does not decode is replaced, with a warning. -/
theorem orFresh_malformed {e : Error} (he : e.isMalformedState = true)
    (h : x s = ⟨.error (.error e), s', l⟩) :
    orFresh x fresh warning s = ⟨.ok fresh, s', l ++ [⟨.warn, warning, none⟩]⟩ := by
  have hattempt : attempt x s = ⟨.ok (.error e), s', l⟩ := by rw [attempt, h]
  rw [orFresh, bind_ok hattempt]
  simp only [he]
  rfl

/-- Any other error stays. -/
theorem orFresh_error {e : Error} (he : e.isMalformedState = false)
    (h : x s = ⟨.error (.error e), s', l⟩) :
    orFresh x fresh warning s = ⟨.error (.error e), s', l⟩ := by
  have hattempt : attempt x s = ⟨.ok (.error e), s', l⟩ := by rw [attempt, h]
  rw [orFresh, bind_ok hattempt]
  simp [he, fail]

end OrFresh

/-! ## Locks -/

/-- An operation that succeeds leaves the model as it was. -/
theorem underLock_ok {isPoisoned : μ → Bool} (poison : μ → μ) {x : Op σ α} {m : μ} {s s' : σ}
    {a : α} {l : List LogLine} (hm : isPoisoned m = false) (h : x s = ⟨.ok a, s', l⟩) :
    underLock isPoisoned poison x ⟨m, s⟩ = ⟨.ok a, ⟨m, s'⟩, l⟩ := by
  simp [underLock, hm, h]

/-! ## Crashes -/

/-- An operation that is never cut off. -/
def NeverCrashes (x : Op σ α) : Prop := ∀ s, (x s).result ≠ .error .crash

namespace NeverCrashes

/-- A value is not a crash. -/
theorem pure (a : α) : NeverCrashes (Pure.pure a : Op σ α) := fun _ h => nomatch h

/-- An error is not a crash. -/
theorem fail (e : Error) : NeverCrashes (Op.fail e : Op σ α) := fun _ h => nomatch h

/-- Reading is not a crash. -/
theorem read (f : σ → α) : NeverCrashes (Op.read f) := fun _ h => nomatch h

/-- Logging is not a crash. -/
theorem log (level : LogLevel) (message : String) :
    NeverCrashes (Op.log level message : Op σ Unit) := fun _ h => nomatch h

/-- Nothing is cut off if neither part is. -/
theorem bind {x : Op σ α} {f : α → Op σ β} (hx : x.NeverCrashes) (hf : ∀ a, (f a).NeverCrashes) :
    NeverCrashes (x >>= f) := by
  intro s
  change (Op.bind x f s).result ≠ _
  rw [Op.bind]
  cases h : (x s).result with
  | ok a => exact hf a _
  | error e =>
    cases e with
    | error e =>
      intro hcrash
      cases hcrash
    | crash => exact absurd h (hx s)

/-- Turning errors into values adds no crash. -/
theorem attempt {x : Op σ α} (hx : x.NeverCrashes) : NeverCrashes (Op.attempt x) := by
  intro s
  rw [Op.attempt]
  cases h : (x s).result with
  | ok a => exact fun h => nomatch h
  | error e =>
    cases e with
    | error e => exact fun h => nomatch h
    | crash => exact absurd h (hx s)

/-- An operation on a part of the state adds no crash. -/
theorem zoom {τ : Type} {view : τ → σ} {put : σ → τ → τ} {x : Op σ α} (hx : x.NeverCrashes) :
    NeverCrashes (Op.zoom view put x) := fun t => hx (view t)

/-- A lock adds no crash. -/
theorem underLock {isPoisoned : μ → Bool} {poison : μ → μ} {x : Op σ α} (hx : x.NeverCrashes) :
    NeverCrashes (Op.underLock isPoisoned poison x) := by
  intro r
  rw [Op.underLock]
  split
  · exact fun h => nomatch h
  · cases h : (x r.store).result with
    | ok a => simp [h]
    | error e =>
      cases e with
      | error e => simp [h]
      | crash => exact absurd h (hx r.store)

/-- Starting afresh adds no crash. -/
theorem orFresh {x : Op σ α} (hx : x.NeverCrashes) (fresh : α) (warning : String) :
    NeverCrashes (Op.orFresh x fresh warning) := by
  refine hx.attempt.bind fun r => ?_
  cases r with
  | ok a => exact .pure a
  | error e =>
    -- only a value that does not decode is replaced
    change NeverCrashes (if e.isMalformedState = true then _ else _)
    split
    · exact bind (.log _ _) fun _ => .pure fresh
    · exact .fail e

end NeverCrashes

/-- An operation that is never cut off does to the store under a lock what it does to it alone. -/
theorem state_underLock {isPoisoned : μ → Bool} {poison : μ → μ} {x : Op σ α}
    (hx : x.NeverCrashes) (r : Running μ σ) : (underLock isPoisoned poison x r).state
      = if isPoisoned r.model then r else ⟨r.model, (x r.store).state⟩ := by
  rw [underLock]
  split
  · rfl
  · cases h : (x r.store).result with
    | ok a => simp [h]
    | error e =>
      cases e with
      | error e => simp [h]
      | crash => exact absurd h (hx r.store)

end Op

end Audience
