import Audience.Proofs.Interleaving
import Audience.Proofs.Lists
import Audience.Proofs.StoreDifference

/-! # Opting out while other calls run

Clearing the store takes no lock of a model, so it may fall between the load and the save of a call.
Then the call saves a copy of what was there before, and nothing of that model has been forgotten.
For every other model nothing that a call had contributed before is left.

* **`Phase.Moves`** — what one step of a call can do.
* **`World.Follows w k c`** — the stored value of a model is a given cell, or a call holds a copy of
  that cell and is going to save it.
* **`World.Follows.kept`**, **`World.Follows.loaded`**, **`World.Follows.saved`** — the three things
  that a step of a call can do to it.
* **`cells_after_optOut`** — what is stored after opting out, in any order of steps. -/

namespace Audience

/-! ## What a step can do -/

namespace Phase

/-- What one step of a call can do: it keeps the client state and holds no copy before or after, it
loads a copy, or it saves the changed copy. -/
inductive Moves (isFree : Kind → Bool) (e : Engine) : Phase → Engine → Phase → Prop
  | quiet {p p' : Phase} {e' : Engine}
    (hstore : Store.SameBut [] [Database.eventTable] e.models.store e'.models.store)
    (hp : ∀ k, p.hasCopy k = false) (hp' : ∀ k, p'.hasCopy k = false)
    (hlock : ∀ k, p'.holds = some k → p.holds = some k ∨ isFree k = true) : Moves isFree e p e' p'
  | load {x : Edit} {v : x.kind.Value} (hload : (x.kind.load e.models.store).result = .ok v) :
    Moves isFree e (.updating x .locked) e (.updating x (.copied v))
  | save (x : Edit) (v : x.kind.Value) : Moves isFree e (.updating x (.copied v))
    (e.withStore (x.kind.save (x.change v) e.models.store).state) (.updating x .stored)

/-- A step of an update is a step of the call that makes it. -/
theorem moves_of_update {isFree : Kind → Bool} {e : Engine} {x : Edit} {isPoisoned : Bool}
    {u : Update x.kind} {s : Store} {u' : Option (Update x.kind)}
    (h : u.Moves x.change (isFree x.kind) isPoisoned e.models.store s u') :
    Moves isFree e (.updating x u) (e.withStore s) (ofUpdate x u') := by
  have hsame := Store.SameBut.refl [] [Database.eventTable] e.models.store
  cases h with
  | wait => exact .quiet hsame (fun _ => rfl) (fun _ => rfl) fun _ hk => .inl hk
  | giveUp _ => exact .quiet hsame (fun _ => rfl) (fun _ => rfl) fun _ hk => nomatch hk
  | acquire hfree _ =>
    refine .quiet hsame (fun _ => rfl) (fun _ => rfl) fun k hk => .inr ?_
    rw [← Option.some.inj hk]
    exact hfree
  | load hload => exact .load hload
  | fail _ => exact .quiet hsame (fun _ => rfl) (fun _ => rfl) fun _ hk => .inl hk
  | save v => exact .save x v
  | release => exact .quiet hsame (fun _ => rfl) (fun _ => rfl) fun _ hk => nomatch hk

/-- Every step of a call does one of these. -/
theorem moves_next (c : Call) (isFree : Kind → Bool) (e : Engine) (p : Phase) :
    Moves isFree e p (p.next c isFree e).1 (p.next c isFree e).2 := by
  have hsame := Store.SameBut.refl [] [Database.eventTable] e.models.store
  have hnone : ∀ (q : Phase) (k : Kind), none = some k → q.holds = some k ∨ isFree k = true :=
    fun _ _ h => nomatch h
  cases p with
  | begun =>
    rw [next]
    cases c.edit? e <;> exact .quiet hsame (fun _ => rfl) (fun _ => rfl) (hnone _)
  | updating x u => exact moves_of_update (u.moves_next x.change _ _ _)
  | released =>
    rw [next]
    cases c.event? e <;> exact .quiet hsame (fun _ => rfl) (fun _ => rfl) (hnone _)
  | inserting event =>
    simp only [next]
    cases (Store.events.insert event e.models.store).result <;>
      exact .quiet (.insert event _) (fun _ => rfl) (fun _ => rfl) (hnone _)
  | purging => exact .quiet (.purge _ _) (fun _ => rfl) (fun _ => rfl) (hnone _)
  | finished => exact .quiet hsame (fun _ => rfl) (fun _ => rfl) (hnone _)

variable {isFree : Kind → Bool} {e e' : Engine} {p p' : Phase}

/-- A lock is held after a step only if it was held before or was free. -/
theorem Moves.holds (h : Moves isFree e p e' p') {k : Kind} (hk : p'.holds = some k) :
    p.holds = some k ∨ isFree k = true := by
  cases h with
  | quiet _ _ _ hlock => exact hlock k hk
  | load => exact .inl hk
  | save => exact .inl hk

/-- A store that keeps rows keeps rows after a step. -/
theorem Moves.keeps (h : Moves isFree e p e' p') (hs : ∃ rows, e.models.store.Keeps rows) :
    ∃ rows, e'.models.store.Keeps rows := by
  obtain ⟨rows, hs⟩ := hs
  cases h with
  | quiet hstore => exact ⟨rows, hstore.keeps hs⟩
  | load => exact ⟨rows, hs⟩
  | save x v => exact Kind.keeps_save hs x.kind _

end Phase

/-! ## Invariants -/

namespace World

variable {w : World}

/-- A task is in a phase. -/
def At (w : World) (i : Nat) (p : Phase) : Prop := ∃ c, w.tasks[i]? = some ⟨c, p⟩

/-- What a step of a task does to the world. -/
theorem stepTask_eq {i : Nat} {c : Call} {p : Phase} (h : w.tasks[i]? = some ⟨c, p⟩) :
    ∃ e p', Phase.Moves w.isFree w.engine p e p' ∧ (p.isFinished = true → p' = .finished) ∧
      w.stepTask i = w.moved i e ⟨c, p'⟩ (savedBy i p) := by
  refine ⟨_, _, Phase.moves_next c w.isFree w.engine p, ?_, ?_⟩
  · cases p <;> intro hfinished <;> first | rfl | cases hfinished
  · rw [stepTask, h]

section Moved

variable {i j : Nat} {c : Call} {p q : Phase} {e : Engine} {new : List (Nat × Edit)}

/-- After a step of a task, each task is in its old phase or is the one that moved. -/
theorem at_moved (h : (w.moved i e ⟨c, p⟩ new).At j q) : (j = i ∧ q = p) ∨ (j ≠ i ∧ w.At j q) := by
  obtain ⟨c', h⟩ := h
  rcases getElem?_set_cases h with ⟨hj, hmoved⟩ | ⟨hne, hold⟩
  · exact .inl ⟨hj, (Task.mk.inj hmoved).2⟩
  · exact .inr ⟨hne, c', hold⟩

/-- After a step of a task, the task that moved is in its new phase. -/
theorem at_moved_self (h : w.At i q) : (w.moved i e ⟨c, p⟩ new).At i p := by
  obtain ⟨c', h⟩ := h
  obtain ⟨hlt, _⟩ := List.getElem?_eq_some_iff.1 h
  exact ⟨c, List.getElem?_set_self hlt⟩

/-- After a step of a task, the others are in their old phases. -/
theorem at_moved_of_ne (hne : j ≠ i) (h : w.At j q) : (w.moved i e ⟨c, p⟩ new).At j q := by
  obtain ⟨c', h⟩ := h
  exact ⟨c', (List.getElem?_set_ne (Ne.symm hne)).trans h⟩

end Moved

/-- A task is in one phase. -/
theorem At.unique {i : Nat} {p q : Phase} (hp : w.At i p) (hq : w.At i q) : p = q := by
  obtain ⟨c, hp⟩ := hp
  obtain ⟨c', hq⟩ := hq
  rw [hp] at hq
  exact (Task.mk.inj (Option.some.inj hq)).2

/-- A free lock is held by no task. -/
theorem not_holds_of_isFree {k : Kind} (h : w.isFree k = true) {i : Nat} {p : Phase}
    (hp : w.At i p) : p.holds ≠ some k := by
  obtain ⟨c, hc⟩ := hp
  have hall := List.all_eq_true.1 h ⟨c, p⟩ (List.mem_of_getElem? hc)
  exact bne_iff_ne.1 hall

/-- Every lock is held by one task at most, and only a store that keeps rows has been copied
from. -/
structure Orderly (w : World) : Prop where
  exclusive : ∀ {i j p q k}, w.At i p → w.At j q → p.holds = some k → q.holds = some k → i = j
  sound : ∀ {i p k}, w.At i p → p.hasCopy k = true → ∃ rows, w.store.Keeps rows

/-- Calls that have not done anything are orderly. -/
theorem orderly_new (e : Engine) (calls : List Call) : (new e calls).Orderly := by
  have hbegun : ∀ {i p}, (new e calls).At i p → p = .begun := by
    intro i p hp
    obtain ⟨c, hc⟩ := hp
    obtain ⟨c', _, hc'⟩ := List.mem_map.1 (List.mem_of_getElem? hc)
    exact (Task.mk.inj hc').2.symm
  constructor
  · intro i j p q k hp _ hk
    rw [hbegun hp] at hk
    cases hk
  · intro i p k hp hcopy
    rw [hbegun hp] at hcopy
    cases hcopy

/-- A step of a task keeps the world orderly. -/
theorem Orderly.stepTask (hw : w.Orderly) (i : Nat) : (w.stepTask i).Orderly := by
  cases ht : w.tasks[i]? with
  | none =>
    rw [World.stepTask, ht]
    exact hw
  | some t =>
    obtain ⟨c, p⟩ := t
    obtain ⟨e, p', hmoves, _, heq⟩ := stepTask_eq ht
    rw [heq]
    -- no other task holds a lock that the task holds after the step
    have hother : ∀ {j q k}, w.At j q → j ≠ i → p'.holds = some k → q.holds ≠ some k := by
      intro j q k hq hne hk hq'
      rcases hmoves.holds hk with hheld | hfree
      · exact hne (hw.exclusive hq ⟨c, ht⟩ hq' hheld)
      · exact not_holds_of_isFree hfree hq hq'
    constructor
    · intro j₁ j₂ q₁ q₂ k h₁ h₂ hk₁ hk₂
      rcases at_moved h₁ with ⟨hj₁, hq₁⟩ | ⟨hne₁, hold₁⟩
      · rcases at_moved h₂ with ⟨hj₂, _⟩ | ⟨hne₂, hold₂⟩
        · exact hj₁.trans hj₂.symm
        · exact absurd hk₂ (hother hold₂ hne₂ (hq₁ ▸ hk₁))
      · rcases at_moved h₂ with ⟨_, hq₂⟩ | ⟨_, hold₂⟩
        · exact absurd hk₁ (hother hold₁ hne₁ (hq₂ ▸ hk₂))
        · exact hw.exclusive hold₁ hold₂ hk₁ hk₂
    · intro j q k h hcopy
      -- a copy was loaded in this step or is an old one
      rcases at_moved h with ⟨_, rfl⟩ | ⟨_, hold⟩
      · cases hmoves with
        | quiet _ _ hp' =>
          rw [hp' k] at hcopy
          cases hcopy
        | @load x v hload => exact ((x.kind.load_cases _).2 v hload).1
        | save => cases hcopy
      · exact hmoves.keeps (hw.sound hold hcopy)

/-- The stored value of a model is a given cell, or a task holds a copy of that cell. -/
structure Follows (w : World) (k : Kind) (c : Option Cell) : Prop where
  copy : ∀ {i x v}, w.At i (.updating x (.copied v)) → x.kind = k → v = x.kind.valueOf c
  cell : (∀ i p, w.At i p → p.hasCopy k = false) → w.store.cell k.key = c

/-- What edits of a model make of a cell, one after another. -/
def applySaves (k : Kind) (c : Option Cell) (saves : List (Nat × Edit)) : Option Cell :=
  (saves.filter (fun s => decide (s.2.kind = k))).foldl (fun c s => s.2.apply c) c

/-- A task that holds no copy of the value of a model makes no change of it. -/
theorem applySaves_savedBy {p : Phase} {k : Kind} (h : p.hasCopy k = false) (i : Nat)
    (c : Option Cell) : applySaves k c (savedBy i p) = c := by
  cases p with
  | updating x u =>
    cases u with
    | copied v =>
      have hk : x.kind ≠ k := of_decide_eq_false h
      simp [applySaves, savedBy, hk]
    | waiting | locked | stored => rfl
  | begun | released | inserting | purging | finished => rfl

/-- A copy is held under the lock. -/
theorem holds_of_hasCopy {p : Phase} {k : Kind} (h : p.hasCopy k = true) : p.holds = some k := by
  cases p with
  | updating x u =>
    cases u with
    | copied v => exact congrArg some (of_decide_eq_true h)
    | waiting | locked | stored => cases h
  | begun | released | inserting | purging | finished => cases h

section Step

variable {k : Kind} {c : Option Cell} {i : Nat} {call : Call} {p p' : Phase} {e : Engine}
  {new : List (Nat × Edit)} {x : Edit} {v : x.kind.Value}

/-- A step that keeps the cell of a model and is not about a copy of its value. -/
theorem Follows.kept (hf : w.Follows k c) (ht : w.At i p)
    (hcell : e.models.store.cell k.key = w.store.cell k.key) (hp : p.hasCopy k = false)
    (hp' : p'.hasCopy k = false) : (w.moved i e ⟨call, p'⟩ new).Follows k c := by
  constructor
  · intro j y u h hk
    rcases at_moved h with ⟨_, rfl⟩ | ⟨_, hold⟩
    · exact absurd hk (of_decide_eq_false hp')
    · exact hf.copy hold hk
  · intro hnone
    refine hcell.trans (hf.cell fun j q h => ?_)
    by_cases hj : j = i
    · subst hj
      rw [ht.unique h] at hp
      exact hp
    · exact hnone j q (at_moved_of_ne hj h)

/-- A step that loads the value of the model. -/
theorem Follows.loaded (hw : w.Orderly) (hf : w.Follows x.kind c)
    (ht : w.At i (.updating x .locked)) (hv : v = x.kind.valueOf (w.store.cell x.kind.key)) :
    (w.moved i e ⟨call, .updating x (.copied v)⟩ new).Follows x.kind c := by
  -- the task holds the lock, so there was no copy and the cell is the followed one
  have hc : w.store.cell x.kind.key = c := by
    refine hf.cell fun j q h => ?_
    rw [Bool.eq_false_iff]
    intro hcopy
    obtain rfl := hw.exclusive h ht (holds_of_hasCopy hcopy) rfl
    rw [h.unique ht] at hcopy
    cases hcopy
  constructor
  · intro j y u h hk
    rcases at_moved h with ⟨_, hq⟩ | ⟨_, hold⟩
    · cases hq
      rw [hv, hc]
    · exact hf.copy hold hk
  · intro hnone
    have hcopy := hnone i _ (at_moved_self ht)
    exact absurd rfl (of_decide_eq_false hcopy)

/-- A step that saves the value of the model. -/
theorem Follows.saved (hw : w.Orderly) (ht : w.At i (.updating x (.copied v)))
    (hcell : e.models.store.cell x.kind.key = c) :
    (w.moved i e ⟨call, .updating x .stored⟩ new).Follows x.kind c := by
  refine ⟨fun {j y u} h hy => ?_, fun _ => hcell⟩
  -- the task held the lock, so no other task has a copy
  rcases at_moved h with ⟨_, hq⟩ | ⟨hne, hold⟩
  · cases hq
  · exact absurd (hw.exclusive hold ht (congrArg some hy) rfl) hne

/-- A step of a task saves an edit or keeps the cell; either way the world follows it. -/
theorem Follows.stepTask (hw : w.Orderly) (hf : w.Follows k c) (i : Nat) :
    ∃ new, (w.stepTask i).saves = w.saves ++ new ∧
      (w.stepTask i).Follows k (applySaves k c new) ∧
      (w.store.cell k.key = c → (w.stepTask i).store.cell k.key = applySaves k c new) := by
  cases ht : w.tasks[i]? with
  | none =>
    rw [World.stepTask, ht]
    exact ⟨[], (List.append_nil _).symm, hf, id⟩
  | some t =>
    obtain ⟨call, p⟩ := t
    have hat : w.At i p := ⟨call, ht⟩
    obtain ⟨e, p', hmoves, _, heq⟩ := stepTask_eq ht
    rw [heq]
    refine ⟨savedBy i p, rfl, ?_⟩
    cases hmoves with
    | quiet hstore hp hp' =>
      rw [applySaves_savedBy (hp k)]
      have hcell := hstore.cell k.key
      exact ⟨hf.kept hat hcell (hp k) (hp' k), hcell.trans⟩
    | @load x v hload =>
      refine ⟨?_, id⟩
      by_cases hk : x.kind = k
      · subst hk
        exact hf.loaded hw hat ((x.kind.load_cases _).2 v hload).2
      · exact hf.kept hat rfl rfl (decide_eq_false hk)
    | save x v =>
      obtain ⟨rows, hkeeps⟩ := hw.sound hat (decide_eq_true rfl)
      have hcell := Kind.cell_save hkeeps x.kind (x.change v) k.key
      by_cases hk : x.kind = k
      · subst hk
        have hsaved : applySaves x.kind c (savedBy i (.updating x (.copied v))) = x.apply c := by
          simp [applySaves, savedBy]
        rw [if_pos rfl] at hcell
        rw [hsaved, Edit.apply, ← hf.copy hat rfl]
        exact ⟨Follows.saved hw hat hcell, fun _ => hcell⟩
      · have hcopy : Phase.hasCopy k (.updating x (.copied v)) = false := decide_eq_false hk
        rw [if_neg fun hkey => hk (Kind.key_injective hkey).symm] at hcell
        rw [applySaves_savedBy hcopy]
        exact ⟨hf.kept hat hcell hcopy rfl, hcell.trans⟩

end Step

/-! ## Runs -/

/-- A run of more turns goes on where the first ones end. -/
theorem run_append (w : World) (turns more : List Turn) :
    w.run (turns ++ more) = (w.run turns).run more := List.foldl_append

/-- A step of opting out that does not clear the store keeps it and all tasks. -/
theorem step_optOut (h : w.optOut ≠ .emptying []) : (w.step .optOut).store = w.store ∧
    (w.step .optOut).tasks = w.tasks ∧ (w.step .optOut).saves = w.saves := by
  refine ⟨?_, rfl, rfl⟩
  simp only [step, store]
  cases hout : w.optOut with
  | pending => rfl
  | returned r => rfl
  | emptying rest =>
    cases rest with
    | nil => exact absurd hout h
    | cons k rest => cases k <;> rfl

/-- Worlds with the same store and tasks are orderly alike. -/
theorem Orderly.congr {w' : World} (hw : w.Orderly) (hstore : w'.store = w.store)
    (htasks : w'.tasks = w.tasks) : w'.Orderly := by
  have hat : ∀ {i p}, w'.At i p → w.At i p := by
    intro i p h
    rw [At, htasks] at h
    exact h
  constructor
  · intro i j p q k hp hq hkp hkq
    exact hw.exclusive (hat hp) (hat hq) hkp hkq
  · intro i p k h hcopy
    rw [hstore]
    exact hw.sound (hat h) hcopy

/-- Worlds with the same store and tasks follow the same cells. -/
theorem Follows.congr {w' : World} {k : Kind} {c : Option Cell} (hf : w.Follows k c)
    (hstore : w'.store = w.store) (htasks : w'.tasks = w.tasks) : w'.Follows k c := by
  constructor
  · intro i x v h hk
    rw [At, htasks] at h
    exact hf.copy h hk
  · intro hnone
    rw [hstore]
    refine hf.cell fun i p h => hnone i p ?_
    rw [At, htasks]
    exact h

/-- Opting out that has returned stays so. -/
theorem returned_run {r : Except Failure Unit} (h : w.optOut = .returned r) (turns : List Turn) :
    (w.run turns).optOut = .returned r := by
  induction turns generalizing w with
  | nil => exact h
  | cons turn rest ih =>
    refine ih ?_
    cases turn with
    | task i =>
      rw [step, stepTask]
      cases w.tasks[i]? with
      | none => exact h
      | some t => exact h
    | optOut => rw [step, h]; rfl

/-- Edits after edits. -/
theorem applySaves_append (k : Kind) (c : Option Cell) (saves more : List (Nat × Edit)) :
    applySaves k c (saves ++ more) = applySaves k (applySaves k c saves) more := by
  rw [applySaves, List.filter_append, List.foldl_append]
  rfl

/-- No turn of a run clears the store. -/
def Unclearing (w : World) (turns : List Turn) : Prop :=
  ∀ before after, turns = before ++ .optOut :: after → (w.run before).optOut ≠ .emptying []

/-- What is true of a run is true of it after its first turn. -/
theorem Unclearing.tail {turn : Turn} {rest : List Turn} (h : w.Unclearing (turn :: rest)) :
    (w.step turn).Unclearing rest := by
  intro before after heq
  exact h (turn :: before) after (congrArg (turn :: ·) heq)

/-- A run that clears nothing keeps the world orderly, and the world follows what is saved. -/
theorem Follows.run {k : Kind} {c : Option Cell} (hw : w.Orderly) (hf : w.Follows k c)
    {turns : List Turn} (hkept : w.Unclearing turns) :
    (w.run turns).Orderly ∧ ∃ later, (w.run turns).saves = w.saves ++ later ∧
      (w.run turns).Follows k (applySaves k c later) ∧
      (w.store.cell k.key = c → (w.run turns).store.cell k.key = applySaves k c later) := by
  induction turns generalizing w c with
  | nil => exact ⟨hw, [], (List.append_nil _).symm, hf, id⟩
  | cons turn rest ih =>
    have hstep : (w.step turn).Orderly ∧ ∃ new, (w.step turn).saves = w.saves ++ new ∧
        (w.step turn).Follows k (applySaves k c new) ∧
        (w.store.cell k.key = c → (w.step turn).store.cell k.key = applySaves k c new) := by
      cases turn with
      | task i => exact ⟨hw.stepTask i, hf.stepTask hw i⟩
      | optOut =>
        -- this turn only takes a resource out, or nothing is left to do
        have hnot : w.optOut ≠ .emptying [] := hkept [] rest rfl
        obtain ⟨hstore, htasks, hsaves⟩ := step_optOut hnot
        refine ⟨hw.congr hstore htasks, [], ?_, hf.congr hstore htasks, ?_⟩
        · rw [hsaves, List.append_nil]
        · intro hc
          rw [hstore]
          exact hc
    obtain ⟨hw', new, hsaves, hf', hcell⟩ := hstep
    obtain ⟨hfinal, later, hsaves', hf'', hcell'⟩ := ih hw' hf' hkept.tail
    refine ⟨hfinal, new ++ later, ?_, ?_, ?_⟩
    · rw [← List.append_assoc, ← hsaves]
      exact hsaves'
    · rw [applySaves_append]
      exact hf''
    · intro hc
      rw [applySaves_append]
      exact hcell' (hcell hc)

/-- A run at whose end opting out has not returned clears nothing. -/
theorem unclearing_of_not_returned {turns : List Turn}
    (h : ∀ r, (w.run turns).optOut ≠ .returned r) : w.Unclearing turns := by
  rintro before after rfl hclearing
  have hreturned : ((w.run before).step .optOut).optOut
      = .returned (Store.clearAll (w.run before).store).result := by
    rw [step, hclearing]
    rfl
  rw [run_append] at h
  exact h _ (returned_run hreturned after)

/-- A run clears nothing once opting out has returned. -/
theorem unclearing_of_returned {r : Except Failure Unit} (h : w.optOut = .returned r)
    (turns : List Turn) : w.Unclearing turns := by
  intro before after _ hclearing
  rw [returned_run h before] at hclearing
  cases hclearing

/-- A task that has come to its end stays there. -/
theorem At.step {i : Nat} (h : w.At i .finished) (turn : Turn) : (w.step turn).At i .finished := by
  cases turn with
  | optOut => exact h
  | task j =>
    rw [World.step]
    cases ht : w.tasks[j]? with
    | none =>
      rw [stepTask, ht]
      exact h
    | some t =>
      obtain ⟨c, p⟩ := t
      obtain ⟨e, p', _, hfinished, heq⟩ := stepTask_eq ht
      rw [heq]
      by_cases hij : i = j
      · subst hij
        have hp : p' = .finished := by
          rw [At.unique ⟨c, ht⟩ h] at hfinished
          exact hfinished rfl
        rw [hp]
        exact at_moved_self h
      · exact at_moved_of_ne hij h

/-- What is saved in a step is saved by a task that had not come to its end. -/
theorem saves_step (w : World) (turn : Turn) : ∃ new,
    (w.step turn).saves = w.saves ++ new ∧ ∀ s ∈ new, ¬w.At s.1 .finished := by
  cases turn with
  | optOut => exact ⟨[], (List.append_nil _).symm, fun s hs => nomatch hs⟩
  | task i =>
    rw [step]
    cases ht : w.tasks[i]? with
    | none =>
      rw [stepTask, ht]
      exact ⟨[], (List.append_nil _).symm, fun s hs => nomatch hs⟩
    | some t =>
      obtain ⟨c, p⟩ := t
      obtain ⟨e, p', _, _, heq⟩ := stepTask_eq ht
      rw [heq]
      refine ⟨savedBy i p, rfl, fun s hs h => ?_⟩
      cases p with
      | updating x u =>
        cases u with
        | copied v =>
          rw [List.mem_singleton.1 hs] at h
          cases At.unique ⟨c, ht⟩ h
        | waiting | locked | stored => cases hs
      | begun | released | inserting | purging | finished => cases hs

/-- What is saved in a run is saved by tasks that had not come to their end before it. -/
theorem saves_run (w : World) (turns : List Turn) : ∃ later,
    (w.run turns).saves = w.saves ++ later ∧ ∀ s ∈ later, ¬w.At s.1 .finished := by
  induction turns generalizing w with
  | nil => exact ⟨[], (List.append_nil _).symm, fun s hs => nomatch hs⟩
  | cons turn rest ih =>
    obtain ⟨new, hnew, hnotNew⟩ := w.saves_step turn
    obtain ⟨later, hlater, hnotLater⟩ := ih (w.step turn)
    refine ⟨new ++ later, ?_, fun s hs h => ?_⟩
    · rw [← List.append_assoc, ← hnew]
      exact hlater
    · rcases List.mem_append.1 hs with hs | hs
      · exact hnotNew s hs h
      · exact hnotLater s hs (h.step turn)

/-! ## Opting out -/

/-- Whether a task holds a copy of the value of a model. -/
def hasCopy (w : World) (k : Kind) : Bool := w.tasks.any (fun t => t.phase.hasCopy k)

/-- A world has a copy exactly if one of its tasks holds one. -/
theorem hasCopy_iff {k : Kind} : w.hasCopy k = true ↔ ∃ i p, w.At i p ∧ p.hasCopy k = true := by
  rw [hasCopy, List.any_eq_true]
  constructor
  · rintro ⟨⟨c, p⟩, hmem, hp⟩
    obtain ⟨i, hi⟩ := List.mem_iff_getElem?.1 hmem
    exact ⟨i, p, ⟨c, hi⟩, hp⟩
  · rintro ⟨i, p, ⟨c, hi⟩, hp⟩
    exact ⟨⟨c, p⟩, List.mem_of_getElem? hi, hp⟩

/-- In a world without a copy no task holds one. -/
theorem hasCopy_eq_false {k : Kind} (h : w.hasCopy k = false) {i : Nat} {p : Phase}
    (hp : w.At i p) : p.hasCopy k = false := by
  rw [Bool.eq_false_iff] at h ⊢
  exact fun hcopy => h (hasCopy_iff.2 ⟨i, p, hp, hcopy⟩)

/-- Clearing the store forgets the value of a model, unless a task holds a copy of it. -/
theorem Follows.clear {k : Kind} (hw : w.Orderly) (hf : w.Follows k (w.store.cell k.key))
    (hclearing : w.optOut = .emptying [])
    (hok : (w.step .optOut).optOut = .returned (.ok ())) : (w.step .optOut).Orderly ∧
      (w.step .optOut).Follows k (if w.hasCopy k then w.store.cell k.key else none) := by
  have hstore : (w.step .optOut).store = (Store.clearAll w.store).state := by
    simp only [step, store, hclearing]
    rfl
  have hresult : (Store.clearAll w.store).result = .ok () := by
    simp only [step, hclearing] at hok
    exact OptOut.returned.inj hok
  obtain ⟨rows, es, lastId, hkeeps, hevents⟩ := Store.keeps_of_clearAll hresult
  obtain ⟨s, hclear, hkeeps', _⟩ := hkeeps.clearAll hevents
  rw [hclear] at hstore
  have hnone : (w.step .optOut).store.cell k.key = none := by
    rw [hstore, hkeeps'.cell, Kind.get?_clearedRows]
  refine ⟨⟨fun hp hq hkp hkq => hw.exclusive hp hq hkp hkq, fun _ _ => ?_⟩, ?_⟩
  · rw [hstore]
    exact ⟨_, hkeeps'⟩
  -- a copy outlives the clearing, and only without one the value is gone
  by_cases hcopy : w.hasCopy k = true
  · rw [if_pos hcopy]
    refine ⟨fun h hk => hf.copy h hk, fun hnot => ?_⟩
    obtain ⟨i, p, h, hp⟩ := hasCopy_iff.1 hcopy
    rw [hnot i p h] at hp
    cases hp
  · rw [if_neg hcopy]
    refine ⟨fun h hk => absurd (hasCopy_iff.2 ⟨_, _, h, ?_⟩) hcopy, fun _ => hnone⟩
    exact decide_eq_true hk

/-- A world of calls that have not done anything follows its cells. -/
theorem follows_new (e : Engine) (calls : List Call) (k : Kind) :
    (new e calls).Follows k ((new e calls).store.cell k.key) := by
  refine ⟨fun {i x v} h => ?_, fun _ => rfl⟩
  obtain ⟨c, hc⟩ := h
  obtain ⟨c', _, hc'⟩ := List.mem_map.1 (List.mem_of_getElem? hc)
  cases (Task.mk.inj hc').2

end World

/-- What is stored once the store has been cleared, in any order of steps. Let opting out begin
after the turns `before` and clear the store after the turns `during`. What is saved afterwards is
saved by calls that had not come to their end before opting out began. For a model of which no call
held a copy when the store was cleared, nothing else is stored; of a copy that was held then,
everything is. -/
theorem cells_after_optOut (e : Engine) (calls : List Call) (before during after : List Turn)
    (hclearing : ((World.new e calls).run (before ++ during)).optOut = .emptying [])
    (hok : (((World.new e calls).run (before ++ during)).step .optOut).optOut
      = .returned (.ok ())) :
    let began := (World.new e calls).run before
    let clearing := (World.new e calls).run (before ++ during)
    let final := (clearing.step .optOut).run after
    ∃ later, final.saves = clearing.saves ++ later ∧ (∀ s ∈ later, ¬began.At s.1 .finished) ∧
      ∀ k, final.hasCopy k = false → final.store.cell k.key = World.applySaves k
        (if clearing.hasCopy k then clearing.store.cell k.key else none) later := by
  intro began clearing final
  obtain ⟨early, hearly, _⟩ := began.saves_run during
  obtain ⟨all, hall, hnot⟩ := began.saves_run (during ++ .optOut :: after)
  obtain ⟨later, hlater, _⟩ := (clearing.step .optOut).saves_run after
  have hclearingRun : clearing = began.run during := World.run_append _ _ _
  have hfinalRun : final = began.run (during ++ .optOut :: after) := by
    rw [World.run_append, ← hclearingRun]
    rfl
  refine ⟨later, hlater, fun s hs => hnot s ?_, fun k hcopy => ?_⟩
  · -- what is saved after the clearing is part of what is saved since opting out began
    have hsaves : began.saves ++ all = began.saves ++ (early ++ later) := by
      rw [← hall, ← hfinalRun, ← List.append_assoc, ← hearly, ← hclearingRun]
      exact hlater
    rw [List.append_cancel_left hsaves]
    exact List.mem_append_right _ hs
  · have hkept : (World.new e calls).Unclearing (before ++ during) :=
      World.unclearing_of_not_returned fun r h => by
        rw [hclearing] at h
        cases h
    obtain ⟨hw, saved, _, hf, hcell⟩ :=
      (World.follows_new e calls k).run (World.orderly_new e calls) hkept
    rw [← hcell rfl] at hf
    obtain ⟨hw', hf'⟩ := hf.clear hw hclearing hok
    obtain ⟨_, later', hlater', hf'', _⟩ := hf'.run hw' (World.unclearing_of_returned hok after)
    have hsame : later' = later := List.append_cancel_left (hlater'.symm.trans hlater)
    rw [hsame] at hf''
    exact hf''.cell fun i p h => World.hasCopy_eq_false hcopy h

/-! ## Feedback while opting out -/

namespace FeedbackRace

/-- Two calls with feedback on a new engine. -/
def start : World :=
  .new ⟨.default, .new .default .summed (Store.opened .memory)⟩
    [.feedback ⟨"shoes", .clicked⟩, .feedback ⟨"hats", .clicked⟩]

/-- All steps of the first call. -/
def first : List Turn := List.replicate 6 (.task 0)

/-- The second call up to its copy. -/
def copying : List Turn := List.replicate 3 (.task 1)

/-- Opting out up to the clearing of the store. -/
def emptying : List Turn := List.replicate 4 .optOut

/-- The world after the second call has saved its copy. -/
def final : World :=
  ((start.run (first ++ copying ++ emptying)).step .optOut).run (List.replicate 3 (.task 1))

end FeedbackRace

/-- When no call holds a copy while the store is cleared, only what is saved afterwards is
stored. -/
theorem cells_after_optOut_uninterrupted :
    let clearing := FeedbackRace.start.run (FeedbackRace.first ++ FeedbackRace.emptying)
    let final := (clearing.step .optOut).run (List.replicate 6 (.task 1))
    ∃ later, final.saves = clearing.saves ++ later ∧
      (∀ s ∈ later, ¬(FeedbackRace.start.run FeedbackRace.first).At s.1 .finished) ∧
      ∀ k, final.hasCopy k = false → final.store.cell k.key = World.applySaves k
        (if clearing.hasCopy k then clearing.store.cell k.key else none) later :=
  cells_after_optOut _ _ FeedbackRace.first FeedbackRace.emptying (List.replicate 6 (.task 1))
    rfl rfl

/-- The first call has come to its end before opting out begins, opting out returns without an
error, and all calls have come to their ends; yet the arm of the first call is stored. -/
theorem arms_after_optOut_hold_shoes :
    let began := FeedbackRace.start.run (FeedbackRace.first ++ FeedbackRace.copying)
    began.At 0 .finished ∧ began.optOut = .pending ∧
      FeedbackRace.final.optOut = .returned (.ok ()) ∧
      FeedbackRace.final.tasks.all (fun t => t.phase.isFinished) = true ∧
      (Store.arms.load FeedbackRace.final.store).result.toOption.bind (fun a => a.get? "shoes")
        = some ⟨1, .one⟩ :=
  ⟨⟨_, rfl⟩, rfl, rfl, by decide +kernel, by decide +kernel⟩

end Audience
