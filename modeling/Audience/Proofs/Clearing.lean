import Audience.Proofs.Isolation

/-! # Clearing that fails half way

Clearing is a sequence of deletions. It ends at the first one that fails, and nothing is taken back:
what was deleted before stays deleted, and the rest stays as it was. So a store is the same after an
error only if there was nothing to delete before the deletion that failed.

* **`Deletion.all`** — the deletions of clearing, in their order.
* **`Deletion.attempt faults x`** — a deletion that may be made to fail.
* **`Deletion.runAll_cases`** — what deletions one after another leave behind.
* **`Deletion.runAll_all`** — without faults they are clearing.
* **`clearing_ends_at_failure`** — what clearing and opting out leave behind.
* **`arms_lost_by_failed_optOut`** — arms are lost although opting out has failed. -/

namespace Audience

/-! ## Operations under the lock -/

/-- Nothing poisons the lock between two operations on the database, so they may as well take it one
after the other. -/
theorem Store.guarded_bind {α β : Type} (x : Op Database α) (f : α → Op Database β) :
    guarded (x >>= f) = (guarded x >>= fun a => guarded (f a)) := by
  funext s
  cases hpoisoned : s.poisoned with
  | true =>
    have hrefused {γ : Type} (y : Op Database γ) : guarded y s
        = ⟨.error (.error (.storage (.lockPoisoned Op.poisonedDetails))), s, []⟩ := by
      simp [guarded, hpoisoned]
    rw [Op.bind_error (hrefused x), hrefused]
  | false =>
    cases hx : x s.database with
    | mk result d l =>
      cases result with
      | error e =>
        rw [guarded_eq hpoisoned (Op.bind_error hx), Op.bind_error (guarded_eq hpoisoned hx)]
      | ok a =>
        rw [guarded_eq hpoisoned (Op.bind_ok hx), Op.bind_ok (guarded_eq hpoisoned hx)]
        simp [guarded, hpoisoned]

/-- Two operations that take the lock one after the other, where the first one gives no value. -/
theorem Store.guarded_discard_bind {α β : Type} (x : Op Database α) (y : Op Database β) :
    (guarded (do let _ ← x) >>= fun _ => guarded y) = guarded (x >>= fun _ => y) := by
  rw [← guarded_bind, bind_assoc]
  rfl

/-! ## Deletions -/

/-- What clearing deletes: the value of a model, or all events. -/
inductive Deletion where
  | value (k : Kind)
  | events
  deriving DecidableEq, Repr

namespace Deletion

/-- The deletions of clearing, in their order. -/
def all : List Deletion := [.value .intent, .value .page, .value .bandit, .events]

/-- No deletion is missing. -/
theorem mem_all (x : Deletion) : x ∈ all := by
  cases x with
  | value k => cases k <;> decide
  | events => decide

/-- Each deletion is made once. -/
theorem not_mem_of_all_eq {made rest : List Deletion} {x y : Deletion}
    (h : all = made ++ x :: rest) (hy : y ∈ x :: rest) : y ∉ made := by
  have hnodup : all.Nodup := by decide
  rw [h] at hnodup
  exact fun hmade => (List.nodup_append.1 hnodup).2.2 y hmade y hy rfl

/-- The events come last. -/
theorem events_not_mem_of_all_eq {made rest : List Deletion} {x : Deletion}
    (h : all = made ++ x :: rest) : events ∉ made := by
  have hlast : all.getLast? = some events := rfl
  rw [h, List.getLast?_append, List.getLast?_cons, Option.some_or, ← List.getLast?_cons] at hlast
  exact not_mem_of_all_eq h (List.mem_of_getLast? hlast)

/-- Deletes from the store. -/
def run : Deletion → Op Store Unit
  | .value k => Store.guarded (do let _ ← Database.deleteState k.key)
  | .events => Store.guarded (do let _ ← Database.keepNewest 0)

/-- A deletion, or the error that stands in for it. -/
def attempt (faults : Deletion → Option Error) (x : Deletion) : Op Store Unit :=
  match faults x with
  | none => x.run
  | some e => .fail e

/-- Deletions one after another, up to the first that fails. -/
def runAll (faults : Deletion → Option Error) : List Deletion → Op Store Unit
  | [] => pure ()
  | x :: rest => do
    x.attempt faults
    runAll faults rest

/-- Without faults the deletions are clearing. -/
theorem runAll_all : runAll (fun _ => none) all = Store.clearAll := by
  have hlast : (events.run >>= fun _ => pure ()) = events.run := bind_pure _
  change ((value .intent).run >>= fun _ => (value .page).run >>= fun _ =>
    (value .bandit).run >>= fun _ => events.run >>= fun _ => pure ()) = _
  rw [hlast]
  simp only [run, Store.guarded_discard_bind]
  rfl

/-- There is nothing to delete. -/
def IsEmpty (s : Store) : Deletion → Prop
  | .value k => s.cell k.key = none
  | .events => ∃ lastId, s.KeepsEvents [] lastId

/-- What would be deleted is the same in two stores. -/
def IsSame (s t : Store) : Deletion → Prop
  | .value k => t.cell k.key = s.cell k.key
  | .events => t.eventTable? = s.eventTable?

variable {r s t : Store} {x y : Deletion}

/-- A store has the same as itself. -/
theorem IsSame.refl (s : Store) (x : Deletion) : x.IsSame s s := by
  cases x <;> rfl

/-- What is the same step by step is the same in the end. -/
theorem IsSame.trans (h : x.IsSame r s) (h' : x.IsSame s t) : x.IsSame r t := by
  cases x with
  | value k => exact Eq.trans h' h
  | events => exact Eq.trans h' h

/-- Where it is the same, there is nothing in the one if there is nothing in the other. -/
theorem IsSame.isEmpty_iff (h : x.IsSame s t) : x.IsEmpty t ↔ x.IsEmpty s := by
  cases x with
  | value k => exact iff_of_eq (congrArg (· = none) h)
  | events => exact exists_congr fun lastId => iff_of_eq (congrArg (· = some _) h)

/-! ## One deletion -/

/-- Taking the value of a model out leaves all other values and the events. -/
theorem isSame_withRows_erase {rows : Dict Cell} {k : Kind} (h : s.Keeps rows)
    (hne : y ≠ .value k) : y.IsSame s (s.withRows (rows.erase k.key)) := by
  cases y with
  | value k' =>
    have hkey : k'.key ≠ k.key := fun hkey => hne (congrArg value (Kind.key_injective hkey))
    rw [IsSame, (h.withRows _).cell, h.cell, Dict.get?_erase, if_neg hkey]
  | events => exact Dict.get?_insert_of_ne _ (by decide) _

/-- Taking the events out leaves the values of the models. -/
theorem isSame_withEvents (s : Store) (es : List EventRow) (lastId : Nat) (k : Kind) :
    (value k).IsSame s (s.withEvents es lastId) := by
  have hstate : (s.withEvents es lastId).database.tables.get? Database.stateTable
      = s.database.tables.get? Database.stateTable := Dict.get?_insert_of_ne _ (by decide) _
  rw [IsSame, Store.cell, hstate]
  rfl

/-- A deletion fails and changes nothing, or it deletes and leaves everything else. -/
theorem run_cases (x : Deletion) (s : Store) :
    (∃ t, x.run s = ⟨.ok (), t, []⟩ ∧ x.IsEmpty t ∧ ∀ y, y ≠ x → y.IsSame s t) ∨
      ∃ e, x.run s = ⟨.error (.error e), s, []⟩ := by
  by_cases hpoisoned : s.poisoned = true
  · refine .inr ⟨.storage (.lockPoisoned Op.poisonedDetails), ?_⟩
    cases x <;> simp [run, Store.guarded, hpoisoned]
  rw [Bool.not_eq_true] at hpoisoned
  cases x with
  | value k =>
    by_cases h : ∃ rows, s.Keeps rows
    · obtain ⟨rows, hrows⟩ := h
      have hrun : (value k).run s = ⟨.ok (), s.withRows (rows.erase k.key), []⟩ :=
        Store.guarded_eq hpoisoned (Op.bind_ok (Database.deleteState_eq hrows.table k.key))
      refine .inl ⟨_, hrun, ?_, fun y hne => isSame_withRows_erase hrows hne⟩
      rw [IsEmpty, (hrows.withRows _).cell, Dict.get?_erase, if_pos rfl]
    · obtain ⟨e, -, herror⟩ := Database.stateRows_error fun rows hrows =>
        h ⟨rows, hpoisoned, hrows⟩
      exact .inr ⟨e, Store.guarded_eq hpoisoned (Op.bind_error (Op.bind_error herror))⟩
  | events =>
    by_cases h : ∃ es lastId, s.KeepsEvents es lastId
    · obtain ⟨es, lastId, hevents⟩ := h
      have hnone : Database.remaining 0 es = [] := by simp [Database.remaining]
      have hrun : events.run s = ⟨.ok (), s.withEvents (Database.remaining 0 es) lastId, []⟩ :=
        Store.guarded_eq hpoisoned (Op.bind_ok (Database.keepNewest_eq hevents 0))
      rw [hnone] at hrun
      refine .inl ⟨_, hrun, ⟨lastId, s.keepsEvents_withEvents [] lastId⟩, ?_⟩
      intro y hne
      cases y with
      | value k => exact isSame_withEvents s [] lastId k
      | events => exact absurd rfl hne
    · obtain ⟨e, herror⟩ := Database.eventRows_error fun es lastId hevents =>
        h ⟨es, lastId, hevents⟩
      exact .inr ⟨e, Store.guarded_eq hpoisoned (Op.bind_error (Op.bind_error herror))⟩

/-- A fault changes nothing either. -/
theorem attempt_cases (faults : Deletion → Option Error) (x : Deletion) (s : Store) :
    (∃ t, x.attempt faults s = ⟨.ok (), t, []⟩ ∧ x.IsEmpty t ∧ ∀ y, y ≠ x → y.IsSame s t) ∨
      ∃ e, x.attempt faults s = ⟨.error (.error e), s, []⟩ := by
  rw [attempt]
  cases faults x with
  | none => exact x.run_cases s
  | some e => exact .inr ⟨e, rfl⟩

/-! ## All deletions -/

/-- Deletions are all made, or they are made up to one that fails. Either way what they are about is
gone, and nothing else has changed. -/
theorem runAll_cases (faults : Deletion → Option Error) (xs : List Deletion) (s : Store) :
    ∃ made t, (∀ y ∈ made, y.IsEmpty t) ∧ (∀ y, y ∉ made → y.IsSame s t) ∧
      (made = xs ∧ runAll faults xs s = ⟨.ok (), t, []⟩ ∨
        ∃ x rest e, xs = made ++ x :: rest ∧ runAll faults xs s = ⟨.error (.error e), t, []⟩ ∧
          x.attempt faults t = ⟨.error (.error e), t, []⟩) := by
  induction xs generalizing s with
  | nil => exact ⟨[], s, by simp, fun y _ => .refl s y, .inl ⟨rfl, rfl⟩⟩
  | cons x xs ih =>
    obtain ⟨s', hx, hempty, hsame⟩ | ⟨e, hx⟩ := attempt_cases faults x s
    · obtain ⟨made, t, hmade, hother, hrun⟩ := ih s'
      refine ⟨x :: made, t, ?_, ?_, ?_⟩
      · -- what the first deletion took out is not put back by the others
        intro y hy
        by_cases hagain : y ∈ made
        · exact hmade y hagain
        · obtain rfl := (List.mem_cons.1 hy).resolve_right hagain
          exact (hother y hagain).isEmpty_iff.2 hempty
      · intro y hy
        rw [List.mem_cons, not_or] at hy
        exact (hsame y hy.1).trans (hother y hy.2)
      · rw [runAll, Op.bind_ok hx]
        rcases hrun with ⟨rfl, hrun⟩ | ⟨z, rest, e, rfl, hrun, hfails⟩
        · exact .inl ⟨rfl, by rw [hrun]; rfl⟩
        · exact .inr ⟨z, rest, e, rfl, by rw [hrun]; rfl, hfails⟩
    · refine ⟨[], s, by simp, fun y _ => .refl s y, .inr ⟨x, xs, e, rfl, ?_, hx⟩⟩
      exact Op.bind_error hx

end Deletion

/-! ## Clearing -/

/-- Clearing that succeeds has deleted everything. Clearing that fails, whichever of its deletions
it fails at, has made the deletions before this one and no others; so the values of the models and
the events are as before exactly if there was nothing to delete until then. Opting out does to the
store what clearing does, and fails with it. -/
theorem clearing_ends_at_failure (faults : Deletion → Option Error) (s : Store) :
    let out := Deletion.runAll faults Deletion.all s
    (out.result = .ok () → ∀ x : Deletion, x.IsEmpty out.state) ∧
    (∀ f, out.result = .error f → ∃ made x rest, Deletion.all = made ++ x :: rest ∧
      x.attempt faults out.state = ⟨.error f, out.state, []⟩ ∧
      (∀ y ∈ made, y.IsEmpty out.state) ∧ (∀ y ∈ x :: rest, y.IsSame s out.state) ∧
      ((∀ y : Deletion, y.IsSame s out.state) ↔ ∀ y ∈ made, y.IsEmpty s)) ∧
    Deletion.runAll (fun _ => none) Deletion.all = Store.clearAll ∧
    ∀ e : Engine, (Engine.optOut e).result = (Store.clearAll e.models.store).result ∧
      (Engine.optOut e).state.models.store = (Store.clearAll e.models.store).state := by
  intro out
  obtain ⟨made, t, hmade, hother, hrun⟩ := Deletion.runAll_cases faults Deletion.all s
  refine ⟨fun hok => ?_, fun f hf => ?_, Deletion.runAll_all, fun e => ?_⟩
  · obtain ⟨rfl, hrun⟩ | ⟨x, rest, e, -, hrun, -⟩ := hrun
    · have hout : out = ⟨.ok (), t, []⟩ := hrun
      rw [hout]
      exact fun x => hmade x x.mem_all
    · rw [show out = ⟨.error (.error e), t, []⟩ from hrun] at hok
      cases hok
  · obtain ⟨-, hrun⟩ | ⟨x, rest, e, hall, hrun, hfails⟩ := hrun
    · rw [show out = ⟨.ok (), t, []⟩ from hrun] at hf
      cases hf
    · have hout : out = ⟨.error (.error e), t, []⟩ := hrun
      rw [hout] at hf ⊢
      cases hf
      have hleft : ∀ y ∈ x :: rest, y.IsSame s t := fun y hy =>
        hother y (Deletion.not_mem_of_all_eq hall hy)
      refine ⟨made, x, rest, hall, hfails, hmade, hleft, fun hsame y hy => ?_, fun hempty y => ?_⟩
      · exact (hsame y).isEmpty_iff.1 (hmade y hy)
      · by_cases hy : y ∈ made
        · -- event tables without rows may differ in their numbers, but the events come last
          cases y with
          | value k => exact (hmade _ hy).trans (hempty _ hy).symm
          | events => exact absurd hy (Deletion.events_not_mem_of_all_eq hall)
        · exact hother y hy
  · obtain ⟨hresult, hstate⟩ := e.optOut_eq
    exact ⟨hresult, congrArg (fun e => e.models.store) hstate⟩

/-- An engine that has learnt from feedback, on a database that has lost its event table. -/
def Engine.eventless : Engine :=
  let e : Engine := ⟨.default, .new .default .summed (Store.opened .memory)⟩
  let learnt := (feedback ⟨"shoes", .clicked⟩ e).state
  (onStore (fun _ => Store.guarded (Database.dropTable Database.eventTable)) learnt).state

/-- Where the window of pages cannot be deleted, nothing is deleted from there on. -/
theorem clearing_ends_at_page_failure :
    let e : Error := .storage (.database "disk I/O error")
    let faults : Deletion → Option Error := fun x => if x = .value .page then some e else none
    let out := Deletion.runAll faults Deletion.all Engine.eventless.models.store
    ∃ made x rest, Deletion.all = made ++ x :: rest ∧
      x.attempt faults out.state = ⟨.error (.error e), out.state, []⟩ ∧
      (∀ y ∈ made, y.IsEmpty out.state) ∧
      ∀ y ∈ x :: rest, y.IsSame Engine.eventless.models.store out.state := by
  intro e faults out
  obtain ⟨made, x, rest, hall, hfails, hmade, hleft, -⟩ :=
    (clearing_ends_at_failure faults Engine.eventless.models.store).2.1 (.error e) rfl
  exact ⟨made, x, rest, hall, hfails, hmade, hleft⟩

/-- Opting out fails for want of the event table, and yet the arm that was stored is gone. -/
theorem arms_lost_by_failed_optOut :
    let e := Engine.eventless
    (Engine.optOut e).result
        = .error (.error (.storage (.database "no such table: text_embedding_events"))) ∧
      (Store.arms.load e.models.store).result.toOption.bind (fun a => a.get? "shoes")
        = some ⟨1, .one⟩ ∧
      (Engine.optOut e).state.models.store.cell Store.armsKey = none :=
  ⟨rfl, by decide +kernel, rfl⟩

end Audience
