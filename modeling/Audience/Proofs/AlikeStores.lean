import Audience.Proofs.Uninterrupted

/-! # Stores that cannot be told apart

Two stores are alike when the models find the same values in both, and the same events up to the
numbers of their rows: the numbers of one store are ahead of the other's by a constant. No operation
of the models tells such stores apart, and each leaves them alike.

* **`EventRow.shift n r`** — a row with a greater number, and **`remaining_shift`**, which says that
  the order of events does not depend on a constant ahead.
* **`Store.Alike s t`** — the stores cannot be told apart.
* **`Op.ReadsAlike s t x`** — an operation that only reads, and reads the same in both.
* **`Store.Alike.update`**, **`Store.Alike.recordEvent`**, **`Store.Alike.clearAll`** — the
  operations leave stores alike. -/

namespace Audience

/-! ## Rows with other numbers -/

/-- A row with a greater number. -/
def EventRow.shift (n : Nat) (r : EventRow) : EventRow := { r with id := r.id + n }

/-- The order of rows does not depend on a constant ahead. -/
theorem EventRow.isNewer_shift (n : Nat) (a b : EventRow) :
    (a.shift n).isNewer (b.shift n) = a.isNewer b := by
  simp [isNewer, shift]

/-- The newest rows do not depend on a constant ahead. -/
theorem newestRows_shift (n : Nat) (es : List EventRow) :
    newestRows (es.map (EventRow.shift n)) = (newestRows es).map (EventRow.shift n) := by
  rw [newestRows, newestRows]
  exact (List.map_mergeSort fun a _ b _ => (EventRow.isNewer_shift n a b).symm).symm

/-- Which rows remain does not depend on a constant ahead. -/
theorem remaining_shift (n keep : Nat) (es : List EventRow) :
    Database.remaining keep (es.map (EventRow.shift n))
      = (Database.remaining keep es).map (EventRow.shift n) := by
  have hid : EventRow.id ∘ EventRow.shift n = fun r => r.id + n := rfl
  simp only [Database.remaining, newestRows_shift, ← List.map_take, List.map_map, List.filter_map,
    hid]
  congr 1
  refine List.filter_congr fun r _ => ?_
  -- a row remains if its number is one of the newest, and all numbers move together
  rw [Bool.eq_iff_iff, Function.comp_apply, List.contains_iff_mem, List.contains_iff_mem,
    List.mem_map, List.mem_map]
  constructor
  · rintro ⟨a, ha, heq⟩
    exact ⟨a, ha, Nat.add_right_cancel heq⟩
  · rintro ⟨a, ha, heq⟩
    exact ⟨a, ha, congrArg (· + n) heq⟩

/-- The events of rows do not depend on their numbers. -/
theorem mapM_event_shift (n : Nat) (es : List EventRow) :
    (es.map (EventRow.shift n)).mapM EventRow.event = es.mapM EventRow.event := by
  induction es with
  | nil => rfl
  | cons r es ih =>
    rw [List.map_cons, List.mapM_cons, List.mapM_cons, ih]
    rfl

/-! ## Stores -/

namespace Store

/-- Two stores that cannot be told apart by the models: the values of all models are the same, and
so are the events up to the numbers of their rows. -/
def Alike (s t : Store) : Prop := ∃ rows rows' es lastId ahead,
  s.Keeps rows ∧ t.Keeps rows' ∧ (∀ k : Kind, rows.get? k.key = rows'.get? k.key) ∧
    s.KeepsEvents (es.map (EventRow.shift ahead)) (lastId + ahead) ∧ t.KeepsEvents es lastId

end Store

/-! ## Reading -/

namespace Op

variable {σ α β : Type} {s t : σ}

/-- An operation only reads, and reads the same in two states. -/
structure ReadsAlike (s t : σ) (x : Op σ α) : Prop where
  left : (x s).state = s
  right : (x t).state = t
  result : (x s).result = (x t).result

namespace ReadsAlike

/-- An operation that keeps a state reads the same in it as in itself. -/
theorem self {x : Op σ α} (h : (x s).state = s) : ReadsAlike s s x := ⟨h, h, rfl⟩

/-- A value is the same in all states. -/
theorem pure (a : α) : ReadsAlike s t (Pure.pure a : Op σ α) := ⟨rfl, rfl, rfl⟩

/-- An error is the same in all states. -/
theorem fail (e : Error) : ReadsAlike s t (Op.fail e : Op σ α) := ⟨rfl, rfl, rfl⟩

/-- A value or an error that is given is the same in all states. -/
theorem ofExcept (r : Except Error α) : ReadsAlike s t (Op.ofExcept r : Op σ α) := by
  cases r with
  | ok a => exact .pure a
  | error e => exact .fail e

/-- A crash is the same in all states. -/
theorem crash : ReadsAlike s t (Op.crash : Op σ α) := ⟨rfl, rfl, rfl⟩

/-- Logging is the same in all states. -/
theorem log (level : LogLevel) (message : String) :
    ReadsAlike s t (Op.log level message : Op σ Unit) := ⟨rfl, rfl, rfl⟩

/-- One reading operation after another. -/
theorem bind {x : Op σ α} {f : α → Op σ β} (hx : ReadsAlike s t x)
    (hf : ∀ a, ReadsAlike s t (f a)) : ReadsAlike s t (x >>= f) := by
  obtain ⟨hleft, hright, hresult⟩ := hx
  cases hs : x s with
  | mk r s' l =>
    cases ht : x t with
    | mk r' t' l' =>
      rw [hs] at hleft hresult
      rw [ht] at hright hresult
      cases hleft
      cases hright
      cases hresult
      cases r with
      | error e => exact ⟨by rw [bind_error hs], by rw [bind_error ht], by
          rw [bind_error hs, bind_error ht]⟩
      | ok a => exact ⟨by rw [bind_ok hs, (hf a).left], by rw [bind_ok ht, (hf a).right], by
          rw [bind_ok hs, bind_ok ht, (hf a).result]⟩

/-- Turning errors into values reads no more. -/
theorem attempt {x : Op σ α} (hx : ReadsAlike s t x) : ReadsAlike s t (Op.attempt x) := by
  refine ⟨(state_attempt x s).trans hx.left, (state_attempt x t).trans hx.right, ?_⟩
  rw [Op.attempt, Op.attempt, hx.result]
  cases (x t).result with
  | ok a => rfl
  | error e => cases e <;> rfl

/-- Starting afresh reads no more. -/
theorem orFresh {x : Op σ α} (hx : ReadsAlike s t x) (fresh : α) (warning : String) :
    ReadsAlike s t (Op.orFresh x fresh warning) := by
  refine hx.attempt.bind fun r => ?_
  cases r with
  | ok a => exact .pure a
  | error e =>
    change ReadsAlike s t (if e.isMalformedState = true then _ else _)
    split
    · exact bind (.log _ _) fun _ => .pure fresh
    · exact .fail e

end ReadsAlike

end Op

/-! ### Models -/

section Models

variable {σ α : Type} {s t : σ}

/-- A contribution is read the same if the model reads the same. -/
theorem readsAlike_contribution {x : Op σ (List α)} (hx : Op.ReadsAlike s t x) (model : String)
    (enabled : Bool) : Op.ReadsAlike s t (contribution model enabled x) := by
  rw [contribution]
  cases enabled with
  | false => exact .pure []
  | true =>
    refine hx.attempt.bind fun r => ?_
    cases r with
    | ok items => exact .pure items
    | error e => exact .bind ⟨rfl, rfl, rfl⟩ fun _ => .pure []

/-- A draw does not depend on the store. -/
theorem readsAlike_draw (d : Draw α) (g : Rng) : Op.ReadsAlike s t (BanditModel.draw d g) := by
  rw [BanditModel.draw]
  cases d g with
  | none => exact .crash
  | some r => exact .pure r

/-- Scores are the same if the history is. -/
theorem IntentModel.readsAlike_scores {access : Access σ History}
    (h : Op.ReadsAlike s t (history access)) (config : IntentConfig) (now : Instant) :
    Op.ReadsAlike s t (scores access config now) :=
  .bind h fun _ => .pure _

/-- A prediction is the same if the history is. -/
theorem IntentModel.readsAlike_predict {access : Access σ History}
    (h : Op.ReadsAlike s t (history access)) (config : IntentConfig) (now : Instant) :
    Op.ReadsAlike s t (predict access config now) :=
  .bind (readsAlike_scores h config now) fun _ => .bind (.log _ _) fun _ => .pure _

/-- A choice is the same if the arms are. -/
theorem BanditModel.readsAlike_select {access : Access σ Arms}
    (h : Op.ReadsAlike s t (arms access)) (m : BanditModel) (epsilon : Double) (g : Rng) :
    Op.ReadsAlike s t (select access m epsilon g) := by
  -- the draws do not depend on the store, so both explore or both exploit
  refine .bind (readsAlike_draw _ _) fun ⟨explores, g⟩ => ?_
  cases explores with
  | true => exact .bind (readsAlike_draw _ _) fun ⟨_, _⟩ => .bind (.log _ _) fun _ => .pure _
  | false => exact .bind h fun _ => .bind (.log _ _) fun _ => .pure _

/-- The strongest segments are the same if the window is. -/
theorem PageModel.readsAlike_top {access : Access σ Window}
    (h : Op.ReadsAlike s t (window access)) (ranking : Ranking) (config : PageConfig) :
    Op.ReadsAlike s t (top access ranking config) :=
  .bind h fun _ => .bind (.log _ _) fun _ => .pure _

/-- A profile is the same if the values of all models are. -/
theorem Models.readsAlike_build {ρ κ : Type} (m : Models ρ κ σ) {b : Backing σ}
    (hhistory : Op.ReadsAlike s t b.history.load) (harms : Op.ReadsAlike s t b.arms.load)
    (hwindow : Op.ReadsAlike s t b.window.load) (hevents : Op.ReadsAlike s t b.events.all)
    (now : Instant) (g : Rng) : Op.ReadsAlike s t (m.build b now g) :=
  have hintent := IntentModel.readsAlike_predict (hhistory.orFresh _ _) m.intent.config now
  have hbandit :=
    BanditModel.readsAlike_select (harms.orFresh _ _) m.bandit m.bandit.config.epsilon g
  have hpage := PageModel.readsAlike_top (hwindow.orFresh _ _) m.page.ranking m.page.config
  .bind (readsAlike_contribution hintent _ _) fun _ =>
    .bind (readsAlike_contribution hbandit _ _) fun _ =>
    .bind (readsAlike_contribution hpage _ _) fun _ =>
    .bind (readsAlike_contribution hevents _ _) fun _ =>
    .bind (.log _ _) fun _ => .pure _

end Models

namespace Store

variable {s t : Store}

/-- The value of a model is read the same in stores that are alike. -/
theorem Alike.readsAlike_load (h : s.Alike t) (k : Kind) : Op.ReadsAlike s t k.access.load := by
  obtain ⟨rows, rows', es, lastId, ahead, hs, ht, hcells, _, _⟩ := h
  refine ⟨?_, ?_, ?_⟩
  · rw [Kind.access, hs.load]
  · rw [Kind.access, ht.load]
  · rw [Kind.access, hs.load, ht.load, hcells]

/-- The events are read the same in stores that are alike. -/
theorem Alike.readsAlike_events (h : s.Alike t) : Op.ReadsAlike s t events.all := by
  obtain ⟨rows, rows', es, lastId, ahead, hs, ht, _, hsEvents, htEvents⟩ := h
  have hsAll := guarded_eq hs.sound (Database.allEvents_eq hsEvents)
  have htAll := guarded_eq ht.sound (Database.allEvents_eq htEvents)
  rw [newestRows_shift, mapM_event_shift] at hsAll
  refine ⟨?_, ?_, ?_⟩
  · exact congrArg Outcome.state hsAll
  · exact congrArg Outcome.state htAll
  · exact (congrArg Outcome.result hsAll).trans (congrArg Outcome.result htAll).symm

/-- A profile is the same in stores that are alike. -/
theorem Alike.readsAlike_build {ρ κ : Type} (h : s.Alike t) (m : Models ρ κ Store) (now : Instant)
    (g : Rng) : Op.ReadsAlike s t (m.build backing now g) :=
  m.readsAlike_build (h.readsAlike_load .intent) (h.readsAlike_load .bandit)
    (h.readsAlike_load .page) h.readsAlike_events now g

/-! ## Writing -/

/-- Updating the value of a model leaves stores alike. -/
theorem Alike.update (h : s.Alike t) (x : Edit) : (x.update s).state.Alike (x.update t).state := by
  obtain ⟨rows, rows', es, lastId, ahead, hs, ht, hcells, hsEvents, htEvents⟩ := h
  have hloadS := Kind.load_eq hs x.kind
  have hloadT := Kind.load_eq ht x.kind
  rw [hcells] at hloadS
  rw [Edit.update]
  cases hvalue : settled x.kind.ofJson? x.kind.fresh (rows'.get? x.kind.key) with
  | error err =>
    -- both loads fail, and nothing is saved
    rw [hvalue] at hloadS hloadT
    rw [Op.bind_error hloadS, Op.bind_error hloadT]
    exact ⟨rows, rows', es, lastId, ahead, hs, ht, hcells, hsEvents, htEvents⟩
  | ok v =>
    rw [hvalue] at hloadS hloadT
    rw [Op.bind_ok hloadS, Op.bind_ok hloadT, Kind.save_eq hs, Kind.save_eq ht]
    refine ⟨_, _, es, lastId, ahead, hs.withRows _, ht.withRows _, fun k => ?_,
      hsEvents.withRows _, htEvents.withRows _⟩
    rw [Dict.get?_insert, Dict.get?_insert, hcells]

/-- What recording an event leaves behind. -/
theorem state_recordEvent {es : List EventRow} {lastId : Nat} (hsound : s.poisoned = false)
    (hevents : s.KeepsEvents es lastId) (config : EmbeddingConfig) (event : Event) :
    (recordEvent config event s).state = s.withEvents
      (Database.remaining config.historySize (es ++ [event.row (lastId + 1)])) (lastId + 1) := by
  rw [recordEvent, Op.bind_ok (hevents.insert hsound event)]
  simp only
  rw [Op.state_bind_of_keeps (fun _ _ => rfl), state_purge,
    (keepsEvents_withEvents _ _ _).keepNewest hsound, withEvents_withEvents]

/-- Recording an event leaves stores alike. -/
theorem Alike.recordEvent (h : s.Alike t) (config : EmbeddingConfig) (event : Event) :
    (Audience.recordEvent config event s).state.Alike
      (Audience.recordEvent config event t).state := by
  obtain ⟨rows, rows', es, lastId, ahead, hs, ht, hcells, hsEvents, htEvents⟩ := h
  have hrow : (event.row (lastId + 1)).shift ahead = event.row (lastId + ahead + 1) :=
    congrArg event.row (Nat.add_right_comm _ _ _)
  -- the new rows are as far apart as the old ones
  rw [state_recordEvent hs.sound hsEvents, state_recordEvent ht.sound htEvents]
  refine ⟨rows, rows', Database.remaining config.historySize (es ++ [event.row (lastId + 1)]),
    lastId + 1, ahead, hs.withEvents _ _, ht.withEvents _ _, hcells, ?_,
    keepsEvents_withEvents _ _ _⟩
  rw [← remaining_shift, List.map_append, List.map_singleton, hrow, Nat.add_right_comm]
  exact keepsEvents_withEvents _ _ _

/-- Clearing succeeds in both of two stores that are alike, and leaves them alike. -/
theorem Alike.clearAll (h : s.Alike t) : (Store.clearAll s).result = .ok () ∧
    (Store.clearAll t).result = .ok () ∧
      (Store.clearAll s).state.Alike (Store.clearAll t).state := by
  obtain ⟨rows, rows', es, lastId, ahead, hs, ht, hcells, hsEvents, htEvents⟩ := h
  obtain ⟨s', hclearS, hs', hsEvents'⟩ := hs.clearAll hsEvents
  obtain ⟨t', hclearT, ht', htEvents'⟩ := ht.clearAll htEvents
  rw [hclearS, hclearT]
  refine ⟨rfl, rfl, _, _, [], lastId, ahead, hs', ht', fun k => ?_, hsEvents', htEvents'⟩
  simp only [clearedRows, Dict.get?_erase, hcells]

end Store

end Audience
