import Audience.Embedding.Model
import Audience.Proofs.Dictionary
import Audience.Proofs.Operations
import Audience.Store.Basic

/-! # What the store does to its rows

Every operation of a store that is at work reads its client state or replaces some of it, and what
it does depends on the rows alone.

* **`Store.Keeps s rows`** — the store is at work and keeps these rows of client state.
* **`Store.reading`** — what the value of a cell is read as.
* **`Store.Keeps.load`**, **`Store.Keeps.loadOrFresh`**, **`Store.Keeps.save`** — access to a value
  by the rows. -/

namespace Audience

/-- The row of an event. -/
def Event.row (e : Event) (id : Nat) : EventRow :=
  ⟨id, e.time.stampMicros, e.locale, e.digest, .blob (encodeEmbedding e.embedding)⟩

/-! ## The database -/

namespace Database

variable {d : Database} {rows : Dict Cell}

/-- Of two replacements of one table the later one counts. -/
@[simp] theorem setTable_setTable (d : Database) (name : String) (t t' : Table) :
    (d.setTable name t).setTable name t' = d.setTable name t' := by
  simp [setTable]

/-- A table that is there is found. -/
theorem table_eq {name : String} {t : Table} (h : d.tables.get? name = some t) :
    table name d = ⟨.ok t, d, []⟩ := by
  rw [table, Op.bind_get, h]
  rfl

/-- A table that is not there is reported. -/
theorem table_error {name : String} (h : d.tables.get? name = none) : table name d
    = ⟨.error (.error (.storage (.database ("no such table: " ++ name)))), d, []⟩ := by
  rw [table, Op.bind_get, h]
  rfl

/-- The rows are those of the table. -/
theorem stateRows_eq (h : d.tables.get? stateTable = some (.clientState rows)) :
    stateRows d = ⟨.ok rows, d, []⟩ := by
  rw [stateRows, Op.bind_ok (table_eq h)]
  rfl

/-- Without the table there are no rows. -/
theorem stateRows_error (h : ∀ rows, d.tables.get? stateTable ≠ some (.clientState rows)) :
    ∃ e : Error, e.isMalformedState = false ∧ stateRows d = ⟨.error (.error e), d, []⟩ := by
  cases htable : d.tables.get? stateTable with
  | none => exact ⟨_, rfl, Op.bind_error (table_error htable)⟩
  | some t =>
    refine ⟨.storage (.database "no such column: value"), rfl, ?_⟩
    rw [stateRows, Op.bind_ok (table_eq htable)]
    cases t with
    | clientState rows => exact absurd htable (h rows)
    | versions | events | foreign => rfl

/-- A value is put into the rows. -/
theorem putState_eq (h : d.tables.get? stateTable = some (.clientState rows)) (key : String)
    (cell : Cell) : putState key cell d
      = ⟨.ok (), d.setTable stateTable (.clientState (rows.insert key cell)), []⟩ := by
  rw [putState, Op.bind_ok (stateRows_eq h)]
  rfl

/-- A key is taken out of the rows. -/
theorem deleteState_eq (h : d.tables.get? stateTable = some (.clientState rows)) (key : String) :
    deleteState key d
      = ⟨.ok (rows.contains key), d.setTable stateTable (.clientState (rows.erase key)), []⟩ := by
  rw [deleteState, Op.bind_ok (stateRows_eq h)]
  rfl

/-- The text of a cell, where a blob has none. -/
def cellText : Option Cell → Except Failure (Option String)
  | none => .ok none
  | some (.text s) => .ok (some s)
  | some (.blob _) => .error (.error (.storage (.database "invalid column type: blob")))

/-- The text of a key is that of its cell. -/
theorem stateText?_eq (h : d.tables.get? stateTable = some (.clientState rows)) (key : String) :
    stateText? key d = ⟨cellText (rows.get? key), d, []⟩ := by
  have hcell : stateCell? key d = ⟨.ok (rows.get? key), d, []⟩ := by
    rw [stateCell?, Op.bind_ok (stateRows_eq h)]
    rfl
  rw [stateText?, Op.bind_ok hcell]
  cases rows.get? key with
  | none => rfl
  | some cell => cases cell <;> rfl

/-- The rows of the event table. -/
theorem eventRows_eq {es : List EventRow} {lastId : Nat}
    (h : d.tables.get? eventTable = some (.events es lastId)) :
    eventRows d = ⟨.ok (es, lastId), d, []⟩ := by
  rw [eventRows, Op.bind_ok (table_eq h)]
  rfl

/-- An event is appended with the next number. -/
theorem insertEvent_eq {es : List EventRow} {lastId : Nat}
    (h : d.tables.get? eventTable = some (.events es lastId)) (e : Event) : insertEvent e d
      = ⟨.ok (), d.setTable eventTable (.events (es ++ [e.row (lastId + 1)]) (lastId + 1)),
          []⟩ := by
  rw [insertEvent, insertRow, Op.bind_ok (eventRows_eq h)]
  rfl

/-- Of the events the newest ones remain. -/
theorem keepNewest_eq {es : List EventRow} {lastId : Nat}
    (h : d.tables.get? eventTable = some (.events es lastId)) (keep : Nat) : keepNewest keep d
      = ⟨.ok (es.length - (remaining keep es).length),
          d.setTable eventTable (.events (remaining keep es) lastId), []⟩ := by
  rw [keepNewest, Op.bind_ok (eventRows_eq h)]
  rfl

/-- The events are read off their rows. -/
theorem allEvents_eq {es : List EventRow} {lastId : Nat}
    (h : d.tables.get? eventTable = some (.events es lastId)) :
    allEvents d = ⟨((newestRows es).mapM EventRow.event).mapError .error, d, []⟩ := by
  rw [allEvents, Op.bind_ok (eventRows_eq h)]
  simp only [Op.ofExcept_apply, List.nil_append]

/-- Without the event table there are no events. -/
theorem eventRows_error (h : ∀ es lastId, d.tables.get? eventTable ≠ some (.events es lastId)) :
    ∃ e : Error, eventRows d = ⟨.error (.error e), d, []⟩ := by
  cases htable : d.tables.get? eventTable with
  | none => exact ⟨_, Op.bind_error (table_error htable)⟩
  | some t =>
    refine ⟨.storage (.database "no such column: created_at"), ?_⟩
    rw [eventRows, Op.bind_ok (table_eq htable)]
    cases t with
    | events es lastId => exact absurd htable (h es lastId)
    | versions | clientState | foreign => rfl

end Database

/-! ## The store -/

namespace Store

variable {α : Type} {s : Store} {rows : Dict Cell}

/-- The store is at work and keeps these rows of client state. -/
structure Keeps (s : Store) (rows : Dict Cell) : Prop where
  sound : s.poisoned = false
  table : s.database.tables.get? Database.stateTable = some (.clientState rows)

/-- The store with other rows of client state. -/
def withRows (s : Store) (rows : Dict Cell) : Store :=
  { s with database := s.database.setTable Database.stateTable (.clientState rows) }

/-- A store keeps the rows that it is given. -/
theorem Keeps.withRows (h : s.Keeps rows) (rows' : Dict Cell) : (s.withRows rows').Keeps rows' :=
  ⟨h.sound, Dict.get?_insert_self _ _ _⟩

/-- Of two replacements of the client state the later one counts. -/
@[simp] theorem withRows_withRows (s : Store) (rows rows' : Dict Cell) :
    (s.withRows rows).withRows rows' = s.withRows rows' := by
  simp [withRows]

/-- The cell of a key. -/
def cell (s : Store) (key : String) : Option Cell :=
  match s.database.tables.get? Database.stateTable with
  | some (.clientState rows) => rows.get? key
  | _ => none

/-- The cells of a store are those of its rows. -/
theorem Keeps.cell (h : s.Keeps rows) (key : String) : s.cell key = rows.get? key := by
  rw [Store.cell, h.table]

/-- A store that is at work runs operations on its database. -/
theorem guarded_eq (h : s.poisoned = false) {x : Op Database α} {d : Database}
    {r : Except Failure α} {l : List LogLine} (hx : x s.database = ⟨r, d, l⟩) :
    guarded x s = ⟨r, { s with database := d }, l⟩ := by
  simp [guarded, h, hx]

/-- The value that a text decodes to. -/
def decoded (ofJson? : Json → Option α) (text : String) : Option α :=
  (Json.parse? text).bind ofJson?

/-- The error of a blob where a text is expected. -/
def blobError : Error := .storage (.database "invalid column type: blob")

/-- The error of a text that does not decode. -/
def undecodedError (key : String) : Error :=
  .storage (.malformedState key "the value does not decode")

/-- What a cell is read as; a missing one counts as the value given. -/
def reading (key : String) (ofJson? : Json → Option α) (fresh : α) :
    Option Cell → Except Failure α
  | none => .ok fresh
  | some (.text text) =>
    match decoded ofJson? text with
    | some a => .ok a
    | none => .error (.error (undecodedError key))
  | some (.blob _) => .error (.error blobError)

/-- What a cell is taken for; a missing one and one that does not decode count as the value
given. -/
def settled (ofJson? : Json → Option α) (fresh : α) : Option Cell → Except Failure α
  | none => .ok fresh
  | some (.text text) => .ok ((decoded ofJson? text).getD fresh)
  | some (.blob _) => .error (.error blobError)

/-- The warning about a cell that does not decode. -/
def settledLog (ofJson? : Json → Option α) (warning : String) : Option Cell → List LogLine
  | some (.text text) =>
    if (decoded ofJson? text).isSome then [] else [⟨.warn, warning, none⟩]
  | _ => []

variable (key : String) (ofJson? : Json → Option α) (toJson : α → Json) (fresh : α)

/-- Loading reads the cell of the key. -/
theorem Keeps.load (h : s.Keeps rows) : (access key ofJson? toJson fresh).load s
    = ⟨reading key ofJson? fresh (rows.get? key), s, []⟩ := by
  have htext := Database.stateText?_eq h.table key
  cases hcell : rows.get? key with
  | none =>
    rw [hcell, Database.cellText] at htext
    have hget : get (decoded ofJson?) key s = ⟨.ok none, s, []⟩ :=
      guarded_eq h.sound (by rw [Op.bind_ok htext]; rfl)
    exact (Op.bind_ok hget).trans rfl
  | some cell =>
    rw [hcell] at htext
    cases cell with
    -- a blob is refused before anything is decoded
    | blob bytes =>
      have hget : get (decoded ofJson?) key s = ⟨.error (.error blobError), s, []⟩ :=
        guarded_eq h.sound (Op.bind_error htext)
      exact Op.bind_error hget
    | text text =>
      rw [Database.cellText] at htext
      rw [reading]
      cases hvalue : decoded ofJson? text with
      | none =>
        have hget : get (decoded ofJson?) key s
            = ⟨.error (.error (undecodedError key)), s, []⟩ :=
          guarded_eq h.sound (by rw [Op.bind_ok htext]; simp only [hvalue]; rfl)
        exact Op.bind_error hget
      | some a =>
        have hget : get (decoded ofJson?) key s = ⟨.ok (some a), s, []⟩ :=
          guarded_eq h.sound (by rw [Op.bind_ok htext]; simp only [hvalue]; rfl)
        exact (Op.bind_ok hget).trans rfl

/-- Loading takes a cell that does not decode for a missing one. -/
theorem Keeps.loadOrFresh (h : s.Keeps rows) (warning : String) :
    (access key ofJson? toJson fresh).load.orFresh fresh warning s
      = ⟨settled ofJson? fresh (rows.get? key), s,
          settledLog ofJson? warning (rows.get? key)⟩ := by
  have hload := h.load key ofJson? toJson fresh
  cases hcell : rows.get? key with
  | none =>
    rw [hcell] at hload
    exact Op.orFresh_ok fresh warning hload
  | some cell =>
    rw [hcell] at hload
    cases cell with
    | blob bytes => exact Op.orFresh_error fresh warning rfl hload
    | text text =>
      rw [settled, settledLog]
      cases hvalue : decoded ofJson? text with
      | none =>
        rw [reading, hvalue] at hload
        exact Op.orFresh_malformed fresh warning rfl hload
      | some a =>
        rw [reading, hvalue] at hload
        exact Op.orFresh_ok fresh warning hload

/-- Saving puts the text of the value under the key. -/
theorem Keeps.save (h : s.Keeps rows) (a : α) : (access key ofJson? toJson fresh).save a s
    = ⟨.ok (), s.withRows (rows.insert key (.text (toJson a).render)), []⟩ :=
  guarded_eq h.sound (Database.putState_eq h.table key (.text (toJson a).render))

/-- A store that keeps no rows refuses to load. -/
theorem loadOrFresh_of_not_keeps (h : ∀ rows, ¬s.Keeps rows) (warning : String) :
    ∃ e : Error, (access key ofJson? toJson fresh).load.orFresh fresh warning s
      = ⟨.error (.error e), s, []⟩ := by
  have hget : ∃ e : Error, e.isMalformedState = false ∧
      get (decoded ofJson?) key s = ⟨.error (.error e), s, []⟩ := by
    cases hpoisoned : s.poisoned with
    | true =>
      refine ⟨.storage (.lockPoisoned Op.poisonedDetails), rfl, ?_⟩
      simp [get, guarded, hpoisoned]
    | false =>
      obtain ⟨e, he, hrows⟩ := Database.stateRows_error fun rows htable =>
        h rows ⟨hpoisoned, htable⟩
      have htext : Database.stateText? key s.database = ⟨.error (.error e), s.database, []⟩ :=
        Op.bind_error (Op.bind_error hrows)
      exact ⟨e, he, guarded_eq hpoisoned (Op.bind_error htext)⟩
  obtain ⟨e, he, hget⟩ := hget
  exact ⟨e, Op.orFresh_error fresh warning he (Op.bind_error hget)⟩

/-! ## Clearing -/

/-- The store keeps these rows of events, and this is the number of the last row ever inserted. -/
def KeepsEvents (s : Store) (es : List EventRow) (lastId : Nat) : Prop :=
  s.database.tables.get? Database.eventTable = some (.events es lastId)

/-- The store with other events. -/
def withEvents (s : Store) (es : List EventRow) (lastId : Nat) : Store :=
  { s with database := s.database.setTable Database.eventTable (.events es lastId) }

/-- Of two replacements of the events the later one counts. -/
@[simp] theorem withEvents_withEvents (s : Store) (es es' : List EventRow) (lastId lastId' : Nat) :
    (s.withEvents es lastId).withEvents es' lastId' = s.withEvents es' lastId' := by
  simp [withEvents]

/-- A store keeps the events that it is given. -/
theorem keepsEvents_withEvents (s : Store) (es : List EventRow) (lastId : Nat) :
    (s.withEvents es lastId).KeepsEvents es lastId := Dict.get?_insert_self _ _ _

/-- Other events leave the client state as it is. -/
theorem Keeps.withEvents (h : s.Keeps rows) (es : List EventRow) (lastId : Nat) :
    (s.withEvents es lastId).Keeps rows :=
  ⟨h.sound, (Dict.get?_insert_of_ne _ (by decide) _).trans h.table⟩

/-- Other rows of client state leave the events as they are. -/
theorem KeepsEvents.withRows {es : List EventRow} {lastId : Nat} (h : s.KeepsEvents es lastId)
    (rows : Dict Cell) : (s.withRows rows).KeepsEvents es lastId :=
  (Dict.get?_insert_of_ne _ (by decide) _).trans h

/-- Inserting an event appends its row. -/
theorem KeepsEvents.insert {es : List EventRow} {lastId : Nat} (h : s.KeepsEvents es lastId)
    (hsound : s.poisoned = false) (e : Event) : events.insert e s
      = ⟨.ok (), s.withEvents (es ++ [e.row (lastId + 1)]) (lastId + 1), []⟩ :=
  guarded_eq hsound (Database.insertEvent_eq h e)

/-- Keeping the newest events keeps their rows. -/
theorem KeepsEvents.keepNewest {es : List EventRow} {lastId : Nat} (h : s.KeepsEvents es lastId)
    (hsound : s.poisoned = false) (keep : Nat) : events.keepNewest keep s
      = ⟨.ok (es.length - (Database.remaining keep es).length),
          s.withEvents (Database.remaining keep es) lastId, []⟩ :=
  guarded_eq hsound (Database.keepNewest_eq h keep)

/-- Purging events does to the store what keeping the newest does. -/
theorem state_purge (config : EmbeddingConfig) (s : Store) :
    (EmbeddingModel.purge events config s).state
      = (events.keepNewest config.historySize s).state := by
  rw [EmbeddingModel.purge, Op.state_bind_of_keeps]
  intro deleted s
  by_cases hdeleted : 0 < deleted
  · simp only [hdeleted]
    rfl
  · simp only [hdeleted]
    rfl

/-- The rows without what the models have stored. -/
def clearedRows (rows : Dict Cell) : Dict Cell :=
  ((rows.erase historyKey).erase windowKey).erase armsKey

/-- Deleting a value before something else. -/
theorem deleteState_bind {d : Database} (key : String)
    (h : d.tables.get? Database.stateTable = some (.clientState rows)) (x : Op Database Unit) :
    (Database.deleteState key >>= fun _ => x) d
      = x (d.setTable Database.stateTable (.clientState (rows.erase key))) := by
  rw [Op.bind_ok (Database.deleteState_eq h key)]
  rfl

/-- Deleting the values of all models before something else. -/
theorem deleteStates_bind {d : Database}
    (h : d.tables.get? Database.stateTable = some (.clientState rows)) (x : Op Database Unit) :
    (Database.deleteState historyKey >>= fun _ => Database.deleteState windowKey >>= fun _ =>
      Database.deleteState armsKey >>= fun _ => x) d
        = x (d.setTable Database.stateTable (.clientState (clearedRows rows))) := by
  rw [deleteState_bind _ h, deleteState_bind _ (Dict.get?_insert_self _ _ _),
    deleteState_bind _ (Dict.get?_insert_self _ _ _), Database.setTable_setTable,
    Database.setTable_setTable]
  rfl

/-- Clearing takes the values of the models out and all events, but not the number of the last
event. -/
theorem Keeps.clearAll_eq (h : s.Keeps rows) {es : List EventRow} {lastId : Nat}
    (hevents : s.KeepsEvents es lastId) : Store.clearAll s
      = ⟨.ok (), (s.withRows (clearedRows rows)).withEvents [] lastId, []⟩ := by
  have hnone : Database.remaining 0 es = [] := by simp [Database.remaining]
  have hnewest := Database.keepNewest_eq (hevents.withRows (clearedRows rows)) 0
  rw [hnone] at hnewest
  -- the events are deleted last, and the number of the last one stays
  exact guarded_eq h.sound ((deleteStates_bind h.table _).trans ((Op.bind_ok hnewest).trans rfl))

/-- Clearing leaves a store at work, without the values of the models and without events. -/
theorem Keeps.clearAll (h : s.Keeps rows) {es : List EventRow} {lastId : Nat}
    (hevents : s.KeepsEvents es lastId) : ∃ s', Store.clearAll s = ⟨.ok (), s', []⟩ ∧
      s'.Keeps (clearedRows rows) ∧ s'.KeepsEvents [] lastId :=
  ⟨_, h.clearAll_eq hevents, (h.withRows _).withEvents _ _, keepsEvents_withEvents _ _ _⟩

/-- Clearing succeeds only where there is something to clear. -/
theorem keeps_of_clearAll (h : (clearAll s).result = .ok ()) :
    ∃ rows es lastId, s.Keeps rows ∧ s.KeepsEvents es lastId := by
  by_cases hpoisoned : s.poisoned = true
  · simp [clearAll, guarded, hpoisoned] at h
  rw [Bool.not_eq_true] at hpoisoned
  by_cases hstate : ∃ rows, s.database.tables.get? Database.stateTable = some (.clientState rows)
  · obtain ⟨rows, hrows⟩ := hstate
    by_cases hevents : ∃ es lastId, s.KeepsEvents es lastId
    · obtain ⟨es, lastId, hevents⟩ := hevents
      exact ⟨rows, es, lastId, ⟨hpoisoned, hrows⟩, hevents⟩
    · -- the values are deleted, and then the events are missing
      let d := s.database.setTable Database.stateTable (.clientState (clearedRows rows))
      have hsame : d.tables.get? Database.eventTable
          = s.database.tables.get? Database.eventTable := Dict.get?_insert_of_ne _ (by decide) _
      obtain ⟨e, hmissing⟩ := Database.eventRows_error (d := d) fun es lastId htable =>
        hevents ⟨es, lastId, hsame.symm.trans htable⟩
      have hclear : clearAll s = ⟨.error (.error e), { s with database := d }, []⟩ :=
        guarded_eq hpoisoned ((deleteStates_bind hrows _).trans
          (Op.bind_error (Op.bind_error hmissing)))
      rw [hclear] at h
      cases h
  · -- without client state the first deletion fails
    obtain ⟨e, _, hrows⟩ := Database.stateRows_error fun rows htable => hstate ⟨rows, htable⟩
    have hclear : clearAll s = ⟨.error (.error e), s, []⟩ :=
      guarded_eq hpoisoned (Op.bind_error (Op.bind_error hrows))
    rw [hclear] at h
    cases h

/-! ## Crashes -/

/-- An operation that is never cut off is not cut off under the lock of the store. -/
theorem neverCrashes_guarded {x : Op Database α} (hx : x.NeverCrashes) :
    (guarded x).NeverCrashes := by
  intro s
  rw [guarded]
  split
  · exact fun h => nomatch h
  · exact hx s.database

/-- Finding a table is never cut off. -/
theorem neverCrashes_table (name : String) : (Database.table name).NeverCrashes := by
  intro d hcrash
  cases htable : d.tables.get? name with
  | none =>
    rw [Database.table_error htable] at hcrash
    cases hcrash
  | some t =>
    rw [Database.table_eq htable] at hcrash
    cases hcrash

/-- Reading the rows is never cut off. -/
theorem neverCrashes_stateRows : Database.stateRows.NeverCrashes := by
  refine (neverCrashes_table _).bind fun t => ?_
  cases t <;> exact fun _ h => nomatch h

/-- Loading a value is never cut off. -/
theorem neverCrashes_load : (access key ofJson? toJson fresh).load.NeverCrashes := by
  refine .bind (neverCrashes_guarded (.bind (.bind (.bind neverCrashes_stateRows
    fun rows => .pure _) fun cell => ?_) fun text => ?_)) fun value => .pure _
  · cases cell with
    | none => exact .pure _
    | some cell => cases cell <;> exact fun _ h => nomatch h
  · cases text with
    | none => exact .pure _
    | some text =>
      change Op.NeverCrashes (match decoded ofJson? text with | some a => _ | none => _)
      cases decoded ofJson? text <;> exact fun _ h => nomatch h

/-- Saving a value is never cut off. -/
theorem neverCrashes_save (a : α) : ((access key ofJson? toJson fresh).save a).NeverCrashes :=
  neverCrashes_guarded (.bind (.pure _) fun _ =>
    .bind neverCrashes_stateRows fun _ _ h => nomatch h)

/-- Reading the events is never cut off. -/
theorem neverCrashes_eventRows : Database.eventRows.NeverCrashes := by
  refine (neverCrashes_table _).bind fun t => ?_
  cases t <;> exact fun _ h => nomatch h

/-- Inserting an event is never cut off. -/
theorem neverCrashes_insert (e : Event) : (events.insert e).NeverCrashes :=
  neverCrashes_guarded (.bind neverCrashes_eventRows fun _ _ h => nomatch h)

/-- Keeping the newest events is never cut off. -/
theorem neverCrashes_keepNewest (keep : Nat) : (events.keepNewest keep).NeverCrashes :=
  neverCrashes_guarded (.bind neverCrashes_eventRows fun _ =>
    .bind (fun _ h => nomatch h) fun _ => .pure _)

/-! ## A new store -/

/-- The store that has been opened on an empty database. -/
def opened (medium : Medium) : Store := (prepare (new medium)).state

/-- A new store keeps no client state. -/
theorem keeps_opened {medium : Medium} (h : medium ≠ .unusable) : (opened medium).Keeps .empty := by
  cases medium with
  | memory => exact ⟨rfl, rfl⟩
  | file => exact ⟨rfl, rfl⟩
  | unusable => exact absurd rfl h

/-- A new store keeps no events. -/
theorem keepsEvents_opened {medium : Medium} (h : medium ≠ .unusable) :
    (opened medium).KeepsEvents [] 0 := by
  cases medium with
  | memory => exact rfl
  | file => exact rfl
  | unusable => exact absurd rfl h

end Store

end Audience
