import Audience.Embedding.Event
import Audience.Store.Database

/-! # The event table

Events are ordered by the text of their time stamps, the greatest first, and the later insertion
first among equal ones. Time stamps of the years 0 to 9999 have a fixed width, so the order of their
texts is the order of time.

* **`Database.insertEvent e`** — appends an event.
* **`Database.allEvents`** — the events, newest first.
* **`Database.keepNewest n`** — deletes all events but the newest ones. -/

namespace Audience

/-- Whether a row is before another one in the order of events. -/
def EventRow.isNewer (a b : EventRow) : Bool :=
  decide (b.createdAt < a.createdAt ∨ (a.createdAt = b.createdAt ∧ b.id ≤ a.id))

/-- Rows in the order of events, newest first. -/
def newestRows (rows : List EventRow) : List EventRow := rows.mergeSort EventRow.isNewer

/-- The key that a malformed time stamp is reported with. -/
def createdAtKey : String := "text_embedding_events.created_at"

/-- The key that a malformed embedding is reported with. -/
def embeddingKey : String := "text_embedding_events.embedding"

/-- The event of a row. Its embedding has to be a blob, its time stamp in the strict form, and the
length of the blob a multiple of four. -/
def EventRow.event (r : EventRow) : Except Error Event :=
  match r.embedding with
  | .text _ => .error (.storage (.database "invalid column type: text"))
  | .blob bytes =>
    match Stamp.strict? r.createdAt with
    | none => .error (.storage (.malformedState createdAtKey "not a time stamp"))
    | some time =>
      match decodeEmbedding? bytes with
      | none =>
        .error (.storage (.malformedState embeddingKey
          ("blob length " ++ toString bytes.length ++ " is not a multiple of 4")))
      | some v => .ok ⟨time, r.locale, r.digest, v⟩

namespace Database

/-- The rows of the event table and the number of the last row ever inserted. -/
def eventRows : Op Database (List EventRow × Nat) := do
  match ← table eventTable with
  | .events rows lastId => return (rows, lastId)
  | _ => refuse "no such column: created_at"

/-- Appends a row. -/
def insertRow (createdAt locale digest : String) (embedding : Cell) : Op Database Unit := do
  let (rows, lastId) ← eventRows
  let row : EventRow := ⟨lastId + 1, createdAt, locale, digest, embedding⟩
  Op.modify (fun d => d.setTable eventTable (.events (rows ++ [row]) (lastId + 1)))

/-- Appends an event; its time is cut to microseconds. -/
def insertEvent (e : Event) : Op Database Unit :=
  insertRow e.time.stampMicros e.locale e.digest (.blob (encodeEmbedding e.embedding))

/-- The events, newest first. A row that is no event spoils them all. -/
def allEvents : Op Database (List Event) := do
  let (rows, _) ← eventRows
  Op.ofExcept ((newestRows rows).mapM EventRow.event)

/-- The number of events. -/
def countEvents : Op Database Nat := do
  return (← eventRows).1.length

/-- No more rows than this can be kept. -/
def keepLimit : Nat := 0x7FFFFFFFFFFFFFFF

/-- The rows of which the newest `keep` remain, in order of insertion. -/
def remaining (keep : Nat) (rows : List EventRow) : List EventRow :=
  let kept := ((newestRows rows).take (min keep keepLimit)).map EventRow.id
  rows.filter (fun r => kept.contains r.id)

/-- Deletes all events but the newest ones, and counts what it deleted. -/
def keepNewest (keep : Nat) : Op Database Nat := do
  let (rows, lastId) ← eventRows
  let rest := remaining keep rows
  Op.modify (fun d => d.setTable eventTable (.events rest lastId))
  return rows.length - rest.length

end Database

end Audience
