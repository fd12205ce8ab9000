import Audience.Access
import Audience.Bandit.Arm
import Audience.Intent.History
import Audience.Json.Parser
import Audience.Json.Printer
import Audience.Page.Window
import Audience.Store.ClientState
import Audience.Store.EventLog
import Audience.Store.Migration

/-! # The store

The store guards the database by a lock and keeps the values of all models in it. A crash under the
lock poisons it, and nothing gets through any more. A store in memory is lost when it is opened
again.

* **`Store.guarded`** — an operation on the database under the lock.
* **`Store.prepare`** — brings the schema up to date.
* **`Store.reopened`** — the store that is found when a store is opened again.
* **`Store.history`**, **`Store.window`**, **`Store.arms`**, **`Store.events`** — access to the
  values of the models.
* **`Store.clearAll`** — deletes what the models have stored. -/

namespace Audience

/-- Where a database is kept. -/
inductive Medium where
  | memory
  /-- A file, which outlives the store. -/
  | file
  /-- A place where no database can be opened. -/
  | unusable
  deriving DecidableEq, Repr

/-- The database behind its lock. -/
structure Store where
  database : Database
  /-- Whether a crash has poisoned the lock. -/
  poisoned : Bool
  medium : Medium

namespace Store

/-- An operation on the database under the lock. -/
def guarded {α : Type} (x : Op Database α) : Op Store α := fun s =>
  if s.poisoned then ⟨.error (.error (.storage (.lockPoisoned Op.poisonedDetails))), s, []⟩
  else
    let out := x s.database
    ⟨out.result, { s with database := out.state }, out.log⟩

/-- A store on an empty database, not yet brought up to date. -/
def new (medium : Medium) : Store := ⟨.empty, false, medium⟩

/-- Opens the database and brings its schema up to date. -/
def prepare : Op Store Unit := do
  if (← Op.get).medium = .unusable then
    Op.fail (.storage (.database "unable to open database file"))
  let _ ← guarded Database.migrate

/-- The store that is found when this one is opened again: the data of a file are still there. -/
def reopened (s : Store) : Store :=
  { new s.medium with database := if s.medium = .file then s.database else .empty }

/-- Whether the database keeps a log of what is written ahead. Only files do. -/
def isLoggedAhead (s : Store) : Bool := s.medium == .file

/-- The schema version. -/
def schemaVersion : Op Store Nat := guarded Database.currentVersion

/-- A crash under the lock. -/
def poison (s : Store) : Store := { s with poisoned := true }

/-! ## Values by key -/

/-- Stores the text that a value was encoded as. A value that could not be encoded is not stored. -/
def put (key : String) (encoded : Except Error String) : Op Store Unit :=
  guarded (do
    let text ← Op.ofExcept encoded
    Database.putState key (.text text))

/-- The decoded value of a key, if it has one. -/
def get {α : Type} (decode : String → Option α) (key : String) : Op Store (Option α) :=
  guarded (do
    match ← Database.stateText? key with
    | none => return none
    | some text =>
      match decode text with
      | some a => return some a
      | none => .fail (.storage (.malformedState key "the value does not decode")))

/-- Access to a value under a key; while there is none, it is the one given. -/
def access {α : Type} (key : String) (ofJson? : Json → Option α) (toJson : α → Json) (fresh : α) :
    Access Store α where
  load := do
    return (← get (fun text => (Json.parse? text).bind ofJson?) key).getD fresh
  save a := put key (.ok (toJson a).render)

/-- The key of the history of purchase intent. -/
def historyKey : String := "purchase_intent_signal_history"

/-- The key of the window of pages. -/
def windowKey : String := "text_classification_probabilities_history"

/-- The key of the arms. -/
def armsKey : String := "epsilon_greedy_bandit_arms"

/-- Access to the history of purchase intent. -/
def history : Access Store History := access historyKey History.ofJson? History.toJson .empty

/-- Access to the window of pages. -/
def window : Access Store Window := access windowKey Window.ofJson? Window.toJson .empty

/-- Access to the arms. -/
def arms : Access Store Arms := access armsKey Arms.ofJson? Arms.toJson .empty

/-! ## Events -/

/-- Access to the embedding events. -/
def events : EventAccess Store where
  insert e := guarded (Database.insertEvent e)
  all := guarded Database.allEvents
  keepNewest keep := guarded (Database.keepNewest keep)

/-! ## Clearing -/

/-- Deletes what the models have stored, one thing after another. A failure stops it half way. -/
def clearAll : Op Store Unit :=
  guarded (do
    let _ ← Database.deleteState historyKey
    let _ ← Database.deleteState windowKey
    let _ ← Database.deleteState armsKey
    let _ ← Database.keepNewest 0)

end Store

end Audience
