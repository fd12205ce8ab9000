import Audience.Store.Database

/-! # Client state

The client state keeps values by key: the text of what a model stores, or whatever was put there
from outside.

* **`Database.stateText? key`** — the text of a key.
* **`Database.putState key cell`** — stores a value.
* **`Database.deleteState key`** — deletes a value. -/

namespace Audience.Database

/-- The stored values by key. -/
def stateRows : Op Database (Dict Cell) := do
  match ← table stateTable with
  | .clientState rows => return rows
  | _ => refuse "no such column: value"

/-- The value of a key. -/
def stateCell? (key : String) : Op Database (Option Cell) := do
  return (← stateRows).get? key

/-- The text of a key. A blob is not text. -/
def stateText? (key : String) : Op Database (Option String) := do
  match ← stateCell? key with
  | none => return none
  | some (.text s) => return some s
  | some (.blob _) => refuse "invalid column type: blob"

/-- Stores a value in place of any other. -/
def putState (key : String) (cell : Cell) : Op Database Unit := do
  let rows ← stateRows
  Op.modify (fun d => d.setTable stateTable (.clientState (rows.insert key cell)))

/-- Deletes a value, and tells whether there was one. -/
def deleteState (key : String) : Op Database Bool := do
  let rows ← stateRows
  Op.modify (fun d => d.setTable stateTable (.clientState (rows.erase key)))
  return rows.contains key

/-- The keys in ascending order. -/
def stateKeys : Op Database (List String) := do
  return (← stateRows).keys

end Audience.Database
