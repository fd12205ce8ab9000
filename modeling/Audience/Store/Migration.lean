import Audience.Store.Database

/-! # Migrations

The schema is built in numbered steps. A step that is above the highest recorded version is applied
and recorded; a step that fails leaves nothing behind, and the steps before it stay.

* **`Database.currentVersion`** — the highest recorded version.
* **`Migration.all`** — the steps in order.
* **`Database.migrate`** — applies the missing steps and counts them. -/

namespace Audience

/-- One step of the schema. -/
structure Migration where
  version : Nat
  apply : Op Database Unit

namespace Database

/-- The rows of the version table, which is made if it is missing. -/
def versionRows : Op Database (List Int) := do
  createTable versionTable (.versions [])
  match ← table versionTable with
  | .versions rows => return rows
  | _ => refuse "no such column: version"

/-- The greatest version number. -/
def versionLimit : Int := 0xFFFFFFFF

/-- The highest recorded version; without any it is zero. -/
def currentVersion : Op Database Nat := do
  match (← versionRows).max? with
  | none => return 0
  | some v =>
    if 0 ≤ v ∧ v ≤ versionLimit then return v.toNat
    else refuse "version is out of range"

/-- Records a version. A version is recorded once. -/
def recordVersion (v : Int) : Op Database Unit := do
  match ← table versionTable with
  | .versions rows =>
    if rows.contains v then refuse "UNIQUE constraint failed: schema_version.version"
    else Op.modify (fun d => d.setTable versionTable (.versions (v :: rows)))
  | _ => refuse "no such column: version"

/-- Takes a version out of the record. -/
def forgetVersion (v : Int) : Op Database Unit := do
  match ← table versionTable with
  | .versions rows =>
    Op.modify (fun d => d.setTable versionTable (.versions (rows.filter (· != v))))
  | _ => refuse "no such column: version"

/-- Makes the index of the event table unless there is one of that name. -/
def createEventIndex : Op Database Unit := do
  let t ← table eventTable
  let d ← Op.get
  if d.tables.contains eventIndex then
    refuse ("there is already a table named " ++ eventIndex)
  else if d.indexes.contains eventIndex then return ()
  else
    match t with
    | .events _ _ => Op.set { d with indexes := d.indexes.insert eventIndex eventTable }
    | _ => refuse "no such column: created_at"

end Database

namespace Migration

/-- The steps in order. -/
def all : List Migration := [
  ⟨1, Database.createTable Database.stateTable (.clientState .empty)⟩,
  ⟨2, Database.createTable Database.eventTable (.events [] 0)⟩,
  ⟨3, Database.createEventIndex⟩]

/-- The version of the last step. -/
def latest : Nat := 3

/-- Applies a step and records its version, or leaves the database as it was. -/
def run (m : Migration) : Op Database Unit := fun d =>
  let out := m.apply d
  match out.result with
  | .ok () =>
    let recorded := Database.recordVersion m.version out.state
    match recorded.result with
    | .ok () => ⟨.ok (), recorded.state, [⟨.info, "applied schema migration", none⟩]⟩
    | .error e => ⟨.error e, d, []⟩
  | .error .crash => ⟨.error .crash, d, []⟩
  | .error (.error e) =>
    ⟨.error (.error (.storage (.migrationFailed m.version e.message))), d, []⟩

/-- Applies steps one after another and counts them. -/
def runAll : List Migration → Op Database Nat
  | [] => pure 0
  | m :: rest => do
    m.run
    let n ← runAll rest
    return n + 1

end Migration

/-- Applies the steps above the current version and counts them. -/
def Database.migrate : Op Database Nat := do
  let current ← Database.currentVersion
  Migration.runAll (Migration.all.filter (fun m => decide (current < m.version)))

end Audience
