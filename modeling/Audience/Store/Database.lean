import Audience.Dict
import Audience.Op

/-! # The database

The database is a set of named tables and named indexes. Tables and indexes share their names: no
index has the name of a table. Only what the library reads is kept of the tables; a table of another
shape is just there.

* **`Database`** — tables, and indexes with the table that each belongs to.
* **`Database.dropTable`**, **`Database.makeTable`**, **`Database.makeIndex`** — changes from
  outside of the library. -/

namespace Audience

/-- A stored value. -/
inductive Cell where
  | text (s : String)
  | blob (bytes : List UInt8)
  deriving DecidableEq, Repr

/-- A row of the event table. -/
structure EventRow where
  /-- Later rows have greater numbers. -/
  id : Nat
  createdAt : String
  locale : String
  digest : String
  embedding : Cell
  deriving DecidableEq, Repr

/-- A table of one of the known shapes, or of another one. -/
inductive Table where
  /-- The schema versions that have been reached. -/
  | versions (rows : List Int)
  /-- Values by key. -/
  | clientState (rows : Dict Cell)
  /-- Embedding events in order of insertion, and the number of the last one ever inserted. -/
  | events (rows : List EventRow) (lastId : Nat)
  /-- A table of another shape. -/
  | foreign

/-- The tables and indexes. -/
structure Database where
  tables : Dict Table
  /-- The table of each index. -/
  indexes : Dict String

namespace Database

/-- A database without tables. -/
def empty : Database := ⟨.empty, .empty⟩

instance : Inhabited Database := ⟨empty⟩

/-- The name of the table of schema versions. -/
def versionTable : String := "schema_version"

/-- The name of the table of values by key. -/
def stateTable : String := "client_state"

/-- The name of the table of embedding events. -/
def eventTable : String := "text_embedding_events"

/-- The name of the index of the event table. -/
def eventIndex : String := "idx_text_embedding_events_created_at"

/-- The database refuses an operation. -/
def refuse {α : Type} (reason : String) : Op Database α := .fail (.storage (.database reason))

/-- Replaces a table. -/
def setTable (d : Database) (name : String) (t : Table) : Database :=
  { d with tables := d.tables.insert name t }

/-- The table of a name. -/
def table (name : String) : Op Database Table := do
  match (← Op.get).tables.get? name with
  | some t => return t
  | none => refuse ("no such table: " ++ name)

/-- Whether a name is taken by a table or an index. -/
def isTaken (d : Database) (name : String) : Bool :=
  d.tables.contains name || d.indexes.contains name

/-- Names that start like this belong to the database itself. -/
def reserved : String := "sqlite_"

/-- The names of all tables and indexes in ascending order. -/
def objects (d : Database) : List String :=
  (d.tables.keys ++ d.indexes.keys).mergeSort (fun a b => decide (a ≤ b))

/-- Makes a table unless there is one of that name. -/
def createTable (name : String) (fresh : Table) : Op Database Unit := do
  let d ← Op.get
  if d.tables.contains name then return ()
  else if d.indexes.contains name then refuse ("there is already an index named " ++ name)
  else Op.set (d.setTable name fresh)

/-- Drops a table with its indexes. -/
def dropTable (name : String) : Op Database Unit := do
  let d ← Op.get
  if d.tables.contains name then
    Op.set ⟨d.tables.erase name, d.indexes.filterValues (fun t => t != name)⟩
  else refuse ("no such table: " ++ name)

/-- Makes a table of another shape under a free name. -/
def makeTable (name : String) : Op Database Unit := do
  let d ← Op.get
  if d.isTaken name || reserved.toList.isPrefixOf (name.toList.map Char.toLower) then
    refuse ("cannot create table " ++ name)
  else Op.set (d.setTable name .foreign)

/-- Makes an index of the version table under a free name. -/
def makeIndex (name : String) : Op Database Unit := do
  match ← table versionTable with
  | .versions _ =>
    let d ← Op.get
    if d.isTaken name || reserved.toList.isPrefixOf (name.toList.map Char.toLower) then
      refuse ("cannot create index " ++ name)
    else Op.set { d with indexes := d.indexes.insert name versionTable }
  | _ => refuse "no such column: version"

end Database

end Audience
