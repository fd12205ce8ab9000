import Audience.Toml.Value

/-! # Tables under construction

While a document is read, its tables are a tree in which each table knows how it came about: by a
header of its own, on the way to another one, or by a key with dots. A table may be opened again
only in the way that it came about.

* **`Toml.Node`** — a value, a table or an array of tables.
* **`Toml.Node.within`** — changes the table at the end of a path.
* **`Toml.Node.toToml`** — the value of a finished tree. -/

namespace Audience.Toml

/-- A value, a table or an array of tables. -/
inductive Node where
  | value (v : Toml)
  /-- A table: whether it has no header of its own yet, and whether a key with dots made it. -/
  | table (implicit dotted : Bool) (members : List (String × Node))
  /-- The tables of an array, last first. -/
  | tables (items : List (List (String × Node)))

/-- The members of a table. -/
abbrev Members := List (String × Node)

/-- Puts a member in place of the one of the same name, or at the end. -/
def setMember (k : String) (n : Node) : Members → Members
  | [] => [(k, n)]
  | (k', n') :: rest => if k' = k then (k, n) :: rest else (k', n') :: setMember k n rest

namespace Node

/-- Changes the members of the table at the end of a path, given whether a key with dots made it.
Missing tables are made on the way. The path may go through the last table of an array, but a path
of a key with dots never through a table that has a header. -/
def within (dotted : Bool) (change : Bool → Members → Option Members) :
    List String → Bool → Members → Option Members
  | [], madeByDots, members => change madeByDots members
  | k :: path, _, members =>
    match members.lookup k with
    | none =>
      (within dotted change path dotted []).map (fun child =>
        setMember k (.table true dotted child) members)
    | some (.value _) => none
    | some (.table implicit madeByDots child) =>
      if dotted && !implicit then none
      else
        (within dotted change path madeByDots child).map (fun child =>
          setMember k (.table implicit madeByDots child) members)
    | some (.tables []) => none
    | some (.tables (item :: before)) =>
      (within dotted change path false item).map (fun item =>
        setMember k (.tables (item :: before)) members)

/-- Adds a value under a key with dots. The names before the last one lead to tables that only such
keys have made. -/
def addValue (path : List String) (k : String) (v : Toml) (members : Members) : Option Members :=
  within true (fun madeByDots ms =>
    if madeByDots == path.isEmpty then none
    else if (ms.lookup k).isSome then none
    else some (ms ++ [(k, .value v)])) path false members

mutual

/-- The value of a finished node. -/
def toToml : Node → Toml
  | .value v => v
  | .table _ _ members => .table (membersToToml members)
  | .tables items => .array (itemsToToml items).reverse

/-- The values of the members of a table. -/
def membersToToml : List (String × Node) → List (String × Toml)
  | [] => []
  | (k, n) :: rest => (k, toToml n) :: membersToToml rest

/-- The values of the tables of an array. -/
def itemsToToml : List (List (String × Node)) → List Toml
  | [] => []
  | members :: rest => .table (membersToToml members) :: itemsToToml rest

end

end Node

end Audience.Toml
