import Audience.Toml.Scalar
import Audience.Toml.Tree

/-! # Reading TOML documents

A document is a sequence of lines: a key with its value, the header of a table, the header of a
table of an array, or nothing. A value may span lines, so the lines are read one after another off
the front of the characters.

* **`Toml.value depth`** — a value in which arrays and tables are nested at most `depth` deep.
* **`Toml.Draft`** — the tables read so far.
* **`Toml.parse? text`** — the table of a document. -/

namespace Audience.Toml

/-! ## Values -/

/-- The characters after a comment, up to the end of its line. A comment holds no controls. -/
def comment? : List Char → Option (List Char)
  | '#' :: rest => some (rest.dropWhile isPlain)
  | _ => none

/-- The characters after blanks, comments and line ends. -/
def skipLines : Nat → List Char → List Char
  | 0, cs => cs
  | fuel + 1, cs =>
    let cs := skipSpace cs
    match lineEnd? ((comment? cs).getD cs) with
    | some rest => skipLines fuel rest
    | none => cs

/-- The items of an array after its opening bracket. The fuel is at least the number of characters
that are left. -/
def items (item : Reader Toml) : Nat → Reader (List Toml)
  | 0, _ => none
  | fuel + 1, cs =>
    match skipLines fuel cs with
    | ']' :: rest => some ([], rest)
    | cs => do
      let (v, rest) ← item cs
      match skipLines fuel rest with
      | ']' :: rest => return ([v], rest)
      | ',' :: rest =>
        let (vs, rest) ← items item fuel rest
        return (v :: vs, rest)
      | _ => none

/-- The keys and values of a table within a line, from the first key on. -/
def pairs (item : Reader Toml) : Nat → Members → Reader Members
  | 0, _, _ => none
  | fuel + 1, members, cs => do
    let ((path, k), rest) ← keyPath cs
    let rest ← Stamp.expect '=' rest
    let (v, rest) ← item (skipSpace rest)
    let members ← Node.addValue path k v members
    match skipSpace rest with
    | '\x7d' :: rest => return (members, rest)
    | ',' :: rest => pairs item fuel members rest
    | _ => none

/-- A table within a line, after its opening brace. -/
def inlineTable (item : Reader Toml) : Reader Toml := fun cs =>
  match skipSpace cs with
  | '\x7d' :: rest => some (.table [], rest)
  | cs =>
    (pairs item (cs.length + 1) [] cs).map (fun r => (.table (Node.membersToToml r.1), r.2))

/-- A value in which arrays and tables are nested at most so deep. -/
def value : Nat → Reader Toml
  | 0, cs => atom cs
  | depth + 1, cs =>
    match cs with
    | '[' :: rest => (items (value depth) (rest.length + 1) rest).map (fun r => (.array r.1, r.2))
    | '\x7b' :: rest => inlineTable (value depth) rest
    | cs => atom cs
where
  /-- A string, a number, a date or a word. -/
  atom : Reader Toml := fun cs =>
    match cs with
    | '"' :: _ => (string cs).map (fun r => (.text r.1, r.2))
    | '\x27' :: _ => (string cs).map (fun r => (.text r.1, r.2))
    | cs => scalar cs

/-! ## Tables -/

/-- The tables read so far, and the open one: the path of its header, whether it belongs to an
array, and its members. -/
structure Draft where
  root : Members
  path : List String
  inArray : Bool
  members : Members

namespace Draft

/-- An empty document, with the root table open. -/
def start : Draft := ⟨[], [], false, []⟩

/-- The names of a path before the last one, and the last one. -/
def splitPath? (path : List String) : Option (List String × String) :=
  path.getLast?.map (fun last => (path.dropLast, last))

/-- Puts the open table where its header says. -/
def close? (d : Draft) : Option Members :=
  match splitPath? d.path with
  | none => some d.members
  | some (before, last) =>
    Node.within false (fun _ ms =>
      if d.inArray then
        match ms.lookup last with
        | none => some (setMember last (.tables [d.members]) ms)
        | some (.tables items) => some (setMember last (.tables (d.members :: items)) ms)
        | _ => none
      else
        match ms.lookup last with
        | none => some (setMember last (.table false false d.members) ms)
        | some (.table true _ _) => some (setMember last (.table false false d.members) ms)
        | _ => none) before false d.root

/-- The members of a table that is only implied so far, if there is one at the end of a path. -/
def implied? (before : List String) (last : String) (root : Members) :
    Option (Members × Members) := do
  let root ← Node.within false (fun _ ms => some ms) before false root
  let found ← find before root
  match found.lookup last with
  | none => return (root, [])
  | some (.table true false members) => return (root, members)
  | _ => none
where
  /-- The members of the table at the end of a path. -/
  find : List String → Members → Option Members
    | [], ms => some ms
    | k :: path, ms =>
      match ms.lookup k with
      | some (.table _ _ child) => find path child
      | some (.tables (item :: _)) => find path item
      | _ => none

/-- Opens the table of a header. A table has one header at most. -/
def openTable? (d : Draft) (before : List String) (last : String) : Option Draft := do
  let root ← d.close?
  let (root, members) ← implied? before last root
  return ⟨root, before ++ [last], false, members⟩

/-- Opens a further table of an array. -/
def openItem? (d : Draft) (before : List String) (last : String) : Option Draft := do
  let root ← d.close?
  let root ← Node.within false (fun _ ms =>
    match ms.lookup last with
    | none => some (setMember last (.tables []) ms)
    | some (.tables _) => some ms
    | _ => none) before false root
  return ⟨root, before ++ [last], true, []⟩

/-- Adds a value to the open table. -/
def add? (d : Draft) (path : List String) (k : String) (v : Toml) : Option Draft :=
  (Node.addValue path k v d.members).map (fun ms => { d with members := ms })

end Draft

/-! ## Lines -/

/-- The characters after the rest of a line, which holds a comment at most. -/
def lineRest? (cs : List Char) : Option (List Char) :=
  let cs := skipSpace cs
  match (comment? cs).getD cs with
  | [] => some []
  | rest => lineEnd? rest

/-- Reads one line. -/
def line (d : Draft) (cs : List Char) : Option (Draft × List Char) :=
  match cs with
  | '[' :: '[' :: rest => do
    let ((before, last), rest) ← keyPath rest
    let rest ← Stamp.expect ']' rest
    let rest ← Stamp.expect ']' rest
    return (← d.openItem? before last, ← lineRest? rest)
  | '[' :: rest => do
    let ((before, last), rest) ← keyPath rest
    let rest ← Stamp.expect ']' rest
    return (← d.openTable? before last, ← lineRest? rest)
  | cs =>
    match lineRest? cs with
    | some rest => some (d, rest)
    | none => do
      let ((path, k), rest) ← keyPath cs
      let rest ← Stamp.expect '=' rest
      let (v, rest) ← value (depthLimit - 1) (skipSpace rest)
      return (← d.add? path k v, ← lineRest? rest)

/-- Reads lines up to the end. -/
def lines : Nat → Draft → List Char → Option Draft
  | 0, _, _ => none
  | fuel + 1, d, cs =>
    match skipSpace cs with
    | [] => some d
    | cs => do
      let (d, rest) ← line d cs
      lines fuel d rest

/-- The characters after a byte order mark. -/
def skipMark : List Char → List Char
  | [] => []
  | c :: rest => if c.toNat = 0xFEFF then rest else c :: rest

/-- The table of a document. -/
def parse? (text : String) : Option Toml := do
  let cs := skipMark text.toList
  let d ← lines (cs.length + 1) .start cs
  let root ← d.close?
  return .table (Node.membersToToml root)

end Audience.Toml
