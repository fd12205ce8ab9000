import Audience.Json.Decode
import Audience.Toml.Value

/-! # Documents

Settings are read from JSON and from TOML alike. What both have in common is a document: a value
that may be a boolean, a number, a text, a list or a record.

* **`Document δ`** — the readings of values of type `δ`.
* **`Toml`** and **`Json`** are documents. They differ in what counts as a record. -/

namespace Audience

/-- The readings of a value. -/
class Document (δ : Type) where
  bool? : δ → Option Bool
  /-- A natural number up to a limit. -/
  nat? : Nat → δ → Option Nat
  double? : δ → Option Double
  text? : δ → Option String
  items? : δ → Option (List δ)
  /-- The fields of a record in the order of their names; any may be missing. -/
  record? : List String → δ → Option (List (Option δ))

/-- The items of an array. -/
def Json.items? : Json → Option (List Json)
  | .array items => some items
  | _ => none

instance : Document Json where
  bool? := Json.bool?
  nat? limit v := v.nat? limit
  double? := Json.double?
  text? := Json.text?
  items? := Json.items?
  record? names v := v.record? names

namespace Toml

/-- A boolean. -/
def bool? : Toml → Option Bool
  | .bool b => some b
  | _ => none

/-- A natural number up to a limit. -/
def nat? (limit : Nat) : Toml → Option Nat
  | .integer i => if 0 ≤ i ∧ i.toNat ≤ limit then some i.toNat else none
  | _ => none

/-- A number; integers are accepted. -/
def double? : Toml → Option Double
  | .real x => some x
  | .integer i =>
    let x := Double.ofNat i.natAbs
    some (if i < 0 then x.neg else x)
  | _ => none

/-- A text. -/
def text? : Toml → Option String
  | .text s => some s
  | _ => none

/-- The items of an array. -/
def items? : Toml → Option (List Toml)
  | .array items => some items
  | _ => none

/-- The fields of a record. A table gives them by name, an array by position, where what is too much
is passed over; a date gives none. -/
def record? (names : List String) : Toml → Option (List (Option Toml))
  | .table members => some (names.map (fun n => members.lookup n))
  | .array items => some ((List.range names.length).map (fun i => items[i]?))
  | .moment => some (names.map (fun _ => none))
  | _ => none

instance : Document Toml where
  bool? := bool?
  nat? := nat?
  double? := double?
  text? := text?
  items? := items?
  record? := record?

end Toml

end Audience
