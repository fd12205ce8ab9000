import Audience.Dict
import Audience.Json.Parser

/-! # Views of a JSON value

A reader of some type asks a value for what it needs. A view fails when the value is of another
kind, and a reader fails when one of its views does.

* **`Json.bool?`**, **`Json.nat?`**, **`Json.double?`**, **`Json.single?`**, **`Json.text?`** — the
  plain kinds.
* **`Json.list? f`**, **`Json.dict? f`** — lists and maps; of a repeated key the last value counts.
* **`Json.record? names`** — the fields of a record, by name or by position.
* **`Json.value? text`** — the value of a text of no particular type. -/

namespace Audience.Json

/-- A truth value. -/
def bool? : Json → Option Bool
  | .bool b => some b
  | _ => none

/-- A natural number up to `limit`, written as an integer. -/
def nat? (limit : Nat) : Json → Option Nat
  | .number n => n.nat?.filter (fun k => k ≤ limit)
  | _ => none

/-- A double; integers are accepted. -/
def double? : Json → Option Double
  | .number n => n.double?
  | _ => none

/-- A single; integers are accepted. -/
def single? : Json → Option Single
  | .number n => n.single?
  | _ => none

/-- A text. -/
def text? : Json → Option String
  | .text s => some s
  | _ => none

/-- A list of items that are read alike. -/
def list? {α : Type} (f : Json → Option α) : Json → Option (List α)
  | .array items => items.mapM f
  | _ => none

/-- A map whose values are read alike. Every value is read, also one that a later one replaces. -/
def dict? {α : Type} (f : Json → Option α) : Json → Option (Dict α)
  | .object members => (members.mapM (fun m => (f m.2).map (fun v => (m.1, v)))).map Dict.ofList
  | _ => none

/-- The fields of a record in the order of their names. An object gives them by name: a name may be
missing but not repeated, and other members are passed over. An array gives them by position: the
last ones may be missing. -/
def record? (names : List String) : Json → Option (List (Option Json))
  | .object members =>
    if names.any (fun n => 1 < members.countP (fun m => m.1 == n)) then none
    else some (names.map (fun n => members.lookup n))
  | .array items =>
    if items.length ≤ names.length then
      some (items.map some ++ List.replicate (names.length - items.length) none)
    else none
  | _ => none

/-! ## Values of no particular type -/

/-- The widest unsigned integer. -/
def unsignedLimit : Nat := 0xFFFFFFFFFFFFFFFF

/-- The widest magnitude of a negative integer. -/
def negativeLimit : Nat := 0x8000000000000000

/-- The normal form of a number: an integer of up to 64 bits stays one, any other number is a
double. -/
def settleNumber (n : Numeral) : Option Json :=
  match n.int? with
  | some i =>
    if (0 ≤ i ∧ i.natAbs ≤ unsignedLimit) ∨ (i < 0 ∧ i.natAbs ≤ negativeLimit) then
      some (.number (.ofInt i))
    else n.double?.map ofDouble
  | none => n.double?.map ofDouble

mutual

/-- The normal form of a value, with numbers in normal form and the members of each object in
ascending order of their keys, of a repeated key the last one. -/
def settle : Json → Option Json
  | .null => some .null
  | .bool b => some (.bool b)
  | .number n => settleNumber n
  | .text s => some (.text s)
  | .array items => (settleItems items).map .array
  | .object members => (settleMembers members).map (fun ms => .object (Dict.ofList ms).entries)
  | .unreadable => none

/-- The normal forms of the items of an array. -/
def settleItems : List Json → Option (List Json)
  | [] => some []
  | v :: rest => do
    let v ← settle v
    let rest ← settleItems rest
    return v :: rest

/-- The normal forms of the members of an object. -/
def settleMembers : List (String × Json) → Option (List (String × Json))
  | [] => some []
  | (k, v) :: rest => do
    let v ← settle v
    let rest ← settleMembers rest
    return (k, v) :: rest

end

/-- Brackets of a value of no particular type are nested at most this deep. -/
def nestingLimit : Nat := 127

/-- The normal form of the value of a text. -/
def value? (text : String) : Option Json := do
  let tokens ← tokens? text.toList
  if nestingLimit < nesting tokens then none
  else
    let v ← build? tokens
    settle v

end Audience.Json
