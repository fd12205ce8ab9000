import Audience.Number.Real

/-! # JSON values

A JSON value keeps what its text says: numbers as they are written, members in order, repeated keys
included. What a repeated key or a wide number means is for the reader of the value to decide.

A text can be well formed and still denote nothing: a string may escape half of a surrogate pair.
Such a string, and an object with such a key, is the value `unreadable`: it can be passed over but
not used.

* **`Json`** — the values.
* **`Json.ofDouble x`**, **`Json.ofNat n`** — numbers as values. -/

namespace Audience

/-- A JSON value. -/
inductive Json where
  | null
  | bool (b : Bool)
  | number (n : Numeral)
  | text (s : String)
  | array (items : List Json)
  | object (members : List (String × Json))
  /-- A well-formed text that denotes no value. -/
  | unreadable
  deriving Inhabited

namespace Json

/-- A natural number. -/
def ofNat (n : Nat) : Json := .number (.ofNat n)

/-- A number with a point or an exponent; infinities and NaNs have no written form and become
null. -/
def ofDouble (x : Double) : Json :=
  match x.numeral? with
  | some n => .number n
  | none => .null

/-- A list of texts. -/
def ofTexts (ss : List String) : Json := .array (ss.map .text)

end Json

end Audience
