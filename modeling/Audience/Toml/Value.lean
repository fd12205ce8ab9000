import Audience.Number.Double

/-! # TOML values

* **`Toml`** — the values of a TOML document. Dates and times are told apart from other values, but
  nothing in the library uses what they say. -/

namespace Audience

/-- A TOML value. -/
inductive Toml where
  | text (s : String)
  | integer (i : Int)
  | real (x : Double)
  | bool (b : Bool)
  /-- A date, a time or both. -/
  | moment
  | array (items : List Toml)
  | table (members : List (String × Toml))
  deriving Inhabited

end Audience
