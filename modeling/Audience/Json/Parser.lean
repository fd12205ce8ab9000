import Audience.Json.Token

/-! # Reading JSON texts

The second pass of reading builds the value from the tokens. It is an automaton with a stack of the
arrays and objects that are open, so the nesting of a text is not limited.

* **`Json.build? tokens`** — the value that a list of tokens spells.
* **`Json.parse? text`** — the value of a text.
* **`Json.nesting tokens`** — how deep the brackets of a text are nested. -/

namespace Audience.Json

/-- An array or an object that is open. -/
inductive Frame where
  /-- An array and its items so far, last first. -/
  | items (before : List Json)
  /-- An object between two members, and its members so far, last first. -/
  | members (before : List (Option String × Json))
  /-- An object within a member: the members before it, last first, and its key. -/
  | member (before : List (Option String × Json)) (key : Option String)

/-- What may come next. -/
inductive BuildPhase where
  /-- A value. -/
  | value
  /-- A closing bracket, or the first item or key. -/
  | opened
  /-- A key. -/
  | key
  /-- The colon after a key. -/
  | colon
  /-- A comma or a closing bracket. -/
  | next
  /-- Nothing: the text is complete. -/
  | done (v : Json)

/-- The open arrays and objects, innermost first, and what may come next. -/
structure Building where
  stack : List Frame
  phase : BuildPhase

/-- The object of these members, last first. An unreadable key makes the object unreadable. -/
def closeObject (before : List (Option String × Json)) : Json :=
  match before.reverse.mapM (fun m => m.1.map (fun k => (k, m.2))) with
  | some members => .object members
  | none => .unreadable

/-- Puts a complete value into the innermost open array or object. -/
def deliver (stack : List Frame) (v : Json) : Building :=
  match stack with
  | .items before :: rest => ⟨.items (v :: before) :: rest, .next⟩
  | .member before key :: rest => ⟨.members ((key, v) :: before) :: rest, .next⟩
  | rest => ⟨rest, .done v⟩

/-- Takes a token where a value has to start. -/
def stepValue (stack : List Frame) : Token → Option Building
  | .null => some (deliver stack .null)
  | .bool b => some (deliver stack (.bool b))
  | .number n => some (deliver stack (.number n))
  | .text (some s) => some (deliver stack (.text s))
  | .text none => some (deliver stack .unreadable)
  | .bracketOpen => some ⟨.items [] :: stack, .opened⟩
  | .braceOpen => some ⟨.members [] :: stack, .opened⟩
  | _ => none

/-- Takes a token. -/
def buildStep (s : Building) (t : Token) : Option Building :=
  match s.phase, s.stack, t with
  | .value, stack, t => stepValue stack t
  | .opened, .items before :: rest, .bracketClose => some (deliver rest (.array before.reverse))
  | .opened, .items before :: rest, t => stepValue (.items before :: rest) t
  | .opened, .members before :: rest, .braceClose => some (deliver rest (closeObject before))
  | .opened, .members before :: rest, .text k => some ⟨.member before k :: rest, .colon⟩
  | .key, .members before :: rest, .text k => some ⟨.member before k :: rest, .colon⟩
  | .colon, stack, .colon => some ⟨stack, .value⟩
  | .next, .items before :: rest, .comma => some ⟨.items before :: rest, .value⟩
  | .next, .items before :: rest, .bracketClose => some (deliver rest (.array before.reverse))
  | .next, .members before :: rest, .comma => some ⟨.members before :: rest, .key⟩
  | .next, .members before :: rest, .braceClose => some (deliver rest (closeObject before))
  | _, _, _ => none

/-- The value of a text that ends here. -/
def Building.finish (s : Building) : Option Json :=
  match s.phase, s.stack with
  | .done v, [] => some v
  | _, _ => none

/-- The value that a list of tokens spells. -/
def build? (tokens : List Token) : Option Json :=
  (tokens.foldlM buildStep ⟨[], .value⟩).bind Building.finish

/-- The value of a text. -/
def parse? (text : String) : Option Json := (tokens? text.toList).bind build?

/-! ## Nesting -/

/-- The depth within the brackets read so far and the greatest depth seen. -/
def nestingStep (s : Nat × Nat) : Token → Nat × Nat
  | .braceOpen | .bracketOpen => (s.1 + 1, max s.2 (s.1 + 1))
  | .braceClose | .bracketClose => (s.1 - 1, s.2)
  | _ => s

/-- How deep the brackets are nested. -/
def nesting (tokens : List Token) : Nat := (tokens.foldl nestingStep (0, 0)).2

end Audience.Json
