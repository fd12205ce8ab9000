import Audience.Json.Value

/-! # JSON tokens

A JSON text is read in two passes. The first splits it into tokens; it is an automaton that takes
one character at a time.

* **`Json.Token`** — brackets, separators, words, numbers and strings.
* **`Json.tokens? cs`** — the tokens of a text, unless a character fits nowhere. -/

namespace Audience.Json

/-- The pieces of a JSON text. -/
inductive Token where
  | braceOpen
  | braceClose
  | bracketOpen
  | bracketClose
  | colon
  | comma
  | null
  | bool (b : Bool)
  | number (n : Numeral)
  /-- A string; `none` when its escapes do not denote characters. -/
  | text (s : Option String)

/-! ## Strings -/

/-- Where the automaton stands within a string. -/
inductive TextPhase where
  | plain
  | escape
  /-- Within the digits of an escaped code unit. -/
  | unit (left : Nat) (value : Nat)

/-- A string that is being read: its characters so far, last first, unless an escape made it
unreadable, and the first half of a surrogate pair that awaits its second half. -/
structure TextSoFar where
  chars : Option (List Char)
  pending : Option Nat
  phase : TextPhase

namespace TextSoFar

/-- A string of which nothing has been read. -/
def start : TextSoFar := ⟨some [], none, .plain⟩

/-- The string read so far. -/
def content (t : TextSoFar) : Option String :=
  if t.pending.isSome then none else t.chars.map (fun cs => String.ofList cs.reverse)

/-- Adds a character. A half surrogate pair before it makes the string unreadable. -/
def push (t : TextSoFar) (c : Char) : TextSoFar :=
  ⟨if t.pending.isSome then none else t.chars.map (fun cs => c :: cs), none, .plain⟩

/-- Adds an escaped code unit. -/
def pushUnit (t : TextSoFar) (u : Nat) : TextSoFar :=
  match t.pending with
  | some high =>
    if 0xDC00 ≤ u ∧ u ≤ 0xDFFF then
      let code := 0x10000 + (high - 0xD800) * 0x400 + (u - 0xDC00)
      ⟨t.chars.map (fun cs => Char.ofNat code :: cs), none, .plain⟩
    else ⟨none, none, .plain⟩
  | none =>
    if 0xDC00 ≤ u ∧ u ≤ 0xDFFF then ⟨none, none, .plain⟩
    else if 0xD800 ≤ u ∧ u ≤ 0xDBFF then ⟨t.chars, some u, .plain⟩
    else t.push (Char.ofNat u)

end TextSoFar

/-- The character that a letter escapes. -/
def escaped? (c : Char) : Option Char :=
  match c with
  | '"' => some '"'
  | '\\' => some '\\'
  | '/' => some '/'
  | 'b' => some '\x08'
  | 'f' => some '\x0c'
  | 'n' => some '\n'
  | 'r' => some '\r'
  | 't' => some '\t'
  | _ => none

/-- The value of a hexadecimal digit. -/
def hexValue? (c : Char) : Option Nat :=
  if '0' ≤ c ∧ c ≤ '9' then some (c.toNat - 48)
  else if 'a' ≤ c ∧ c ≤ 'f' then some (c.toNat - 87)
  else if 'A' ≤ c ∧ c ≤ 'F' then some (c.toNat - 55)
  else none

/-! ## Numbers -/

/-- Where the automaton stands within a number. -/
inductive NumberPhase where
  /-- After the minus sign. -/
  | sign
  /-- After a leading zero. -/
  | zero
  | whole
  /-- After the point. -/
  | point
  | fraction
  /-- After the mark of the exponent. -/
  | mark
  /-- After the sign of the exponent. -/
  | markSign
  | exponent

/-- A number that is being read, with its digits last first. -/
structure NumberSoFar where
  negative : Bool
  whole : List Char
  fraction : List Char
  exponent : Option (Bool × List Char)
  phase : NumberPhase

namespace NumberSoFar

/-- Whether the number may end here, and the numeral if so. -/
def finish? (n : NumberSoFar) : Option Numeral :=
  match n.phase with
  | .zero | .whole | .fraction | .exponent =>
    some ⟨n.negative, n.whole.reverse, n.fraction.reverse,
      n.exponent.map (fun e => (e.1, e.2.reverse))⟩
  | _ => none

/-- What a further character does to a number. -/
inductive Step where
  | more (n : NumberSoFar)
  | ends
  | wrong

/-- Adds a digit to the exponent. -/
def pushExponent (n : NumberSoFar) (c : Char) : NumberSoFar :=
  { n with
    exponent := some ((n.exponent.map Prod.fst).getD false,
      c :: (n.exponent.map Prod.snd).getD [])
    phase := .exponent }

/-- Takes a character in a number. -/
def step (n : NumberSoFar) (c : Char) : Step :=
  match n.phase with
  | .sign =>
    if c = '0' then .more { n with whole := [c], phase := .zero }
    else if c.isDigit then .more { n with whole := [c], phase := .whole }
    else .wrong
  | .zero =>
    if c.isDigit then .wrong
    else if c = '.' then .more { n with phase := .point }
    else if c = 'e' ∨ c = 'E' then .more { n with phase := .mark }
    else .ends
  | .whole =>
    if c.isDigit then .more { n with whole := c :: n.whole }
    else if c = '.' then .more { n with phase := .point }
    else if c = 'e' ∨ c = 'E' then .more { n with phase := .mark }
    else .ends
  | .point =>
    if c.isDigit then .more { n with fraction := [c], phase := .fraction } else .wrong
  | .fraction =>
    if c.isDigit then .more { n with fraction := c :: n.fraction }
    else if c = 'e' ∨ c = 'E' then .more { n with phase := .mark }
    else .ends
  | .mark =>
    if c.isDigit then .more (n.pushExponent c)
    else if c = '+' ∨ c = '-' then
      .more { n with exponent := some (c = '-', []), phase := .markSign }
    else .wrong
  | .markSign => if c.isDigit then .more (n.pushExponent c) else .wrong
  | .exponent => if c.isDigit then .more (n.pushExponent c) else .ends

end NumberSoFar

/-! ## The automaton -/

/-- Where the automaton stands. -/
inductive LexMode where
  | between
  /-- Within a word: the characters still to come, and its token. -/
  | word (left : List Char) (token : Token)
  | text (t : TextSoFar)
  | number (n : NumberSoFar)

/-- The tokens read so far, last first, and where the automaton stands. -/
structure LexState where
  tokens : List Token
  mode : LexMode

/-- White space between tokens. -/
def isSpace (c : Char) : Bool := c == ' ' || c == '\t' || c == '\n' || c == '\r'

/-- Takes a character between tokens. -/
def stepBetween (tokens : List Token) (c : Char) : Option LexState :=
  if isSpace c then some ⟨tokens, .between⟩
  else match c with
    | '\x7b' => some ⟨.braceOpen :: tokens, .between⟩
    | '\x7d' => some ⟨.braceClose :: tokens, .between⟩
    | '[' => some ⟨.bracketOpen :: tokens, .between⟩
    | ']' => some ⟨.bracketClose :: tokens, .between⟩
    | ':' => some ⟨.colon :: tokens, .between⟩
    | ',' => some ⟨.comma :: tokens, .between⟩
    | '"' => some ⟨tokens, .text .start⟩
    | 'n' => some ⟨tokens, .word ['u', 'l', 'l'] .null⟩
    | 't' => some ⟨tokens, .word ['r', 'u', 'e'] (.bool true)⟩
    | 'f' => some ⟨tokens, .word ['a', 'l', 's', 'e'] (.bool false)⟩
    | '-' => some ⟨tokens, .number ⟨true, [], [], none, .sign⟩⟩
    | '0' => some ⟨tokens, .number ⟨false, ['0'], [], none, .zero⟩⟩
    | c => if c.isDigit then some ⟨tokens, .number ⟨false, [c], [], none, .whole⟩⟩ else none

/-- Takes a character in a string. Control characters have to be escaped. -/
def stepText (tokens : List Token) (t : TextSoFar) (c : Char) : Option LexState :=
  match t.phase with
  | .plain =>
    if c = '"' then some ⟨.text t.content :: tokens, .between⟩
    else if c = '\\' then some ⟨tokens, .text { t with phase := .escape }⟩
    else if c.toNat < 0x20 then none
    else some ⟨tokens, .text (t.push c)⟩
  | .escape =>
    if c = 'u' then some ⟨tokens, .text { t with phase := .unit 4 0 }⟩
    else (escaped? c).map (fun e => ⟨tokens, .text (t.push e)⟩)
  | .unit left value =>
    (hexValue? c).map (fun d =>
      if left ≤ 1 then ⟨tokens, .text (t.pushUnit (value * 16 + d))⟩
      else ⟨tokens, .text { t with phase := .unit (left - 1) (value * 16 + d) }⟩)

/-- Takes a character. -/
def lexStep (s : LexState) (c : Char) : Option LexState :=
  match s.mode with
  | .between => stepBetween s.tokens c
  | .word left token =>
    match left with
    | [] => none
    | [d] => if c = d then some ⟨token :: s.tokens, .between⟩ else none
    | d :: more => if c = d then some ⟨s.tokens, .word more token⟩ else none
  | .text t => stepText s.tokens t c
  | .number n =>
    match n.step c with
    | .more n => some ⟨s.tokens, .number n⟩
    | .ends => n.finish?.bind (fun m => stepBetween (.number m :: s.tokens) c)
    | .wrong => none

/-- The tokens of a text that ends here. -/
def LexState.finish (s : LexState) : Option (List Token) :=
  match s.mode with
  | .between => some s.tokens.reverse
  | .number n => n.finish?.map (fun m => (Token.number m :: s.tokens).reverse)
  | _ => none

/-- The tokens of a text. -/
def tokens? (cs : List Char) : Option (List Token) :=
  (cs.foldlM lexStep ⟨[], .between⟩).bind LexState.finish

end Audience.Json
