import Audience.Json.Token

/-! # TOML strings and keys

A string is basic, with escapes, or literal, without; either may span lines when its quotation marks
are tripled. A key is a path of names divided by dots; a name is bare or a string on one line.

* **`Toml.Reader α`** — reads a value off the front of the characters.
* **`Toml.string`** — a string of any kind.
* **`Toml.keyPath`** — the names of a key. -/

namespace Audience.Toml

/-- Reads a value off the front of the characters, and gives the characters after it. -/
abbrev Reader (α : Type) := List Char → Option (α × List Char)

/-! ## Characters -/

/-- Blanks within a line. -/
def isSpace (c : Char) : Bool := c == ' ' || c == '\t'

/-- The characters after any blanks. -/
def skipSpace (cs : List Char) : List Char := cs.dropWhile isSpace

/-- Characters that may stand in comments and strings: all but controls; the tab may. -/
def isPlain (c : Char) : Bool :=
  c == '\t' || (decide (0x20 ≤ c.toNat) && c.toNat != 0x7F)

/-- The characters after the end of a line, if it ends here. -/
def lineEnd? : List Char → Option (List Char)
  | '\n' :: rest => some rest
  | '\r' :: '\n' :: rest => some rest
  | _ => none

/-- Whether nothing but blanks stands before the end of the line. -/
def endsLine (cs : List Char) : Bool := (lineEnd? (skipSpace cs)).isSome

/-! ## Strings -/

/-- The character that a letter escapes. -/
def escaped? : Char → Option Char
  | 'b' => some '\x08'
  | 't' => some '\t'
  | 'n' => some '\n'
  | 'f' => some '\x0c'
  | 'r' => some '\r'
  | '"' => some '"'
  | '\\' => some '\\'
  | _ => none

/-- The character of hexadecimal digits. Surrogates are no characters. -/
def codePoint? (digits : List Char) : Option Char := do
  let ds ← digits.mapM Json.hexValue?
  let n := ds.foldl (fun n d => n * 16 + d) 0
  if n.isValidChar then some (Char.ofNat n) else none

/-- Puts a character in front of what was read. -/
def push (c : Char) (r : Option (List Char × List Char)) : Option (List Char × List Char) :=
  r.map (fun r => (c :: r.1, r.2))

/-- The characters of a basic string on one line; the quotation mark before it has been read. -/
def basicTail : Reader (List Char)
  | [] => none
  | '"' :: rest => some ([], rest)
  | '\\' :: 'u' :: a :: b :: c :: d :: rest => do
    push (← codePoint? [a, b, c, d]) (basicTail rest)
  | '\\' :: 'U' :: a :: b :: c :: d :: e :: f :: g :: h :: rest => do
    push (← codePoint? [a, b, c, d, e, f, g, h]) (basicTail rest)
  | '\\' :: c :: rest => do push (← escaped? c) (basicTail rest)
  | c :: rest => if c != '\\' && isPlain c then push c (basicTail rest) else none

/-- The characters of a literal string on one line; the apostrophe before it has been read. -/
def literalTail : Reader (List Char)
  | [] => none
  | c :: rest =>
    if c = '\x27' then some ([], rest)
    else if isPlain c then push c (literalTail rest)
    else none

/-- The end of a string over several lines, after three marks: up to two more of them are part of
it. -/
def closing (mark : Char) : List Char → List Char × List Char
  | a :: b :: rest =>
    if a = mark then if b = mark then ([a, b], rest) else ([a], b :: rest)
    else ([], a :: b :: rest)
  | [a] => if a = mark then ([a], []) else ([], [a])
  | [] => ([], [])

/-- The characters of a basic string over several lines. A backslash at the end of a line skips the
blanks and line ends after it. -/
def longBasicTail (skipping : Bool) : Reader (List Char)
  | [] => none
  | '"' :: '"' :: '"' :: rest => some (closing '"' rest)
  | '\r' :: '\n' :: rest =>
    if skipping then longBasicTail true rest else push '\n' (longBasicTail false rest)
  | '\\' :: 'u' :: a :: b :: c :: d :: rest => do
    push (← codePoint? [a, b, c, d]) (longBasicTail false rest)
  | '\\' :: 'U' :: a :: b :: c :: d :: e :: f :: g :: h :: rest => do
    push (← codePoint? [a, b, c, d, e, f, g, h]) (longBasicTail false rest)
  | '\\' :: c :: rest =>
    if endsLine (c :: rest) then longBasicTail true (c :: rest)
    else do push (← escaped? c) (longBasicTail false rest)
  | c :: rest =>
    if skipping && (isSpace c || c == '\n') then longBasicTail true rest
    else if c = '\n' then push c (longBasicTail false rest)
    else if c != '\\' && isPlain c then push c (longBasicTail false rest)
    else none

/-- The characters of a literal string over several lines. -/
def longLiteralTail : Reader (List Char)
  | [] => none
  | '\x27' :: '\x27' :: '\x27' :: rest => some (closing '\x27' rest)
  | '\r' :: '\n' :: rest => push '\n' (longLiteralTail rest)
  | c :: rest => if c = '\n' ∨ isPlain c then push c (longLiteralTail rest) else none

/-- The characters after a line end at the start of a string. -/
def afterFirstLineEnd (cs : List Char) : List Char := (lineEnd? cs).getD cs

/-- A string of any kind. -/
def string : Reader String
  | '"' :: '"' :: '"' :: rest => finish (longBasicTail false (afterFirstLineEnd rest))
  | '"' :: rest => finish (basicTail rest)
  | '\x27' :: '\x27' :: '\x27' :: rest => finish (longLiteralTail (afterFirstLineEnd rest))
  | '\x27' :: rest => finish (literalTail rest)
  | _ => none
where
  /-- The text of the characters that were read. -/
  finish (r : Option (List Char × List Char)) : Option (String × List Char) :=
    r.map (fun r => (String.ofList r.1, r.2))

/-! ## Keys -/

/-- Characters of a bare name. -/
def isBare (c : Char) : Bool := c.isAlphanum || c == '-' || c == '_'

/-- A name of a key. -/
def name : Reader String
  | '"' :: rest => string.finish (basicTail rest)
  | '\x27' :: rest => string.finish (literalTail rest)
  | cs =>
    let bare := cs.takeWhile isBare
    if bare.isEmpty then none else some (String.ofList bare, cs.dropWhile isBare)

/-- At most so many names with dots between them, and blanks around each. -/
def names : Nat → Reader (List String)
  | 0, _ => none
  | fuel + 1, cs => do
    let (n, rest) ← name (skipSpace cs)
    match skipSpace rest with
    | '.' :: rest =>
      let (more, rest) ← names fuel rest
      return (n :: more, rest)
    | rest => return ([n], rest)

/-- Keys have fewer names than this, and arrays and tables within a value are nested less deep. -/
def depthLimit : Nat := 80

/-- The names of a key: those before the last one, and the last one. -/
def keyPath : Reader (List String × String) := fun cs => do
  let (ns, rest) ← names (depthLimit - 1) cs
  let last ← ns.getLast?
  return ((ns.dropLast, last), rest)

end Audience.Toml
