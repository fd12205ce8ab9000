import Audience.Number.Nearest
import Audience.Time.Stamp
import Audience.Toml.Text
import Audience.Toml.Value

/-! # TOML numbers, dates and words

A number, a date or a word is a run of characters up to a blank, a comma, a bracket or a comment;
only a date may be followed by a blank and a time. The whole run has to be one of them.

* **`Toml.scalar`** — reads such a run. -/

namespace Audience.Toml

/-! ## Numbers -/

/-- The digits of a run of digits, with single underscores between them dropped. -/
def digits? (isDigit : Char → Bool) : List Char → Option (List Char)
  | [] => none
  | [c] => if isDigit c then some [c] else none
  | c :: '_' :: rest =>
    if isDigit c then (digits? isDigit rest).map (fun ds => c :: ds) else none
  | c :: rest => if isDigit c then (digits? isDigit rest).map (fun ds => c :: ds) else none

/-- The digits of a decimal number: none before them are zero. -/
def decimal? (cs : List Char) : Option (List Char) :=
  match cs with
  | ['0'] => some ['0']
  | '0' :: _ => none
  | cs => digits? Char.isDigit cs

/-- An optional sign: whether it is a minus, and the rest. -/
def sign : List Char → Bool × List Char
  | '-' :: rest => (true, rest)
  | '+' :: rest => (false, rest)
  | cs => (false, cs)

/-- Integers have 63 bits and a sign. -/
def integerLimit : Int := 0x8000000000000000

/-- The integer, if it is in range. -/
def bounded (i : Int) : Option Toml :=
  if -integerLimit ≤ i ∧ i < integerLimit then some (.integer i) else none

/-- The integer of digits in a base that a letter names. -/
def inBase? (base : Nat) (cs : List Char) : Option Toml := do
  let ds ← digits? (fun c => ((Json.hexValue? c).map (fun d => decide (d < base))).getD false) cs
  bounded (ds.foldl (fun n c => n * base + (Json.hexValue? c).getD 0) 0 : Nat)

/-- An integer. -/
def integer? : List Char → Option Toml
  | '0' :: 'x' :: rest => inBase? 16 rest
  | '0' :: 'o' :: rest => inBase? 8 rest
  | '0' :: 'b' :: rest => inBase? 2 rest
  | cs => do
    let (negative, rest) := sign cs
    let ds ← decimal? rest
    let n : Int := digitsValue ds
    bounded (if negative then -n else n)

/-- The digits of an exponent after its mark, if there is one. -/
def exponent? : List Char → Option (Option (Bool × List Char))
  | [] => some none
  | _ :: rest =>
    let (negative, ds) := sign rest
    (digits? Char.isDigit ds).map (fun ds => some (negative, ds))

/-- The digits after a point, if there is one. -/
def fraction? : List Char → Option (List Char)
  | [] => some []
  | _ :: rest => digits? Char.isDigit rest

/-- A number with a point or an exponent. Too great a number is none, though a negative one becomes
minus infinity. -/
def real? (cs : List Char) : Option Toml := do
  let (negative, body) := sign cs
  let isMark (c : Char) : Bool := c == 'e' || c == 'E'
  let mantissa := body.takeWhile (fun c => !isMark c)
  let mark := body.dropWhile (fun c => !isMark c)
  let point := mantissa.dropWhile (· != '.')
  if mark.isEmpty ∧ point.isEmpty then none
  let whole ← decimal? (mantissa.takeWhile (· != '.'))
  let x := Numeral.nearest ⟨negative, whole, ← fraction? point, ← exponent? mark⟩
  if x = .infinity then none else some (.real x)

/-- The words for numbers that have no digits. -/
def special? (cs : List Char) : Option Toml :=
  let (negative, word) := sign cs
  if word = ['i', 'n', 'f'] then some (.real (if negative then .minusInfinity else .infinity))
  else if word = ['n', 'a', 'n'] then some (.real (if negative then Double.nan.neg else .nan))
  else none

/-! ## Dates and times -/

/-- A date of fixed width. -/
def date : Reader Unit := fun cs => do
  let (year, cs) ← Stamp.number 4 4 cs
  let cs ← Stamp.expect '-' cs
  let (month, cs) ← Stamp.number 2 2 cs
  let cs ← Stamp.expect '-' cs
  let (day, cs) ← Stamp.number 2 2 cs
  if Civil.isValid ⟨year, month, day⟩ then some ((), cs) else none

/-- A time of fixed width with an optional fraction. -/
def time : Reader Unit := fun cs => do
  let (hour, cs) ← Stamp.number 2 2 cs
  let cs ← Stamp.expect ':' cs
  let (minute, cs) ← Stamp.number 2 2 cs
  let cs ← Stamp.expect ':' cs
  let (second, cs) ← Stamp.number 2 2 cs
  let (_, cs) ← Stamp.fraction cs
  if hour ≤ 23 ∧ minute ≤ 59 ∧ second ≤ 60 then some ((), cs) else none

/-- Whether the characters are an offset from universal time, or none. -/
def isOffset (cs : List Char) : Bool :=
  match cs with
  | [] => true
  | ['Z'] => true
  | ['z'] => true
  | c :: rest =>
    if c = '+' ∨ c = '-' then
      match Stamp.number 2 2 rest with
      | some (hour, ':' :: rest) =>
        match Stamp.number 2 2 rest with
        | some (minute, []) => decide (hour ≤ 23 ∧ minute ≤ 59)
        | _ => false
      | _ => false
    else false

/-- Whether the characters are a date, a time or both. -/
def isMoment (cs : List Char) : Bool :=
  match date cs with
  | some (_, []) => true
  | some (_, rest) =>
    match (Stamp.separator rest).bind time with
    | some (_, offset) => isOffset offset
    | none => false
  | none =>
    match time cs with
    | some (_, []) => true
    | _ => false

/-! ## Runs -/

/-- Characters that end a run. -/
def endsRun (c : Char) : Bool :=
  isSpace c || c == '\n' || c == '\r' || c == ',' || c == ']' || c == '\x7d' || c == '#'

/-- Whether a time follows a blank. -/
def timeFollows : List Char → Bool
  | ' ' :: c :: _ => c.isDigit
  | _ => false

/-- The characters of a run, and those after it. A date takes the time after a blank with it. -/
def run (cs : List Char) : List Char × List Char :=
  let first := cs.takeWhile (fun c => !endsRun c)
  let rest := cs.dropWhile (fun c => !endsRun c)
  if (date first == some ((), [])) && timeFollows rest then
    (first ++ ' ' :: (rest.drop 1).takeWhile (fun c => !endsRun c),
      (rest.drop 1).dropWhile (fun c => !endsRun c))
  else (first, rest)

/-- The value of a run. -/
def valueOfRun? (cs : List Char) : Option Toml :=
  if cs = ['t', 'r', 'u', 'e'] then some (.bool true)
  else if cs = ['f', 'a', 'l', 's', 'e'] then some (.bool false)
  else if isMoment cs then some .moment
  else (special? cs).or ((real? cs).or (integer? cs))

/-- A number, a date or a word. -/
def scalar : Reader Toml := fun cs =>
  let (first, rest) := run cs
  (valueOfRun? first).map (fun v => (v, rest))

end Audience.Toml
