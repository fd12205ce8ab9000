import Audience.Json.Token
import Audience.Number.Numeral
import Audience.Number.Power

/-! # IPv4 addresses

A host whose last label is a number has to be an IPv4 address. Its numbers may be decimal, octal
with a leading zero or hexadecimal with a leading `0x`, and the last one may stand for all the bytes
that are missing.

* **`Ipv4.endsInNumber host`** — whether a host has to be an address.
* **`Ipv4.parse? host`** — the address as a 32-bit number.
* **`Ipv4.render n`** — an address as four decimal numbers. -/

namespace Audience.Ipv4

/-- The value of digits in a base, unless one of them is not a digit of the base. -/
def inBase? (base : Nat) (digits : List Char) : Option Nat :=
  digits.foldlM (fun n c =>
    (Json.hexValue? c).bind (fun d => if d < base then some (n * base + d) else none)) 0

/-- The value of one number of an address. -/
def number? : List Char → Option Nat
  | [] => none
  | '0' :: 'x' :: digits => inBase? 16 digits
  | '0' :: 'X' :: digits => inBase? 16 digits
  | '0' :: d :: digits => inBase? 8 (d :: digits)
  | digits => inBase? 10 digits

/-- The labels of a host; a dot at the end starts no label. -/
def labels (host : List Char) : List (List Char) :=
  let parts := host.splitOn '.'
  if parts.getLast? = some [] then parts.dropLast else parts

/-- Whether the last label of a host is a number. -/
def endsInNumber (host : List Char) : Bool :=
  match (labels host).getLast? with
  | none => false
  | some last => (!last.isEmpty && last.all Char.isDigit) || (number? last).isSome

/-- The address of one to four numbers, highest first. All but the last are bytes. -/
def assemble? (numbers : List Nat) : Option Nat :=
  let high := numbers.dropLast
  let low := numbers.getLast?.getD 0
  if 4 < numbers.length ∨ numbers.isEmpty then none
  else if high.any (fun n => 255 < n) then none
  else if twoTo (8 * (4 - high.length)) ≤ low then none
  else some (high.foldl (fun n b => n * 256 + b) 0 * twoTo (8 * (4 - high.length)) + low)

/-- The address that a host spells. -/
def parse? (host : List Char) : Option Nat := ((labels host).mapM number?).bind assemble?

/-- An address as four decimal numbers. -/
def render (n : Nat) : List Char :=
  natDigits (n / 16777216) ++ '.' :: natDigits (n / 65536 % 256)
    ++ '.' :: natDigits (n / 256 % 256) ++ '.' :: natDigits (n % 256)

end Audience.Ipv4
