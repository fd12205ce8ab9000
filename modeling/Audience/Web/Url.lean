import Audience.Web.Host
import Audience.Web.Path

/-! # Addresses

An address is read as the living URL standard says, without a base address. The web schemes and
`file` are special: a backslash counts as a slash, and their hosts are domain names or IP addresses.
Only the parts that the rest of the library uses are kept.

* **`Url.parse? text`** — the address of a text.
* **`Url.host`**, **`Url.path`**, **`Url.query`** — its parts. -/

namespace Audience

/-- An address. -/
structure Url where
  /-- The scheme in lowercase. -/
  scheme : String
  /-- The host in its normal form; not every address has one. -/
  host : Option String
  /-- The path with its dots resolved and its characters as they were written. -/
  path : String
  /-- The characters between the question mark and the number sign. -/
  query : Option (List Char)
  deriving DecidableEq, Repr

namespace Url

/-- The kinds of schemes. -/
inductive Kind where
  | web
  | file
  | generic
  deriving DecidableEq, Repr

/-- The schemes of web addresses. -/
def webSchemes : List String := ["http", "https", "ws", "wss", "ftp"]

/-- The kind of a scheme. -/
def Kind.ofScheme (scheme : String) : Kind :=
  if webSchemes.contains scheme then .web else if scheme = "file" then .file else .generic

/-- Whether a scheme is special. -/
def Kind.isSpecial : Kind → Bool
  | .generic => false
  | _ => true

/-- Whether a character divides segments. -/
def Kind.isSlash (k : Kind) (c : Char) : Bool := c == '/' || (k.isSpecial && c == '\\')

/-- Whether a character ends the part of an address with the host. -/
def Kind.endsAuthority (k : Kind) (c : Char) : Bool := k.isSlash c || c == '?' || c == '#'

/-! ## The characters of an address -/

/-- Controls and the blank, which are dropped at both ends. -/
def isOuter (c : Char) : Bool := decide (c.toNat ≤ 0x20)

/-- Tabs and line ends, which are dropped everywhere. -/
def isDropped (c : Char) : Bool := c == '\t' || c == '\n' || c == '\r'

/-- The characters that count. -/
def clean (cs : List Char) : List Char :=
  (((cs.dropWhile isOuter).reverse.dropWhile isOuter).reverse).filter (fun c => !isDropped c)

/-- Whether a character may stand in a scheme. -/
def isSchemeChar (c : Char) : Bool := c.isAlphanum || c == '+' || c == '-' || c == '.'

/-- The scheme in lowercase, and the characters after its colon. -/
def scheme? (cs : List Char) : Option (String × List Char) :=
  match cs.takeWhile isSchemeChar, cs.dropWhile isSchemeChar with
  | c :: name, ':' :: rest =>
    if c.isAlpha then some (String.ofList ((c :: name).map Char.toLower), rest) else none
  | _, _ => none

/-! ## Path and query -/

/-- Whether a character ends the path. -/
def endsPath (c : Char) : Bool := c == '?' || c == '#'

/-- The query of the characters after the path. -/
def queryOf : List Char → Option (List Char)
  | '?' :: rest => some (rest.takeWhile (· != '#'))
  | _ => none

/-- The segments of the characters after the first slash. -/
def segments (k : Kind) (cs : List Char) : List (List Char) :=
  Path.resolve ((cs.takeWhile (fun c => !endsPath c)).splitOnP k.isSlash)

/-- The address with these parts, and what follows them. -/
def assemble (scheme : String) (host : Option (List Char)) (path rest : List Char) : Url :=
  ⟨scheme, host.map String.ofList, String.ofList path,
    queryOf (rest.dropWhile (fun c => !endsPath c))⟩

/-- The characters after a slash at the start, if there is one. -/
def afterSlash (k : Kind) : List Char → List Char
  | [] => []
  | c :: rest => if k.isSlash c then rest else c :: rest

/-- The path of the characters after the host. In a special scheme it is never empty. -/
def pathOf (k : Kind) (cs : List Char) : List Char :=
  if k.isSpecial then Path.render (segments k (afterSlash k cs))
  else
    match cs with
    | [] => []
    | c :: _ => if endsPath c then [] else Path.render (segments k (afterSlash k cs))

/-! ## Authority -/

/-- The user and password before the last at sign, if there is one, and the rest. -/
def splitUser (cs : List Char) : Option (List Char) × List Char :=
  if cs.contains '@' then
    let tail := (cs.reverse.takeWhile (· != '@')).reverse
    (some (cs.take (cs.length - tail.length - 1)), tail)
  else (none, cs)

/-- The characters up to the first colon outside of brackets, and the rest. -/
def splitPort (inside : Bool) : List Char → List Char × List Char
  | [] => ([], [])
  | c :: rest =>
    if c = ':' ∧ inside = false then ([], c :: rest)
    else
      let r := splitPort (if c = '[' then true else if c = ']' then false else inside) rest
      (c :: r.1, r.2)

/-- The characters after a port number, unless it is too great. Only a backslash may follow it. -/
def afterPort? (cs : List Char) : Option (List Char) :=
  let digits := cs.takeWhile Char.isDigit
  let rest := cs.dropWhile Char.isDigit
  if 65535 < digitsValue digits then none
  else if rest.isEmpty ∨ rest.head? = some '\\' then some rest
  else none

/-- Whether user and password say anything. -/
def hasCredentials : Option (List Char) → Bool
  | none => false
  | some user => !(user.isEmpty || user == [':'])

/-- The address with an authority: the slashes before it have been read. -/
def withAuthority? (k : Kind) (scheme : String) (cs : List Char) : Option Url := do
  let authority := cs.takeWhile (fun c => !k.endsAuthority c)
  let after := cs.dropWhile (fun c => !k.endsAuthority c)
  let (user, hostPort) := splitUser authority
  if user = some [] ∧ hostPort.isEmpty ∧ !after.isEmpty then none
  let (name, port) := splitPort false hostPort
  if name.isEmpty ∧ (k.isSpecial ∨ !port.isEmpty) then none
  let host ← if k.isSpecial then Host.web? name else Host.generic? name
  if host.isEmpty ∧ hasCredentials user then none
  let rest ← if port.isEmpty then some [] else afterPort? (port.drop 1)
  let after := rest ++ after
  return assemble scheme (if host.isEmpty then none else some host) (pathOf k after) after

/-! ## Files -/

/-- Empty segments at the start of a path are dropped, but for a last one. -/
def dropEmpty : List (List Char) → List (List Char)
  | [] :: s :: rest => dropEmpty (s :: rest)
  | ss => ss

/-- The address of a file without a host. -/
def localFile (scheme : String) (cs : List Char) : Url :=
  assemble scheme none (Path.render (dropEmpty (segments .file (afterSlash .file cs)))) cs

/-- The address of a file with a host: the slashes before it have been read. There is no host in
front of the letter of a drive, and the local host is none. -/
def withFileHost? (scheme : String) (cs : List Char) : Option Url :=
  let name := cs.takeWhile (fun c => !Kind.endsAuthority .file c)
  let after := cs.dropWhile (fun c => !Kind.endsAuthority .file c)
  if Path.isDrive name ∨ name.isEmpty then some (localFile scheme cs)
  else
    (Host.web? name).map (fun host =>
      let path := segments .file (afterSlash .file after)
      let atDrive := (path.head?.map Path.isDrive).getD false
      assemble scheme (if host = "localhost".toList ∨ atDrive then none else some host)
        (Path.render (dropEmpty path)) after)

/-- The address of a file. -/
def file? (scheme : String) (cs : List Char) : Option Url :=
  match cs with
  | a :: b :: rest =>
    if Kind.isSlash .file a ∧ Kind.isSlash .file b then withFileHost? scheme rest
    else some (localFile scheme cs)
  | cs => some (localFile scheme cs)

/-! ## Reading -/

/-- The address of any other scheme. Without two slashes it has no host. -/
def generic? (scheme : String) (cs : List Char) : Option Url :=
  match cs with
  | '/' :: '/' :: rest => withAuthority? .generic scheme rest
  | '/' :: rest =>
    some (assemble scheme none (Path.render (segments .generic rest)) rest)
  | cs => some (assemble scheme none (cs.takeWhile (fun c => !endsPath c)) cs)

/-- The address of a text. -/
def parse? (text : String) : Option Url := do
  let (scheme, rest) ← scheme? (clean text.toList)
  match Kind.ofScheme scheme with
  | .web => withAuthority? .web scheme (rest.dropWhile (Kind.isSlash .web))
  | .file => file? scheme rest
  | .generic => generic? scheme rest

end Url

end Audience
