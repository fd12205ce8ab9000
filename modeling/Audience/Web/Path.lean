/-! # Paths

The path of an address is a list of segments. Segments of one or two dots are resolved while it is
read: one dot stays in place, two dots go up. A dot may be percent-encoded.

* **`Path.resolve segments`** — the segments without dots.
* **`Path.render segments`** — the text of a path. -/

namespace Audience.Path

/-- The number of dots of a segment that consists of dots only. -/
def dotCount? : List Char → Option Nat
  | [] => some 0
  | '.' :: rest => (dotCount? rest).map (· + 1)
  | '%' :: '2' :: 'e' :: rest => (dotCount? rest).map (· + 1)
  | '%' :: '2' :: 'E' :: rest => (dotCount? rest).map (· + 1)
  | _ => none

/-- Whether a segment is the letter of a drive, with its colon or bar. -/
def isDrive : List Char → Bool
  | [a, b] => a.isAlpha && (b == ':' || b == '|')
  | _ => false

/-- Goes up from the segments kept so far, last first. The letter of a drive is never left. -/
def up : List (List Char) → List (List Char)
  | [] => []
  | s :: rest => if isDrive s then s :: rest else rest

/-- Takes a segment that a slash follows. -/
def enter (kept : List (List Char)) (segment : List Char) : List (List Char) :=
  match dotCount? segment with
  | some 1 => kept
  | some 2 => up kept
  | _ => segment :: kept

/-- Takes the last segment. Dots leave an empty segment behind. -/
def finish (kept : List (List Char)) (segment : List Char) : List (List Char) :=
  match dotCount? segment with
  | some 1 => [] :: kept
  | some 2 => [] :: up kept
  | _ => segment :: kept

/-- The segments of a path without dots. -/
def resolve (segments : List (List Char)) : List (List Char) :=
  (finish (segments.dropLast.foldl enter []) (segments.getLast?.getD [])).reverse

/-- The text of a path: a slash before each segment. -/
def render (segments : List (List Char)) : List Char := segments.flatMap (fun s => '/' :: s)

end Audience.Path
