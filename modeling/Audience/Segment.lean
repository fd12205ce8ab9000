import Audience.Text.Blank

/-! # Segments

A segment is a taxonomy key such as `travel` or `travel-hotels`. Two segments are the same when
their texts are; the functions here read the `parent-child` shape of the text and nothing else.

* **`Segment.parts s`** — the components between the hyphens.
* **`Segment.parent s`** — the first component.
* **`Segment.parents ss`** — the parents of a list, each once, in order of first appearance.
* **`Segment.isUsable s`** — whether the text holds anything but blanks. -/

namespace Audience

/-- A taxonomy key that names a targeting category. -/
abbrev Segment := String

namespace Segment

/-- The character between a parent and its child. -/
def separator : Char := '-'

/-- The components of a segment: a flat segment is its only component. -/
def parts (s : Segment) : List String := (s.toList.splitOn separator).map String.ofList

/-- The text before the first separator, or the whole segment. -/
def parent (s : Segment) : Segment := String.ofList (s.toList.takeWhile (fun c => c != separator))

/-- Whether a segment has no child component. -/
def isParent (s : Segment) : Bool := !s.toList.contains separator

/-- Whether a segment has a child component. -/
def hasChild (s : Segment) : Bool := !isParent s

/-- Appends a segment to a list that does not hold it yet. -/
def addNew (seen : List Segment) (s : Segment) : List Segment :=
  if seen.contains s then seen else seen ++ [s]

/-- The parents of a list of segments, each once, in order of first appearance. -/
def parents (ss : List Segment) : List Segment := (ss.map parent).foldl addNew []

/-- Whether a segment is usable as input: it holds something else than blanks. -/
def isUsable (s : Segment) : Bool := !allBlank s

/-- The usable segments of a list, each once, in order of first appearance. -/
def distinctUsable (ss : List Segment) : List Segment := (ss.filter isUsable).foldl addNew []

end Segment

end Audience
