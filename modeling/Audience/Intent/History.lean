import Audience.Dict
import Audience.Intent.Trail
import Audience.Json.Decode
import Audience.Json.Printer
import Audience.Segment
import Audience.Time.Stamp

/-! # The history of purchase intent

The history keeps a trail for every segment that a signal named. It is stored as a JSON object from
segments to lists of time and weight.

* **`History.append h s e cap`** — a history with one more entry for a segment.
* **`History.toJson h`**, **`History.ofJson? v`** — the stored form. Reading sorts every list and
  drops the empty ones. -/

namespace Audience

/-- A signal of purchase intent for some segments. -/
structure Signal where
  time : Instant
  segments : List Segment
  weight : UInt16
  deriving DecidableEq, Repr

/-- What a signal adds to the trail of each of its segments. -/
def Signal.entry (s : Signal) : Entry := ⟨s.time, s.weight⟩

/-- The trails of all segments that signals named. -/
structure History where
  trails : Dict Trail

namespace History

/-- No signals. -/
def empty : History := ⟨.empty⟩

instance : Inhabited History := ⟨empty⟩

/-- A history with one more entry for a segment; of its trail the newest `cap` entries stay. -/
def append (h : History) (s : Segment) (e : Entry) (cap : Nat) : History :=
  ⟨h.trails.insert s (match h.trails.get? s with
    | some t => t.insert e cap
    | none => .single e)⟩

/-- A history with a signal recorded for each of its segments in turn. -/
def record (h : History) (signal : Signal) (cap : Nat) : History :=
  signal.segments.foldl (fun h s => h.append s signal.entry cap) h

/-- The number of segments. -/
def size (h : History) : Nat := h.trails.size

/-- Whether no signal has been recorded. -/
def isEmpty (h : History) : Bool := h.trails.isEmpty

/-! ## The stored form -/

/-- An entry as stored. -/
def entryJson (e : Entry) : Json :=
  .object [("occurred_at", .text e.time.stamp), ("weight", .ofNat e.weight.toNat)]

/-- A history as stored. -/
def toJson (h : History) : Json :=
  .object (h.trails.entries.map (fun t => (t.1, .array (t.2.entries.map entryJson))))

/-- A weight of 16 bits. -/
def weight? (v : Json) : Option UInt16 := (v.nat? 65535).map UInt16.ofNat

/-- A time stamp. -/
def time? (v : Json) : Option Instant := v.text?.bind Stamp.relaxed?

/-- Reads an entry. -/
def entry? (v : Json) : Option Entry := do
  match ← v.record? ["occurred_at", "weight"] with
  | [some time, some weight] => return ⟨← time? time, ← weight? weight⟩
  | _ => none

/-- The history of lists in any order. Empty lists are dropped. -/
def ofLists (lists : Dict (List Entry)) : History := ⟨lists.filterMapValues Trail.ofList?⟩

/-- Reads a history. -/
def ofJson? (v : Json) : Option History := (v.dict? (Json.list? entry?)).map ofLists

end History

end Audience
