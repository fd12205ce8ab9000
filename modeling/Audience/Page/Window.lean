import Audience.Dict
import Audience.Json.Decode
import Audience.Number.Double
import Audience.Segment

/-! # The window of pages

A page is a probability for each of some segments. The window keeps the last few pages, the newest
first, and is stored as a JSON array of objects.

* **`Window.push w p cap`** — a window with one more page, cut to a number of pages.
* **`Window.toJson w`**, **`Window.ofJson? v`** — the stored form. -/

namespace Audience

/-- The probabilities of one page. -/
abbrev Page := Dict Double

/-- The last few pages, newest first. -/
structure Window where
  pages : List Page

namespace Window

/-- No pages. -/
def empty : Window := ⟨[]⟩

instance : Inhabited Window := ⟨empty⟩

/-- A window with one more page in front, of which the newest `cap` stay, and at least one. -/
def push (w : Window) (p : Page) (cap : Nat) : Window := ⟨(p :: w.pages).take (max cap 1)⟩

/-- The number of pages. -/
def size (w : Window) : Nat := w.pages.length

/-- Whether there are no pages. -/
def isEmpty (w : Window) : Bool := w.pages.isEmpty

/-- A page as stored. -/
def pageJson (p : Page) : Json := .object (p.entries.map (fun e => (e.1, .ofDouble e.2)))

/-- A window as stored. -/
def toJson (w : Window) : Json := .array (w.pages.map pageJson)

/-- Reads a window. -/
def ofJson? (v : Json) : Option Window := (v.list? (Json.dict? Json.double?)).map Window.mk

end Window

end Audience
