import Audience.Text.Blank
import Audience.Web.Query
import Audience.Web.Url

/-! # Search engines

A result page of a search engine is recognised by its host and the start of its path; one parameter
of its query holds what was searched for.

* **`SearchEngine.of? url`** — the search engine that serves a result page.
* **`searchQuery? url`** — what was searched for. -/

namespace Audience

/-- What a label of a host has to be. -/
inductive LabelPattern where
  | name (label : String)
  /-- Lowercase letters, no fewer and no more than these. -/
  | letters (least most : Nat)

/-- Whether a label is as a pattern says. -/
def LabelPattern.accepts : LabelPattern → List Char → Bool
  | .name label, cs => cs == label.toList
  | .letters least most, cs =>
    decide (least ≤ cs.length ∧ cs.length ≤ most) && cs.all Char.isLower

/-- A search engine. -/
structure SearchEngine where
  /-- The hosts that serve result pages, label by label. -/
  hosts : List (List LabelPattern)
  /-- How the paths of result pages start. -/
  pathStart : String
  /-- The parameter that holds what was searched for. -/
  parameter : String

namespace SearchEngine

/-- A host of fixed labels. -/
def fixed (labels : List String) : List LabelPattern := labels.map .name

/-- A label of a country or of a kind of organisation. -/
def region : LabelPattern := .letters 2 3

/-- The known search engines. -/
def known : List SearchEngine := [
  ⟨[[.name "google", region], [.name "google", region, region],
    [.name "www", .name "google", region], [.name "www", .name "google", region, region]],
    "/search", "q"⟩,
  ⟨[fixed ["bing", "com"], fixed ["www", "bing", "com"], fixed ["cn", "bing", "com"]],
    "/search", "q"⟩,
  ⟨[fixed ["duckduckgo", "com"], fixed ["html", "duckduckgo", "com"],
    fixed ["lite", "duckduckgo", "com"]], "/", "q"⟩,
  ⟨[fixed ["search", "yahoo", "com"], .letters 2 2 :: fixed ["search", "yahoo", "com"]],
    "/search", "p"⟩,
  ⟨[fixed ["search", "brave", "com"]], "/search", "q"⟩,
  ⟨[fixed ["ecosia", "org"], fixed ["www", "ecosia", "org"]], "/search", "q"⟩,
  ⟨[fixed ["startpage", "com"], fixed ["www", "startpage", "com"]], "/", "query"⟩,
  ⟨[fixed ["qwant", "com"], fixed ["www", "qwant", "com"]], "/", "q"⟩,
  ⟨[fixed ["yandex", "ru"], fixed ["yandex", "com"]], "/search", "text"⟩]

/-- Whether labels are as patterns say, one by one. -/
def acceptsAll : List LabelPattern → List (List Char) → Bool
  | [], [] => true
  | p :: ps, l :: ls => p.accepts l && acceptsAll ps ls
  | _, _ => false

/-- Whether a search engine serves result pages at this host and path. -/
def serves (e : SearchEngine) (host path : String) : Bool :=
  let labels := (host.toList.map Char.toLower).splitOn '.'
  e.hosts.any (fun h => acceptsAll h labels) && e.pathStart.toList.isPrefixOf path.toList

/-- The search engine that serves a result page. -/
def of? (url : Url) : Option SearchEngine :=
  url.host.bind (fun host => known.find? (fun e => e.serves host url.path))

end SearchEngine

/-- What was searched for, without blanks at its ends: the first value of the parameter that holds
it, unless nothing is left of it. -/
def searchQuery? (url : Url) : Option String := do
  let engine ← SearchEngine.of? url
  let value ← (queryPairs (url.query.getD [])).lookup engine.parameter
  let text := trim value.toList
  if text.isEmpty then none else some (String.ofList text)

end Audience
