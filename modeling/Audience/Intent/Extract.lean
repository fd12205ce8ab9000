import Audience.Intent.Resource
import Audience.Keyword
import Audience.Web.SearchEngine

/-! # Signals from visits

A visit to a funnel site is a signal. Otherwise the search query of a result page is compared with
the keywords: the first entry that matches gives the segments, and the greatest matching weight is
the weight.

* **`IntentResource.signalOf? r now address`** — the signal of a visit. -/

namespace Audience

/-- The weight of a query that no funnel keywords match. -/
def plainWeight : UInt16 := 1

namespace IntentResource

/-- The greatest weight of the funnel keywords that match the words of a query. -/
def weightOf (r : IntentResource) (words : List String) : UInt16 :=
  (((r.funnelKeywords.filter (fun k => matchesWords words k.keywords)).map
    FunnelKeywords.weight).max?).getD plainWeight

/-- The signal of a search query. -/
def querySignal? (r : IntentResource) (now : Instant) (query : String) : Option Signal :=
  let words := wordsOf (normalize query)
  (r.segmentKeywords.find? (fun k => matchesWords words k.keywords)).map (fun k =>
    ⟨now, k.segments, r.weightOf words⟩)

/-- The signal of a visit to a web address. -/
def urlSignal? (r : IntentResource) (now : Instant) (url : Url) : Option Signal :=
  match url.host.bind r.siteFor? with
  | some site => some ⟨now, site.segments, site.weight⟩
  | none => (searchQuery? url).bind (r.querySignal? now)

/-- Whether visits to an address can be signals. -/
def isWebPage (url : Url) : Bool := url.scheme == "http" || url.scheme == "https"

/-- The signal of a visit. -/
def signalOf? (r : IntentResource) (now : Instant) (address : String) : Option Signal := do
  let url ← Url.parse? address
  if isWebPage url then r.urlSignal? now url else none

end IntentResource

end Audience
