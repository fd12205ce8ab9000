import Audience.Error
import Audience.Intent.History
import Audience.Json.Parser
import Audience.Slot

/-! # The resource of purchase intent

The resource names the sites whose visits are signals, the keywords that map a search query to
segments, and the keywords that say how much a query weighs.

* **`IntentResource.load json`** — reads and checks a resource.
* **`IntentResource.siteFor? r host`** — the first site that serves a host. -/

namespace Audience

/-- A site whose visits are signals on their own. -/
structure FunnelSite where
  host : String
  segments : List Segment
  weight : UInt16
  deriving DecidableEq, Repr

/-- Keywords that map a search query to segments. -/
structure SegmentKeywords where
  keywords : String
  segments : List Segment
  deriving DecidableEq, Repr

/-- Keywords that say how much a search query weighs. -/
structure FunnelKeywords where
  keywords : String
  weight : UInt16
  deriving DecidableEq, Repr

/-- Everything that turns visits into signals. -/
structure IntentResource where
  version : Nat
  sites : List FunnelSite
  segmentKeywords : List SegmentKeywords
  funnelKeywords : List FunnelKeywords
  deriving DecidableEq, Repr

instance : Versioned IntentResource := ⟨IntentResource.version⟩

namespace IntentResource

/-- The name of the resource. -/
def name : String := "purchase_intent"

/-! ## Reading -/

/-- Reads a site. -/
def site? (v : Json) : Option FunnelSite := do
  match ← v.record? ["url_netloc", "segments", "weight"] with
  | [some host, some segments, some weight] =>
    return ⟨← host.text?, ← segments.list? Json.text?, ← History.weight? weight⟩
  | _ => none

/-- Reads keywords with segments. -/
def segmentKeywords? (v : Json) : Option SegmentKeywords := do
  match ← v.record? ["keywords", "segments"] with
  | [some keywords, some segments] => return ⟨← keywords.text?, ← segments.list? Json.text?⟩
  | _ => none

/-- Reads keywords with a weight. -/
def funnelKeywords? (v : Json) : Option FunnelKeywords := do
  match ← v.record? ["keywords", "weight"] with
  | [some keywords, some weight] => return ⟨← keywords.text?, ← History.weight? weight⟩
  | _ => none

/-- A list that is empty when it is missing. -/
def listOrEmpty? {α : Type} (f : Json → Option α) : Option Json → Option (List α)
  | some v => v.list? f
  | none => some []

/-- Reads a resource; its lists may be missing. -/
def ofJson? (v : Json) : Option IntentResource := do
  match ← v.record? ["version", "sites", "segment_keywords", "funnel_keywords"] with
  | [some version, sites, segmentKeywords, funnelKeywords] =>
    return ⟨← version.nat? versionLimit, ← listOrEmpty? site? sites,
      ← listOrEmpty? segmentKeywords? segmentKeywords,
      ← listOrEmpty? funnelKeywords? funnelKeywords⟩
  | _ => none

/-- Whether there are segments and all of them are usable. -/
def areUsable (segments : List Segment) : Bool := !segments.isEmpty && segments.all Segment.isUsable

/-- Whether every site has a host, and every site and keyword entry has usable segments. -/
def isValid (r : IntentResource) : Bool :=
  r.sites.all (fun s => !allBlank s.host && areUsable s.segments)
    && r.segmentKeywords.all (fun k => areUsable k.segments)

/-- Reads and checks a resource. -/
def load (json : String) : Except Error IntentResource :=
  match (Json.parse? json).bind ofJson? with
  | none => .error (.resource (.undecodable name))
  | some r =>
    if r.isValid then .ok r
    else .error (.resource (.malformed name
      "every site and keyword entry needs a host and non-empty segments"))

/-! ## Sites -/

/-- A host without `www.` at its start. -/
def bareHost (host : String) : List Char :=
  match host.toList with
  | 'w' :: 'w' :: 'w' :: '.' :: rest => rest
  | cs => cs

/-- Whether a site serves a host: they are the same, or the host is a subdomain. -/
def FunnelSite.serves (s : FunnelSite) (host : String) : Bool :=
  bareHost host == bareHost s.host || ('.' :: bareHost s.host).isSuffixOf (bareHost host)

/-- The first site that serves a host. -/
def siteFor? (r : IntentResource) (host : String) : Option FunnelSite :=
  r.sites.find? (fun s => FunnelSite.serves s host)

end IntentResource

end Audience
