import Audience.Embedding.Event
import Audience.Segment

/-! # Profiles

A profile is what the models together say about a user at one moment. Its parts may overlap;
combining them is left to whoever asked.

* **`Profile.segments p`** — all segments, part by part.
* **`Profile.ofJson? v`** — reads a profile. -/

namespace Audience

/-- What the models say about a user. -/
structure Profile where
  /-- Segments that the user intends to buy. -/
  intent : List Segment
  /-- Segments that feedback on ads speaks for. -/
  latent : List Segment
  /-- Segments that the user reads about. -/
  interest : List Segment
  /-- The pages that were embedded, newest first. -/
  events : List Event
  deriving DecidableEq, Repr

namespace Profile

/-- All segments: intent, latent interest, then interest. -/
def segments (p : Profile) : List Segment := p.intent ++ p.latent ++ p.interest

/-- Whether a profile says nothing. -/
def isEmpty (p : Profile) : Bool :=
  p.intent.isEmpty && p.latent.isEmpty && p.interest.isEmpty && p.events.isEmpty

/-- Reads a profile. -/
def ofJson? (v : Json) : Option Profile := do
  match ← v.record? ["intent_segments", "latent_interest_segments", "interest_segments",
      "text_embedding_events"] with
  | [some intent, some latent, some interest, some events] =>
    return ⟨← intent.list? Json.text?, ← latent.list? Json.text?, ← interest.list? Json.text?,
      ← events.list? Event.ofJson?⟩
  | _ => none

end Profile

end Audience
