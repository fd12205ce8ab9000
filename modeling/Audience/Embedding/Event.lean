import Audience.Hash.Words
import Audience.Json.Decode
import Audience.Number.Double
import Audience.Op
import Audience.Time.Stamp

/-! # Embedding events

An embedding event records that a page was read: when, in which language, a digest of its text, and
its embedding. Embeddings are stored as bytes, four for each number.

* **`Event`** — an embedding event.
* **`encodeEmbedding v`**, **`decodeEmbedding? bytes`** — the stored form of an embedding.
* **`EventAccess σ`** — how events are kept in a store. -/

namespace Audience

/-- One page that was embedded. -/
structure Event where
  time : Instant
  locale : String
  digest : String
  embedding : List Single
  deriving DecidableEq, Repr

/-! ## Embeddings as bytes -/

/-- The bytes of an embedding. -/
def encodeEmbedding (v : List Single) : List UInt8 := v.flatMap (fun x => wordBytes x.bits)

/-- The embedding of bytes, unless some are left over. -/
def decodeEmbedding? : List UInt8 → Option (List Single)
  | [] => some []
  | a :: b :: c :: d :: rest => (decodeEmbedding? rest).map (fun v => ⟨bytesWord a b c d⟩ :: v)
  | _ => none

/-! ## Events in a store -/

/-- How events are kept in a store. -/
structure EventAccess (σ : Type) where
  insert : Event → Op σ Unit
  /-- All events, newest first. -/
  all : Op σ (List Event)
  /-- Deletes all events but the newest ones, and counts what it deleted. -/
  keepNewest : Nat → Op σ Nat

/-! ## Events as JSON -/

/-- Reads an event. -/
def Event.ofJson? (v : Json) : Option Event := do
  match ← v.record? ["created_at", "locale", "hashed_text_base64", "embedding"] with
  | [some time, some locale, some digest, some embedding] =>
    return ⟨← time.text?.bind Stamp.relaxed?, ← locale.text?, ← digest.text?,
      ← embedding.list? Json.single?⟩
  | _ => none

end Audience
