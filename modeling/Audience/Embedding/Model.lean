import Audience.Access
import Audience.Embedding.Event
import Audience.Embedding.WordVectors
import Audience.Hash.Digest

/-! # The model of embeddings

The model embeds page texts and keeps the newest events in a store. Without its embedder it ignores
texts.

* **`EmbeddingModel.process`** — records the embedding of a page text.
* **`EmbeddingModel.purge`** — deletes all events but the newest ones. -/

namespace Audience

/-- The settings of the model. -/
structure EmbeddingConfig where
  enabled : Bool
  /-- How many events are kept. -/
  historySize : Nat
  /-- The version of the embedder that the model takes. -/
  resourceVersion : Nat
  /-- The language that events are recorded with. -/
  locale : String
  deriving DecidableEq, Repr

/-- The model of embeddings with embedders of type `ρ`. -/
structure EmbeddingModel (ρ : Type) where
  config : EmbeddingConfig
  embedder : Slot ρ

namespace EmbeddingModel

variable {ρ σ : Type}

/-- A model without its embedder. -/
def new (config : EmbeddingConfig) : EmbeddingModel ρ := ⟨config, .empty WordVectors.name⟩

/-- Installs an embedder, or empties the slot. -/
def install [Versioned ρ] (loaded : Except Error ρ) : Op (EmbeddingModel ρ) Unit := do
  let m ← Op.get
  let (result, slot) := m.embedder.load loaded m.config.resourceVersion
  Op.set { m with embedder := slot }
  Op.ofExcept result
  Op.log .info "text embedder loaded"

/-- Installs the word vectors of a payload, or empties the slot. -/
def load (json : String) : Op (EmbeddingModel WordVectors) Unit := install (WordVectors.load json)

/-- Takes the embedder out. -/
def reset (m : EmbeddingModel ρ) : EmbeddingModel ρ := { m with embedder := m.embedder.reset }

/-- Deletes all events but the newest ones, and counts what it deleted. -/
def purge (access : EventAccess σ) (config : EmbeddingConfig) : Op σ Nat := do
  let deleted ← access.keepNewest config.historySize
  if 0 < deleted then Op.log .debug "stale embedding events purged"
  return deleted

/-- The vector of a text, if it has the length that the embedder promises. -/
def vectorOf [Embedder ρ] (e : ρ) (text : String) : Except Failure (List Single) := do
  let v ← Embedder.embed e text
  if v.length = Embedder.dimension e then return v
  else .error (.error (.resource (.dimensionMismatch (Embedder.dimension e) v.length)))

/-- Records the embedding of a page text, and deletes the events that are too many. -/
def process [Embedder ρ] (access : EventAccess σ) (text locale : String) (now : Instant) :
    Op (Running (EmbeddingModel ρ) σ) Unit := do
  if allBlank text then Op.log .debug "blank page text, skipping"
  else
    match (← Op.ofModel EmbeddingModel.embedder).content with
    | none => Op.log .debug "embedder not ready, skipping"
    | some e =>
      let v ← Op.ofResult (vectorOf e text)
      let config ← Op.ofModel EmbeddingModel.config
      Op.onStore (access.insert ⟨now.truncateMicros, locale, digest text, v⟩)
      let _ ← Op.onStore (purge access config)

end EmbeddingModel

end Audience
