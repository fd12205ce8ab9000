import Audience.Bandit.Model
import Audience.Config.Document
import Audience.Embedding.Model
import Audience.Intent.Model
import Audience.Page.Model

/-! # Settings

The settings have a section for each part of the library. Every field has a default, so an empty
document is a complete set of settings.

* **`Config`** — the sections, and **`Config.default`**, their defaults.
* **`Config.ofDocument? doc`** — the settings of a document.
* **`Config.objection? c`** — the first value that no model can work with. -/

namespace Audience

/-- Where and how data are stored. -/
structure StorageConfig where
  path : String
  /-- How long to wait for a busy database, in milliseconds. -/
  busyTimeout : Nat
  deriving DecidableEq, Repr

/-- What is logged, and how. -/
structure LogConfig where
  level : String
  json : Bool
  deriving DecidableEq, Repr

/-- All settings. -/
structure Config where
  storage : StorageConfig
  intent : IntentConfig
  page : PageConfig
  embedding : EmbeddingConfig
  bandit : BanditConfig
  log : LogConfig
  deriving DecidableEq, Repr

namespace Config

/-! ## Defaults -/

/-- The segments that are eligible unless settings say otherwise. -/
def eligibleSegments : List Segment := [
  "architecture", "arts & entertainment", "automotive", "business", "careers", "cell phones",
  "drugs", "education", "family & parenting", "fashion", "folklore", "food & drink",
  "health & fitness", "history", "hobbies & interests", "home", "law", "military",
  "personal finance", "pets", "real estate", "science", "sports", "technology & computing",
  "travel", "weather"]

/-- The probability of exploring unless settings say otherwise: one quarter. -/
def epsilon : Double := ⟨0x3FD0000000000000⟩

/-- The settings of an empty document. -/
def default : Config where
  storage := ⟨"adtarget.db", 5000⟩
  intent := ⟨true, 3, 604800, 1, 100, 1⟩
  page := ⟨true, 5, 3, 1⟩
  embedding := ⟨true, 10, 1, "en-US"⟩
  bandit := ⟨true, epsilon, eligibleSegments, 3⟩
  log := ⟨"info", false⟩

instance : Inhabited Config := ⟨default⟩

/-! ## Reading -/

section Reading

variable {δ : Type} [Document δ]

/-- A field, or its default when it is missing. -/
def field? {α : Type} (f : δ → Option α) (fallback : α) : Option δ → Option α
  | none => some fallback
  | some v => f v

/-- A number of 64 bits. -/
def long? : δ → Option Nat := Document.nat? Json.unsignedLimit

/-- A version. -/
def version? : δ → Option Nat := Document.nat? versionLimit

/-- A list of texts. -/
def texts? (v : δ) : Option (List String) := (Document.items? v).bind (List.mapM Document.text?)

/-- Reads the section on storage. -/
def storage? (v : δ) : Option StorageConfig := do
  match ← Document.record? ["db_path", "busy_timeout_ms"] v with
  | [path, busyTimeout] =>
    return ⟨← field? Document.text? default.storage.path path,
      ← field? long? default.storage.busyTimeout busyTimeout⟩
  | _ => none

/-- Reads the section on purchase intent. -/
def intent? (v : δ) : Option IntentConfig := do
  match ← Document.record? ["enabled", "threshold", "time_window_secs", "signal_level",
      "max_history_entries_per_segment", "resource_version"] v with
  | [enabled, threshold, windowSeconds, level, trailCap, resourceVersion] =>
    return ⟨← field? Document.bool? default.intent.enabled enabled,
      ← field? long? default.intent.threshold threshold,
      ← field? long? default.intent.windowSeconds windowSeconds,
      ← field? long? default.intent.level level,
      ← field? long? default.intent.trailCap trailCap,
      ← field? version? default.intent.resourceVersion resourceVersion⟩
  | _ => none

/-- Reads the section on page interests. -/
def page? (v : δ) : Option PageConfig := do
  match ← Document.record?
      ["enabled", "page_probabilities_history_size", "max_segments", "resource_version"] v with
  | [enabled, windowSize, maxSegments, resourceVersion] =>
    return ⟨← field? Document.bool? default.page.enabled enabled,
      ← field? long? default.page.windowSize windowSize,
      ← field? long? default.page.maxSegments maxSegments,
      ← field? version? default.page.resourceVersion resourceVersion⟩
  | _ => none

/-- Reads the section on embeddings. -/
def embedding? (v : δ) : Option EmbeddingConfig := do
  match ← Document.record? ["enabled", "history_size", "resource_version", "locale"] v with
  | [enabled, historySize, resourceVersion, locale] =>
    return ⟨← field? Document.bool? default.embedding.enabled enabled,
      ← field? long? default.embedding.historySize historySize,
      ← field? version? default.embedding.resourceVersion resourceVersion,
      ← field? Document.text? default.embedding.locale locale⟩
  | _ => none

/-- Reads the section on the bandit. -/
def bandit? (v : δ) : Option BanditConfig := do
  match ← Document.record? ["enabled", "epsilon", "eligible_segments", "max_segments"] v with
  | [enabled, epsilon, eligible, maxSegments] =>
    return ⟨← field? Document.bool? default.bandit.enabled enabled,
      ← field? Document.double? default.bandit.epsilon epsilon,
      ← field? texts? default.bandit.eligible eligible,
      ← field? long? default.bandit.maxSegments maxSegments⟩
  | _ => none

/-- Reads the section on logging. -/
def log? (v : δ) : Option LogConfig := do
  match ← Document.record? ["log_level", "json"] v with
  | [level, json] =>
    return ⟨← field? Document.text? default.log.level level,
      ← field? Document.bool? default.log.json json⟩
  | _ => none

/-- The settings of a document. -/
def ofDocument? (v : δ) : Option Config := do
  match ← Document.record? ["storage", "purchase_intent", "text_classification",
      "text_embedding", "bandit", "observability"] v with
  | [storage, intent, page, embedding, bandit, log] =>
    return ⟨← field? storage? default.storage storage, ← field? intent? default.intent intent,
      ← field? page? default.page page, ← field? embedding? default.embedding embedding,
      ← field? bandit? default.bandit bandit, ← field? log? default.log log⟩
  | _ => none

end Reading

/-! ## Checking -/

/-- The complaint about a value. -/
def invalid (field reason : String) : Error := .config (.invalidValue field reason)

/-- The first value that no model can work with. -/
def objection? (c : Config) : Option Error :=
  if !(Double.zero.le c.bandit.epsilon && c.bandit.epsilon.le .one) then
    some (invalid "bandit.epsilon" "must be within [0, 1]")
  else if c.bandit.maxSegments = 0 then
    some (invalid "bandit.max_segments" "must be at least 1")
  else if c.intent.windowSeconds = 0 then
    some (invalid "purchase_intent.time_window_secs" "must be non-zero")
  else if c.intent.trailCap = 0 then
    some (invalid "purchase_intent.max_history_entries_per_segment" "must be at least 1")
  else if c.page.windowSize = 0 then
    some (invalid "text_classification.page_probabilities_history_size" "must be at least 1")
  else if c.page.maxSegments = 0 then
    some (invalid "text_classification.max_segments" "must be at least 1")
  else if c.embedding.historySize = 0 then
    some (invalid "text_embedding.history_size" "must be at least 1")
  else none

/-- The settings if a model can work with all of them. -/
def checked (c : Config) : Except Error Config :=
  match c.objection? with
  | some e => .error e
  | none => .ok c

end Config

end Audience
