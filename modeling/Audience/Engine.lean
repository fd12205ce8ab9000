import Audience.Config.Load
import Audience.Models

/-! # The engine

The engine runs all models over one store. Signals never fail from the outside: what a model refuses
is ignored, and what goes wrong is reported. Opting out takes the resources out and deletes what the
models have stored.

* **`Engine.start`**, **`Engine.openOn`**, **`Engine.ofConfig`** — an engine on a store.
* **`Engine.visit`**, **`Engine.page`**, **`Engine.feedback`** — signals.
* **`Engine.optOut`** — forgets the user.
* **`Engine.build`** — the profile of a moment. -/

namespace Audience

/-- The kinds of resources. -/
inductive ResourceKind where
  | intent
  | page
  | embedding
  deriving DecidableEq, Repr

/-- All models over the store, with their settings. -/
structure Engine where
  config : Config
  models : Models LinearClassifier WordVectors Store

namespace Engine

variable {α : Type}

/-! ## Opening -/

/-- An engine over a store that is up to date, if the settings are valid. -/
def ofConfig (config : Config) : Op Store Engine := do
  let config ← Op.ofExcept config.checked
  let store ← Op.get
  return ⟨config, .new config .summed store⟩

/-- Brings a store up to date and opens an engine on it. -/
def openOn (config : Config) : Op Store Engine := do
  Store.prepare
  let _ ← Store.schemaVersion
  Op.log .info "targeting engine opened"
  ofConfig config

/-- Opens an engine with the settings of a TOML text or the defaults. -/
def start (toml : Option String) : Op Store Engine := do
  let config ← Op.ofExcept (match toml with
    | some text => Config.ofToml text
    | none => .ok .default)
  openOn config

/-! ## Signals -/

/-- Whether an error only says that a model refused its input. -/
def isRefusal : Error → Bool
  | .invalidInput _ => true
  | .resource _ => true
  | _ => false

/-- Runs an operation of a model and reports an error instead of failing. -/
def reported {τ : Type} (model : String) (x : Op τ α) : Op τ Unit := do
  match ← Op.attempt x with
  | .ok _ => return ()
  | .error e =>
    if isRefusal e then Op.logFor model .debug "input ignored"
    else Op.logFor model .warn "signal processing failed"

/-- An operation of the models. -/
def onModels (x : Op (Models LinearClassifier WordVectors Store) α) : Op Engine α :=
  Op.zoom Engine.models (fun m e => { e with models := m }) x

/-- An operation on the store. -/
def onStore (x : Models LinearClassifier WordVectors Store → Op Store α) : Op Engine α :=
  onModels (Models.onStore x)

/-- Takes a visit to an address. -/
def visit (address : String) (now : Instant) : Op Engine Unit := do
  if (← Op.get).config.intent.enabled then
    onModels (reported intentName
      (Models.onIntent (IntentModel.visit Store.history address now)))

/-- Takes the text of a page. -/
def page (text : String) (now : Instant) : Op Engine Unit := do
  let config := (← Op.get).config
  if config.page.enabled then
    onModels (reported pageName (Models.onPage (PageModel.process Store.window text)))
  if config.embedding.enabled then
    onModels (reported embeddingName
      (Models.onEmbedding (EmbeddingModel.process Store.events text config.embedding.locale now)))

/-- Takes feedback on an ad. -/
def feedback (f : Feedback) : Op Engine Unit := do
  if (← Op.get).config.bandit.enabled then
    onModels (reported banditName (Models.onBandit (BanditModel.process Store.arms f)))

/-! ## Resources -/

/-- Installs the resource of a payload, or empties its slot. -/
def load (kind : ResourceKind) (json : String) : Op Engine Unit :=
  match kind with
  | .intent => onModels (Models.onIntent (Models.alone (IntentModel.load json)))
  | .page => onModels (Models.onPage (Models.alone (PageModel.load json)))
  | .embedding => onModels (Models.onEmbedding (Models.alone (EmbeddingModel.load json)))

/-- Replaces the segments that the bandit chooses from. -/
def setEligible (segments : List Segment) : Op Engine Unit :=
  onModels (Models.onBandit (Models.alone (BanditModel.setEligible segments)))

/-- Takes all resources out. -/
def reset : Op Engine Unit := do
  onModels (Op.modify Models.resetResources)
  Op.log .info "targeting resources reset"

/-- Forgets the user: takes all resources out and deletes what the models have stored. -/
def optOut : Op Engine Unit := do
  reset
  onStore (fun _ => Store.clearAll)
  Op.log .info "targeting state cleared"

/-! ## Profiles -/

/-- The profile of a moment, with random choices from a generator. -/
def build (now : Instant) (g : Rng) : Op Engine Profile :=
  onStore (fun m => m.build Store.backing now g)

end Engine

end Audience
