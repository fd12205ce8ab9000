import Audience.Config.Basic
import Audience.Profile
import Audience.Store.Backing

/-! # The models together

The four models work on one store. A profile gathers what each of them contributes: a model that is
switched off contributes nothing, and one that fails contributes nothing and is reported.

* **`Models ρ κ σ`** — the models with classifiers `ρ` and embedders `κ` over a store `σ`.
* **`Models.onIntent`**, **`Models.onPage`**, **`Models.onEmbedding`**, **`Models.onBandit`** — an
  operation of one model, run among the others.
* **`Models.build`** — the profile of a moment. -/

namespace Audience

/-- The four models over one store. -/
structure Models (ρ κ σ : Type) where
  intent : IntentModel
  page : PageModel ρ
  embedding : EmbeddingModel κ
  bandit : BanditModel
  store : σ

/-- What a model contributes: nothing when it is switched off or fails. -/
def contribution {σ α : Type} (model : String) (enabled : Bool) (x : Op σ (List α)) :
    Op σ (List α) := do
  if enabled then
    match ← Op.attempt x with
    | .ok items => return items
    | .error _ =>
      Op.logFor model .warn "contribution failed, using empty list"
      return []
  else return []

/-- The name that the model of purchase intent is reported with. -/
def intentName : String := "purchase_intent"

/-- The name that the bandit model is reported with. -/
def banditName : String := "bandit"

/-- The name that the model of page interests is reported with. -/
def pageName : String := "text_classification"

/-- The name that the model of embeddings is reported with. -/
def embeddingName : String := "text_embedding"

namespace Models

variable {ρ κ σ α : Type}

/-- New models over a store. -/
def new (config : Config) (ranking : Ranking) (store : σ) : Models ρ κ σ :=
  ⟨.new config.intent, .new config.page ranking, .new config.embedding, .new config.bandit, store⟩

/-! ## Operations of one model -/

/-- An operation of the model of purchase intent. -/
def onIntent (x : Op (Running IntentModel σ) α) : Op (Models ρ κ σ) α :=
  Op.zoom (fun m => ⟨m.intent, m.store⟩)
    (fun r m => { m with intent := r.model, store := r.store }) x

/-- An operation of the model of page interests. -/
def onPage (x : Op (Running (PageModel ρ) σ) α) : Op (Models ρ κ σ) α :=
  Op.zoom (fun m => ⟨m.page, m.store⟩) (fun r m => { m with page := r.model, store := r.store }) x

/-- An operation of the model of embeddings. -/
def onEmbedding (x : Op (Running (EmbeddingModel κ) σ) α) : Op (Models ρ κ σ) α :=
  Op.zoom (fun m => ⟨m.embedding, m.store⟩)
    (fun r m => { m with embedding := r.model, store := r.store }) x

/-- An operation of the bandit model. -/
def onBandit (x : Op (Running BanditModel σ) α) : Op (Models ρ κ σ) α :=
  Op.zoom (fun m => ⟨m.bandit, m.store⟩)
    (fun r m => { m with bandit := r.model, store := r.store }) x

/-- An operation on the store. -/
def onStore (x : Models ρ κ σ → Op σ α) : Op (Models ρ κ σ) α := fun m =>
  Op.zoom Models.store (fun s m => { m with store := s }) (x m) m

/-- An operation that changes a model and not the store. -/
def alone {μ : Type} (x : Op μ α) : Op (Running μ σ) α :=
  Op.zoom Running.model (fun m r => { r with model := m }) x

/-- Takes all resources out. -/
def resetResources (m : Models ρ κ σ) : Models ρ κ σ :=
  { m with intent := m.intent.reset, page := m.page.reset, embedding := m.embedding.reset }

/-! ## Profiles -/

/-- The profile of a moment, with random choices from a generator. -/
def build (m : Models ρ κ σ) (backing : Backing σ) (now : Instant) (g : Rng) : Op σ Profile := do
  let intent ← contribution intentName m.intent.config.enabled
    (IntentModel.predict backing.history m.intent.config now)
  let latent ← contribution banditName m.bandit.config.enabled
    (BanditModel.select backing.arms m.bandit m.bandit.config.epsilon g)
  let interest ← contribution pageName m.page.config.enabled
    (PageModel.top backing.window m.page.ranking m.page.config)
  let events ← contribution embeddingName m.embedding.config.enabled backing.events.all
  Op.log .debug "user model built"
  return ⟨intent, latent, interest, events⟩

end Models

end Audience
