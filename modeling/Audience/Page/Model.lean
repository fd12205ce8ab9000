import Audience.Access
import Audience.Page.Classifier
import Audience.Page.Ranking

/-! # The model of page interests

The model classifies page texts, keeps the probabilities of the last few pages in a store and ranks
the segments of that window. Without its classifier it ignores texts.

* **`PageModel.process`** — records the probabilities of a page text.
* **`PageModel.top`** — the strongest segments of the window. -/

namespace Audience

/-- The settings of the model. -/
structure PageConfig where
  enabled : Bool
  /-- How many pages the window keeps. -/
  windowSize : Nat
  /-- How many segments are ranked. -/
  maxSegments : Nat
  /-- The version of the classifier that the model takes. -/
  resourceVersion : Nat
  deriving DecidableEq, Repr

/-- The model of page interests with classifiers of type `ρ`. -/
structure PageModel (ρ : Type) where
  config : PageConfig
  classifier : Slot ρ
  ranking : Ranking
  /-- Whether a crash has poisoned the lock of the window. -/
  poisoned : Bool

namespace PageModel

variable {ρ σ : Type}

/-- A model without its classifier. -/
def new (config : PageConfig) (ranking : Ranking) : PageModel ρ :=
  ⟨config, .empty LinearClassifier.name, ranking, false⟩

/-- Installs a classifier, or empties the slot. -/
def install [Versioned ρ] (loaded : Except Error ρ) : Op (PageModel ρ) Unit := do
  let m ← Op.get
  let (result, slot) := m.classifier.load loaded m.config.resourceVersion
  Op.set { m with classifier := slot }
  Op.ofExcept result
  Op.log .info "text classifier loaded"

/-- Installs the linear classifier of a payload, or empties the slot. -/
def load (json : String) : Op (PageModel LinearClassifier) Unit :=
  install (LinearClassifier.load json)

/-- Takes the classifier out. -/
def reset (m : PageModel ρ) : PageModel ρ := { m with classifier := m.classifier.reset }

/-- The stored window; one that does not decode counts as empty. -/
def window (access : Access σ Window) : Op σ Window :=
  access.load.orFresh .empty "stored page probabilities are malformed, starting empty"

/-- Adds a page to the stored window. -/
def update (access : Access σ Window) (cap : Nat) (p : Page) : Op σ Unit := do
  let w ← window access
  access.save (w.push p cap)

/-- Records the probabilities of a page text. -/
def process [Classifier ρ] (access : Access σ Window) (text : String) :
    Op (Running (PageModel ρ) σ) Unit := do
  if allBlank text then Op.log .debug "blank page text, skipping"
  else
    match (← Op.ofModel PageModel.classifier).content with
    | none => Op.log .debug "classifier not ready, skipping"
    | some c =>
      let page ← Op.ofExcept (Classifier.classify c text)
      let config ← Op.ofModel PageModel.config
      Op.underLock PageModel.poisoned (fun m => { m with poisoned := true })
        (update access config.windowSize page)
      Op.log .debug "page probabilities recorded"

/-- The strongest segments of the stored window. -/
def top (access : Access σ Window) (ranking : Ranking) (config : PageConfig) :
    Op σ (List Segment) := do
  let w ← window access
  Op.log .debug "interest segments ranked"
  return ranking.rank w config.maxSegments

end PageModel

end Audience
