import Audience.Error
import Audience.Json.Parser
import Audience.Page.Window
import Audience.Slot
import Audience.Text.Token

/-! # Classifying page texts

A classifier gives a page text a probability for each of its segments. The linear classifier adds up
the weights of the tokens that it knows and makes probabilities of the sums.

* **`Classifier`** — what a classifier does.
* **`LinearClassifier.load json`** — reads and checks a linear classifier.
* **`LinearClassifier.classify c text`** — the probabilities of a text. -/

namespace Audience

/-- Resources that classify page texts. -/
class Classifier (ρ : Type) where
  classify : ρ → String → Except Error Page

/-- A classifier that is linear in the tokens of a text. -/
structure LinearClassifier where
  version : Nat
  segments : List Segment
  /-- The sums of a text without tokens, one for each segment. -/
  biases : List Double
  /-- What each token adds to the sums. -/
  weights : Dict (List Double)

instance : Versioned LinearClassifier := ⟨LinearClassifier.version⟩

namespace LinearClassifier

/-- The name of the resource. -/
def name : String := "text_classification"

/-! ## Reading -/

/-- Reads a classifier. -/
def ofJson? (v : Json) : Option LinearClassifier := do
  match ← v.record? ["version", "segments", "biases", "weights"] with
  | [some version, some segments, some biases, some weights] =>
    return ⟨← version.nat? versionLimit, ← segments.list? Json.text?, ← biases.list? Json.double?,
      ← weights.dict? (Json.list? Json.double?)⟩
  | _ => none

/-- The lengths of the biases and of the weights of each token. -/
def lengths (c : LinearClassifier) : List Nat :=
  c.biases.length :: c.weights.values.map List.length

/-- What is wrong with a classifier, if anything is: a name that is not usable, or a list that has
not one number for each segment. -/
def objection? (c : LinearClassifier) : Option ResourceError :=
  if c.segments.isEmpty || !c.segments.all Segment.isUsable then
    some (.malformed name "segments must be non-empty names")
  else
    (c.lengths.find? (fun n => n != c.segments.length)).map
      (fun n => .dimensionMismatch c.segments.length n)

/-- Reads and checks a classifier. -/
def load (json : String) : Except Error LinearClassifier :=
  match (Json.parse? json).bind ofJson? with
  | none => .error (.resource (.undecodable name))
  | some c =>
    match c.objection? with
    | some e => .error (.resource e)
    | none => .ok c

/-! ## Classifying -/

/-- The weights of the known tokens, in order. -/
def knownWeights (c : LinearClassifier) (tokens : List String) : List (List Double) :=
  tokens.filterMap c.weights.get?

/-- The biases with the weights of the known tokens added in order. -/
def sums (c : LinearClassifier) (known : List (List Double)) : List Double :=
  known.foldl (List.zipWith Double.add) c.biases

/-- The greatest number; NaNs do not count. -/
def greatest (xs : List Double) : Double := xs.foldl Double.max .minusInfinity

/-- Positive numbers that add up to one and grow with the given ones. -/
def softmax (xs : List Double) : List Double :=
  let top := greatest xs
  let exps := xs.map (fun x => (x.sub top).exp)
  let total := exps.foldl Double.add .zero
  exps.map (fun e => e.div total)

/-- The probabilities of a text with a known token. -/
def classify (c : LinearClassifier) (text : String) : Except Error Page :=
  let known := c.knownWeights (tokenize text)
  if known.isEmpty then .error (.resource (.noKnownTokens name))
  else .ok (Dict.ofList (c.segments.zip (softmax (c.sums known))))

instance : Classifier LinearClassifier := ⟨classify⟩

end LinearClassifier

end Audience
