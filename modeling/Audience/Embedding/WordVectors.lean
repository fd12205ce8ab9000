import Audience.Error
import Audience.Json.Decode
import Audience.Json.Parser
import Audience.Op
import Audience.Slot
import Audience.Text.Token

/-! # Word vectors

An embedder gives a page text a vector of fixed length. The word-vector embedder takes the mean of
the vectors of the tokens that it knows. It makes room for the sums first, and is cut off if no list
can be that long.

* **`Embedder`** — what an embedder does.
* **`WordVectors.load json`** — reads and checks word vectors.
* **`WordVectors.embed w text`** — the vector of a text.
* **`WordVectors.embedInRoom w text`** — the same, as far as there is room for it. -/

namespace Audience

/-- Resources that embed page texts. -/
class Embedder (ρ : Type) where
  embed : ρ → String → Except Failure (List Single)
  /-- The length of the vectors. -/
  dimension : ρ → Nat

/-- A vector for each of some tokens. -/
structure WordVectors where
  version : Nat
  dimension : Nat
  vectors : Dict (List Single)

instance : Versioned WordVectors := ⟨WordVectors.version⟩

namespace WordVectors

/-- The name of the resource. -/
def name : String := "text_embedding"

/-! ## Reading -/

/-- Reads word vectors. -/
def ofJson? (v : Json) : Option WordVectors := do
  match ← v.record? ["version", "dimension", "vectors"] with
  | [some version, some dimension, some vectors] =>
    return ⟨← version.nat? versionLimit, ← dimension.nat? Json.unsignedLimit,
      ← vectors.dict? (Json.list? Json.single?)⟩
  | _ => none

/-- What is wrong with word vectors, if anything is: a vector has another length than said. -/
def objection? (w : WordVectors) : Option ResourceError :=
  if w.dimension = 0 then some (.malformed name "dimension must be positive")
  else
    ((w.vectors.values.map List.length).find? (fun n => n != w.dimension)).map
      (fun n => .dimensionMismatch w.dimension n)

/-- Reads and checks word vectors. -/
def load (json : String) : Except Error WordVectors :=
  match (Json.parse? json).bind ofJson? with
  | none => .error (.resource (.undecodable name))
  | some w =>
    match w.objection? with
    | some e => .error (.resource e)
    | none => .ok w

/-! ## Embedding -/

/-- The vectors of the known tokens, in order. -/
def knownVectors (w : WordVectors) (tokens : List String) : List (List Single) :=
  tokens.filterMap w.vectors.get?

/-- The sum of vectors of a given length, in order. -/
def sum (dimension : Nat) (vectors : List (List Single)) : List Single :=
  vectors.foldl (List.zipWith Single.add) (List.replicate dimension .zero)

/-- The number of known tokens; the counter starts again at zero after its last number. -/
def knownCount (w : WordVectors) (text : String) : UInt32 :=
  .ofNat (w.knownVectors (tokenize text)).length

/-- The mean of the vectors of the known tokens of a text. -/
def embed (w : WordVectors) (text : String) : Except Error (List Single) :=
  let count := w.knownCount text
  if count = 0 then .error (.resource (.noKnownTokens name))
  else
    .ok ((sum w.dimension (w.knownVectors (tokenize text))).map
      (fun x => x.div (.ofNat count.toNat)))

/-- No list of singles is longer: its bytes are counted in a signed word. -/
def lengthLimit : Nat := 0x1FFFFFFFFFFFFFFF

/-- The mean, if there can be a list of the sums. That is tried before the text is looked at. -/
def embedInRoom (w : WordVectors) (text : String) : Except Failure (List Single) :=
  if w.dimension ≤ lengthLimit then (w.embed text).mapError .error else .error .crash

instance : Embedder WordVectors := ⟨embedInRoom, WordVectors.dimension⟩

end WordVectors

end Audience
