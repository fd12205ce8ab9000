import Audience.Embedding.Model
import Audience.Intent.Model
import Audience.Page.Model
import Audience.Proofs.Dictionary
import Audience.Proofs.FreshStart

/-! # A slot holds the last delivery or nothing

Each of three models has a slot for its resource. Texts arrive and the slot is emptied from time to
time, in any order. What came before the last step never matters: the slot holds a resource exactly
if the last step brought a text that reads as one, follows its rules and has the version that the
model takes. A model with an empty slot answers its input and does nothing else.

* **`IntentResource.IsSound`**, **`LinearClassifier.IsSound`**, **`WordVectors.IsSound`** — the
  rules of the resources, and **`load_eq_ok_iff`** for each of them: a text is loaded exactly if its
  resource follows them.
* **`ResourceHost μ ρ`** — a model `μ` with a slot for resources `ρ`.
* **`ResourceHost.followsLast`** — what a slot holds after any steps.
* **`slots_hold_last_delivery`** — all three models, and what they do while their slots are
  empty. -/

namespace Audience

/-! ## Rules of the resources -/

/-- There are segments, and all of them are usable. -/
def Segment.AreUsable (segments : List Segment) : Prop :=
  segments ≠ [] ∧ ∀ s ∈ segments, Segment.isUsable s = true

namespace IntentResource

/-- Every site has a host, and every site and keyword entry has usable segments. -/
structure IsSound (r : IntentResource) : Prop where
  hosts : ∀ s ∈ r.sites, allBlank s.host = false
  sites : ∀ s ∈ r.sites, Segment.AreUsable s.segments
  keywords : ∀ k ∈ r.segmentKeywords, Segment.AreUsable k.segments

/-- Segments pass their check exactly if they are usable. -/
theorem areUsable_iff {segments : List Segment} :
    areUsable segments = true ↔ Segment.AreUsable segments := by
  simp [areUsable, Segment.AreUsable]

/-- A resource passes its check exactly if it follows the rules. -/
theorem isValid_iff {r : IntentResource} : r.isValid = true ↔ r.IsSound := by
  simp only [isValid, Bool.and_eq_true, List.all_eq_true, Bool.not_eq_true', areUsable_iff]
  constructor
  · rintro ⟨hsites, hkeywords⟩
    exact ⟨fun s hs => (hsites s hs).1, fun s hs => (hsites s hs).2, hkeywords⟩
  · rintro ⟨hhosts, hsites, hkeywords⟩
    exact ⟨fun s hs => ⟨hhosts s hs, hsites s hs⟩, hkeywords⟩

/-- A text is loaded exactly if it reads as a resource that follows the rules. -/
theorem load_eq_ok_iff {json : String} {r : IntentResource} :
    load json = .ok r ↔ (Json.parse? json).bind ofJson? = some r ∧ r.IsSound := by
  rw [load]
  cases hread : (Json.parse? json).bind ofJson? with
  | none => simp
  | some r' =>
    by_cases hvalid : r'.isValid = true
    · simp only [hvalid, if_true, Except.ok.injEq, Option.some.injEq]
      constructor
      · rintro rfl
        exact ⟨rfl, isValid_iff.1 hvalid⟩
      · exact fun h => h.1
    · simp only [hvalid, Option.some.injEq]
      constructor
      · intro h
        cases h
      · rintro ⟨rfl, hsound⟩
        exact absurd (isValid_iff.2 hsound) hvalid

end IntentResource

/-- A dictionary whose values all pass a test of their lengths. -/
theorem Dict.forall_length_iff {α : Type} {d : Dict (List α)} {n : Nat} :
    (∀ k ∈ d.values.map List.length, k = n) ↔ ∀ key v, d.get? key = some v → v.length = n := by
  constructor
  · intro h key v hget
    have hmem : v ∈ d.values := List.mem_map_of_mem (Dict.get?_eq_some_iff.1 hget)
    exact h _ (List.mem_map_of_mem hmem)
  · intro h k hk
    obtain ⟨v, hv, rfl⟩ := List.mem_map.1 hk
    obtain ⟨⟨key, v'⟩, hmem, rfl⟩ := List.mem_map.1 hv
    exact h key v' (Dict.get?_eq_some_iff.2 hmem)

/-- No length differs from a given one exactly if all of them are it. -/
theorem find?_length_eq_none_iff {lengths : List Nat} {n : Nat} :
    lengths.find? (fun k => k != n) = none ↔ ∀ k ∈ lengths, k = n := by
  simp

/-- What is read is taken exactly if nothing is wrong with it. -/
theorem eq_ok_iff_of_objection? {ρ : Type} {loaded : Except Error ρ} {read : Option ρ}
    {objection? : ρ → Option ResourceError} (hunread : read = none → ∃ e, loaded = .error e)
    (hrefused : ∀ r e, read = some r → objection? r = some e → loaded = .error (.resource e))
    (htaken : ∀ r, read = some r → objection? r = none → loaded = .ok r) {r : ρ} :
    loaded = .ok r ↔ read = some r ∧ objection? r = none := by
  constructor
  · intro hloaded
    cases hread : read with
    | none =>
      obtain ⟨e, he⟩ := hunread hread
      rw [hloaded] at he
      cases he
    | some r' =>
      cases hobjection : objection? r' with
      | none =>
        rw [htaken r' hread hobjection] at hloaded
        cases hloaded
        exact ⟨rfl, hobjection⟩
      | some e =>
        rw [hrefused r' e hread hobjection] at hloaded
        cases hloaded
  · rintro ⟨hread, hobjection⟩
    exact htaken r hread hobjection

namespace LinearClassifier

/-- There are usable segments, with one bias for each of them and one weight of every token for each
of them. -/
structure IsSound (c : LinearClassifier) : Prop where
  segments : Segment.AreUsable c.segments
  biases : c.biases.length = c.segments.length
  weights : ∀ token ws, c.weights.get? token = some ws → ws.length = c.segments.length

/-- Nothing is wrong with a classifier exactly if it follows the rules. -/
theorem objection?_eq_none_iff {c : LinearClassifier} : c.objection? = none ↔ c.IsSound := by
  have husable : (c.segments.isEmpty || !c.segments.all Segment.isUsable) = false ↔
      Segment.AreUsable c.segments := by
    simp [Segment.AreUsable]
  rw [objection?]
  cases hsegments : c.segments.isEmpty || !c.segments.all Segment.isUsable with
  | true =>
    rw [if_pos rfl]
    constructor
    · intro h
      cases h
    · intro h
      rw [husable.2 h.segments] at hsegments
      cases hsegments
  | false =>
    rw [if_neg (by decide), Option.map_eq_none_iff, find?_length_eq_none_iff, lengths,
      List.forall_mem_cons, Dict.forall_length_iff]
    exact ⟨fun h => ⟨husable.1 hsegments, h.1, h.2⟩, fun h => ⟨h.biases, h.weights⟩⟩

/-- A text is loaded exactly if it reads as a classifier that follows the rules. -/
theorem load_eq_ok_iff {json : String} {c : LinearClassifier} :
    load json = .ok c ↔ (Json.parse? json).bind ofJson? = some c ∧ c.IsSound := by
  rw [← objection?_eq_none_iff]
  refine eq_ok_iff_of_objection? ?_ ?_ ?_
  · intro hread
    exact ⟨_, by rw [load, hread]⟩
  · intro r e hread hobjection
    simp only [load, hread, hobjection]
  · intro r hread hobjection
    simp only [load, hread, hobjection]

end LinearClassifier

namespace WordVectors

/-- The dimension is positive, and every vector has it. -/
structure IsSound (w : WordVectors) : Prop where
  dimension : 0 < w.dimension
  vectors : ∀ token v, w.vectors.get? token = some v → v.length = w.dimension

/-- Nothing is wrong with word vectors exactly if they follow the rules. -/
theorem objection?_eq_none_iff {w : WordVectors} : w.objection? = none ↔ w.IsSound := by
  rw [objection?]
  by_cases hzero : w.dimension = 0
  · rw [if_pos hzero]
    exact ⟨fun h => (by cases h), fun h => absurd hzero (Nat.ne_of_gt h.dimension)⟩
  · rw [if_neg hzero, Option.map_eq_none_iff, find?_length_eq_none_iff, Dict.forall_length_iff]
    exact ⟨fun h => ⟨Nat.pos_of_ne_zero hzero, h⟩, fun h => h.vectors⟩

/-- A text is loaded exactly if it reads as word vectors that follow the rules. -/
theorem load_eq_ok_iff {json : String} {w : WordVectors} :
    load json = .ok w ↔ (Json.parse? json).bind ofJson? = some w ∧ w.IsSound := by
  rw [← objection?_eq_none_iff]
  refine eq_ok_iff_of_objection? ?_ ?_ ?_
  · intro hread
    exact ⟨_, by rw [load, hread]⟩
  · intro r e hread hobjection
    simp only [load, hread, hobjection]
  · intro r hread hobjection
    simp only [load, hread, hobjection]

end WordVectors

/-! ## What one step does to a slot -/

namespace Slot

variable {ρ : Type} [Versioned ρ] {s : Slot ρ} {loaded : Except Error ρ} {expected : Nat}

/-- After loading, a slot holds what was loaded if it has the expected version, and nothing else. -/
theorem content_load_eq_some_iff {r : ρ} :
    (s.load loaded expected).2.content = some r ↔
      loaded = .ok r ∧ Versioned.version r = expected := by
  cases loaded with
  | error e => simp [load, reset]
  | ok r' =>
    by_cases hversion : Versioned.version r' = expected
    · simp only [load, setChecked, if_pos hversion, set, Option.some.injEq, Except.ok.injEq]
      constructor
      · rintro rfl
        exact ⟨rfl, hversion⟩
      · exact fun h => h.1
    · simp only [load, setChecked, if_neg hversion, reset, Except.ok.injEq]
      constructor
      · intro h
        cases h
      · rintro ⟨rfl, h⟩
        exact absurd h hversion

/-- Loading succeeds exactly if the slot is filled by it. -/
theorem load_eq_ok_iff_isReady (s : Slot ρ) (loaded : Except Error ρ) (expected : Nat) :
    (s.load loaded expected).1 = .ok () ↔ (s.load loaded expected).2.isReady = true := by
  cases loaded with
  | error e => simp [load, reset, isReady]
  | ok r =>
    simp only [load, setChecked]
    split <;> simp [set, reset, isReady]

end Slot

/-- What happens to the slot of a model. -/
inductive SlotStep where
  | load (json : String)
  | reset

/-- A model `μ` with a slot for resources `ρ`: how a text is read, the rules of the resources, and
what the two steps do to the slot and to the version that the model takes. -/
structure ResourceHost (μ ρ : Type) [Versioned ρ] where
  slot : μ → Slot ρ
  /-- The version that the model takes. -/
  version : μ → Nat
  read? : String → Option ρ
  IsSound : ρ → Prop
  load : String → Op μ Unit
  reset : μ → μ
  /-- A text is loaded into the slot if its resource follows the rules. -/
  load_eq : ∀ json m, ∃ loaded : Except Error ρ,
    (∀ r, loaded = .ok r ↔ read? json = some r ∧ IsSound r) ∧
      slot (load json m).state = ((slot m).load loaded (version m)).2 ∧
      (load json m).result = ((slot m).load loaded (version m)).1.mapError Failure.error
  version_load : ∀ json m, version (load json m).state = version m
  slot_reset : ∀ m, slot (reset m) = (slot m).reset
  version_reset : ∀ m, version (reset m) = version m

namespace ResourceHost

variable {μ ρ : Type} [Versioned ρ] (h : ResourceHost μ ρ)

/-- A text delivers a resource to a model: it reads as the resource, which follows the rules and has
the version that the model takes. -/
def Delivers (m : μ) (json : String) (r : ρ) : Prop :=
  h.read? json = some r ∧ h.IsSound r ∧ Versioned.version r = h.version m

/-- The model after a step. -/
def step (m : μ) : SlotStep → μ
  | .load json => (h.load json m).state
  | .reset => h.reset m

/-- The model after steps one after another. -/
def after (m : μ) (steps : List SlotStep) : μ := steps.foldl h.step m

/-- The last step works on what the others left. -/
theorem after_append_singleton (m : μ) (steps : List SlotStep) (last : SlotStep) :
    h.after m (steps ++ [last]) = h.step (h.after m steps) last := by
  simp [after]

/-- Steps never change the version that a model takes. -/
theorem version_after (m : μ) (steps : List SlotStep) :
    h.version (h.after m steps) = h.version m := by
  induction steps generalizing m with
  | nil => rfl
  | cons s steps ih =>
    refine (ih (h.step m s)).trans ?_
    cases s with
    | load json => exact h.version_load json m
    | reset => exact h.version_reset m

/-- What a text delivers does not change with the steps before it. -/
theorem delivers_after_iff {m : μ} (steps : List SlotStep) {json : String} {r : ρ} :
    h.Delivers (h.after m steps) json r ↔ h.Delivers m json r := by
  rw [Delivers, Delivers, version_after]

/-- After loading, the slot holds what the text delivers. -/
theorem content_load_iff {m : μ} {json : String} {r : ρ} :
    (h.slot (h.load json m).state).content = some r ↔ h.Delivers m json r := by
  obtain ⟨loaded, hloaded, hslot, -⟩ := h.load_eq json m
  rw [hslot, Slot.content_load_eq_some_iff, hloaded, and_assoc]
  rfl

/-- A text that delivers nothing is refused with an error. -/
theorem result_load (m : μ) (json : String) :
    (h.load json m).result = .ok () ∧ (h.slot (h.load json m).state).isReady = true ∨
      (∃ e, (h.load json m).result = .error (.error e)) ∧
        (h.slot (h.load json m).state).isReady = false := by
  obtain ⟨loaded, -, hslot, hresult⟩ := h.load_eq json m
  have hready := (h.slot m).load_eq_ok_iff_isReady loaded (h.version m)
  rw [hslot, hresult]
  cases hload : ((h.slot m).load loaded (h.version m)).1 with
  | ok u => exact .inl ⟨rfl, hready.1 hload⟩
  | error e =>
    refine .inr ⟨⟨e, rfl⟩, Bool.eq_false_iff.2 fun hcontra => ?_⟩
    rw [hready.2 hcontra] at hload
    cases hload

/-- After any steps the slot holds what the last of them delivered, if it delivered anything, and a
load is refused exactly if its text delivers nothing. -/
structure FollowsLast : Prop where
  content_iff : ∀ (m : μ) (steps : List SlotStep) (last : SlotStep) (r : ρ),
    (h.slot (h.after m (steps ++ [last]))).content = some r ↔
      ∃ json, last = .load json ∧ h.Delivers m json r
  isReady_iff : ∀ (m : μ) (steps : List SlotStep) (last : SlotStep),
    (h.slot (h.after m (steps ++ [last]))).isReady = true ↔
      ∃ json r, last = .load json ∧ h.Delivers m json r
  accepted : ∀ (m : μ) (steps : List SlotStep) (json : String) (r : ρ), h.Delivers m json r →
    (h.load json (h.after m steps)).result = .ok ()
  refused : ∀ (m : μ) (steps : List SlotStep) (json : String), (∀ r, ¬ h.Delivers m json r) →
    (∃ e, (h.load json (h.after m steps)).result = .error (.error e)) ∧
      (h.slot (h.after m (steps ++ [.load json]))).isReady = false

/-- The last step alone decides what the slot holds. -/
theorem content_after_iff (m : μ) (steps : List SlotStep) (last : SlotStep) (r : ρ) :
    (h.slot (h.after m (steps ++ [last]))).content = some r ↔
      ∃ json, last = .load json ∧ h.Delivers m json r := by
  rw [after_append_singleton]
  cases last with
  | load json =>
    rw [step, content_load_iff, delivers_after_iff]
    constructor
    · exact fun hr => ⟨json, rfl, hr⟩
    · rintro ⟨_, ⟨rfl⟩, hr⟩
      exact hr
  | reset =>
    rw [step, h.slot_reset]
    simp [Slot.reset]

/-- Every host follows the last step. -/
theorem followsLast : h.FollowsLast where
  content_iff := h.content_after_iff
  isReady_iff m steps last := by
    rw [Slot.isReady, Option.isSome_iff_exists]
    simp only [h.content_after_iff]
    constructor
    · rintro ⟨r, json, hlast, hr⟩
      exact ⟨json, r, hlast, hr⟩
    · rintro ⟨json, r, hlast, hr⟩
      exact ⟨r, json, hlast, hr⟩
  accepted m steps json r hr := by
    have hcontent := h.content_load_iff.2 ((h.delivers_after_iff steps).2 hr)
    rcases h.result_load (h.after m steps) json with ⟨hok, -⟩ | ⟨-, hempty⟩
    · exact hok
    · rw [Slot.isReady, hcontent] at hempty
      cases hempty
  refused m steps json hnone := by
    rw [after_append_singleton, step]
    rcases h.result_load (h.after m steps) json with ⟨-, hready⟩ | hrefused
    · obtain ⟨r, hr⟩ := Option.isSome_iff_exists.1 hready
      exact absurd ((h.delivers_after_iff steps).1 (h.content_load_iff.1 hr)) (hnone r)
    · exact hrefused

end ResourceHost

/-! ## The three models -/

/-- Putting a slot into a model and reporting the outcome. -/
theorem Op.result_set_ofExcept {σ : Type} (s s' : σ) (result : Except Error Unit) (level : LogLevel)
    (message : String) :
    ((do Op.set s'; Op.ofExcept result; Op.log level message : Op σ Unit) s).result
      = result.mapError Failure.error := by
  cases result <;> rfl

/-- The model of purchase intent and its resource. -/
def IntentModel.host : ResourceHost IntentModel IntentResource where
  slot := IntentModel.resource
  version m := m.config.resourceVersion
  read? json := (Json.parse? json).bind IntentResource.ofJson?
  IsSound := IntentResource.IsSound
  load := IntentModel.load
  reset := IntentModel.reset
  load_eq json m := by
    refine ⟨IntentResource.load json, fun r => IntentResource.load_eq_ok_iff, ?_, ?_⟩
    · exact congrArg resource (Op.state_set_ofExcept m _ _ _ _)
    · exact Op.result_set_ofExcept m _ _ _ _
  version_load json m :=
    congrArg (fun m => m.config.resourceVersion) (Op.state_set_ofExcept m _ _ _ _)
  slot_reset _ := rfl
  version_reset _ := rfl

/-- The model of page interests and its linear classifier. -/
def PageModel.host : ResourceHost (PageModel LinearClassifier) LinearClassifier where
  slot := PageModel.classifier
  version m := m.config.resourceVersion
  read? json := (Json.parse? json).bind LinearClassifier.ofJson?
  IsSound := LinearClassifier.IsSound
  load := PageModel.load
  reset := PageModel.reset
  load_eq json m := by
    refine ⟨LinearClassifier.load json, fun c => LinearClassifier.load_eq_ok_iff, ?_, ?_⟩
    · exact congrArg classifier (Op.state_set_ofExcept m _ _ _ _)
    · exact Op.result_set_ofExcept m _ _ _ _
  version_load json m :=
    congrArg (fun m => m.config.resourceVersion) (Op.state_set_ofExcept m _ _ _ _)
  slot_reset _ := rfl
  version_reset _ := rfl

/-- The model of embeddings and its word vectors. -/
def EmbeddingModel.host : ResourceHost (EmbeddingModel WordVectors) WordVectors where
  slot := EmbeddingModel.embedder
  version m := m.config.resourceVersion
  read? json := (Json.parse? json).bind WordVectors.ofJson?
  IsSound := WordVectors.IsSound
  load := EmbeddingModel.load
  reset := EmbeddingModel.reset
  load_eq json m := by
    refine ⟨WordVectors.load json, fun w => WordVectors.load_eq_ok_iff, ?_, ?_⟩
    · exact congrArg embedder (Op.state_set_ofExcept m _ _ _ _)
    · exact Op.result_set_ofExcept m _ _ _ _
  version_load json m :=
    congrArg (fun m => m.config.resourceVersion) (Op.state_set_ofExcept m _ _ _ _)
  slot_reset _ := rfl
  version_reset _ := rfl

/-! ## Empty slots -/

section Idle

variable {σ : Type} {s : σ}

/-- Without its resource the model of purchase intent ignores visits. -/
theorem IntentModel.visit_of_not_isReady {m : IntentModel} (hm : m.resource.isReady = false)
    (access : Access σ History) (address : String) (now : Instant) :
    (visit access address now ⟨m, s⟩).result = .ok none ∧
      (visit access address now ⟨m, s⟩).state = ⟨m, s⟩ := by
  have hnone : m.resource.content = none := by simpa [Slot.isReady] using hm
  rw [visit, Op.bind_ofModel]
  simp only [hnone]
  exact ⟨rfl, rfl⟩

/-- Without its classifier the model of page interests ignores texts. -/
theorem PageModel.process_of_not_isReady {ρ : Type} [Classifier ρ] {m : PageModel ρ}
    (hm : m.classifier.isReady = false) (access : Access σ Window) (text : String) :
    (process access text ⟨m, s⟩).result = .ok () ∧ (process access text ⟨m, s⟩).state = ⟨m, s⟩ := by
  have hnone : m.classifier.content = none := by simpa [Slot.isReady] using hm
  rw [process]
  split
  · exact ⟨rfl, rfl⟩
  · rw [Op.bind_ofModel]
    simp only [hnone]
    exact ⟨rfl, rfl⟩

/-- Without its embedder the model of embeddings ignores texts. -/
theorem EmbeddingModel.process_of_not_isReady {ρ : Type} [Embedder ρ] {m : EmbeddingModel ρ}
    (hm : m.embedder.isReady = false) (access : EventAccess σ) (text locale : String)
    (now : Instant) :
    (process access text locale now ⟨m, s⟩).result = .ok () ∧
      (process access text locale now ⟨m, s⟩).state = ⟨m, s⟩ := by
  have hnone : m.embedder.content = none := by simpa [Slot.isReady] using hm
  rw [process]
  split
  · exact ⟨rfl, rfl⟩
  · rw [Op.bind_ofModel]
    simp only [hnone]
    exact ⟨rfl, rfl⟩

end Idle

/-- The slot of each model holds what the last step delivered, or nothing. While a slot is empty,
its model answers visits or texts and changes nothing. -/
theorem slots_hold_last_delivery :
    IntentModel.host.FollowsLast ∧ PageModel.host.FollowsLast ∧ EmbeddingModel.host.FollowsLast ∧
      (∀ (σ : Type) (s : σ) (access : Access σ History) (m : IntentModel) (address : String)
        (now : Instant), m.resource.isReady = false →
          (IntentModel.visit access address now ⟨m, s⟩).result = .ok none ∧
            (IntentModel.visit access address now ⟨m, s⟩).state = ⟨m, s⟩) ∧
      (∀ (σ : Type) (s : σ) (access : Access σ Window) (m : PageModel LinearClassifier)
        (text : String), m.classifier.isReady = false →
          (PageModel.process access text ⟨m, s⟩).result = .ok () ∧
            (PageModel.process access text ⟨m, s⟩).state = ⟨m, s⟩) ∧
      ∀ (σ : Type) (s : σ) (access : EventAccess σ) (m : EmbeddingModel WordVectors)
        (text locale : String) (now : Instant), m.embedder.isReady = false →
          (EmbeddingModel.process access text locale now ⟨m, s⟩).result = .ok () ∧
            (EmbeddingModel.process access text locale now ⟨m, s⟩).state = ⟨m, s⟩ := by
  refine ⟨IntentModel.host.followsLast, PageModel.host.followsLast, EmbeddingModel.host.followsLast,
    ?_, ?_, ?_⟩
  · intro σ s access m address now hm
    exact IntentModel.visit_of_not_isReady hm access address now
  · intro σ s access m text hm
    exact PageModel.process_of_not_isReady hm access text
  · intro σ s access m text locale now hm
    exact EmbeddingModel.process_of_not_isReady hm access text locale now

/-- A resource of the version that the model takes, and then one of a newer version: the second text
is refused, the slot is empty, and a visit is ignored. -/
theorem slot_empty_after_newer_version :
    let m := IntentModel.new ⟨true, 1, 60, 1, 10, 1⟩
    let steps := [SlotStep.load "\x7b\"version\":1\x7d"]
    let newer := "\x7b\"version\":2\x7d"
    let refused := IntentModel.host.after m (steps ++ [.load newer])
    (IntentModel.host.slot (IntentModel.host.after m steps)).content = some ⟨1, [], [], []⟩ ∧
      (∃ e, (IntentModel.load newer (IntentModel.host.after m steps)).result = .error (.error e)) ∧
      refused.resource.isReady = false ∧
      ∀ access : Access Unit History,
        (IntentModel.visit access "https://shop.example/" ⟨0, 0⟩ ⟨refused, ()⟩).result
          = .ok none := by
  intro m steps newer refused
  obtain ⟨hintent, -, -, hidle, -, -⟩ := slots_hold_last_delivery
  have hfirst : IntentModel.host.Delivers m "\x7b\"version\":1\x7d" ⟨1, [], [], []⟩ := by
    refine ⟨?_, ⟨?_, ?_, ?_⟩, rfl⟩
    · decide +kernel
    all_goals simp
  have hnewer : ∀ r, ¬ IntentModel.host.Delivers m newer r := by
    rintro r ⟨hread, -, hversion⟩
    have hr : IntentModel.host.read? newer = some ⟨2, [], [], []⟩ := by decide +kernel
    rw [hr, Option.some.injEq] at hread
    subst hread
    cases hversion
  obtain ⟨herror, hempty⟩ := hintent.refused m steps newer hnewer
  refine ⟨(hintent.content_iff m [] _ _).2 ⟨_, rfl, hfirst⟩, herror, hempty, fun access => ?_⟩
  exact (hidle Unit () access refused _ _ hempty).1

end Audience
