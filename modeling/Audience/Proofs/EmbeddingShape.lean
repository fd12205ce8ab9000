import Audience.Proofs.EventReadBack
import Audience.Proofs.Isolation
import Audience.Proofs.Lists
import Audience.Proofs.LoadedResources
import Audience.Proofs.SingleCounts

/-! # The shape of embeddings

Word vectors that have been loaded are all of the length that is promised. So the mean of some of
them has this length, the model never finds another one, and each event that is stored has four
bytes for each component. Two things are in the way of a mean: the length may be more than any list
can have, and then the embedder is cut off, whatever the text; and known tokens are counted by a
word, so that a multiple of `2^32` of them counts as none.

* **`WordVectors.knownTokens w text`** — the tokens of a text that have vectors.
* **`WordVectors.IsSound.vectorOf_eq`** — the model takes every vector that the embedder gives.
* **`EventRow.IsShaped n row`** — a row with the bytes of `n` components.
* **`EmbeddingModel.hasEvent_process`**, **`EmbeddingModel.hasEvent_processAll`** — the rows after
  one page text and after any of them.
* **`embedding_shape`** — when there is a vector, its length, and what is stored of it.
* **`embedding_cut_off`** — word vectors that are loaded and never embed. -/

namespace Audience

/-! ## Known tokens -/

namespace WordVectors

variable {w : WordVectors} {text : String}

/-- The tokens of a text that have vectors. -/
def knownTokens (w : WordVectors) (text : String) : List String :=
  (tokenize text).filter w.vectors.contains

/-- There is a vector for each known token. -/
theorem length_knownVectors (w : WordVectors) (text : String) :
    (w.knownVectors (tokenize text)).length = (w.knownTokens text).length := by
  rw [knownVectors, List.length_filterMap_eq_countP, knownTokens, ← List.countP_eq_length_filter]
  rfl

/-- No token is known exactly if none of them is a key. -/
theorem knownTokens_eq_nil_iff :
    w.knownTokens text = [] ↔ ∀ t ∈ tokenize text, t ∉ w.vectors.keys := by
  rw [knownTokens, List.filter_eq_nil_iff]
  refine forall₂_congr fun t _ => not_congr ?_
  rw [Dict.contains, Option.isSome_iff_exists, Dict.mem_keys_iff]

/-- The count of the known tokens is that of a word. -/
theorem toNat_knownCount (w : WordVectors) (text : String) :
    (w.knownCount text).toNat = (w.knownTokens text).length % 2 ^ 32 := by
  rw [knownCount, UInt32.toNat_ofNat', length_knownVectors]

/-- Known tokens count as none exactly if their number is a multiple of `2^32`. -/
theorem knownCount_eq_zero_iff :
    w.knownCount text = 0 ↔ 2 ^ 32 ∣ (w.knownTokens text).length := by
  rw [← UInt32.toNat_inj, toNat_knownCount, Nat.dvd_iff_mod_eq_zero]
  rfl

/-- Fewer than `2^32` known tokens count as none exactly if there are none. -/
theorem dvd_length_knownTokens_iff (h : (w.knownTokens text).length < 2 ^ 32) :
    2 ^ 32 ∣ (w.knownTokens text).length ↔ ∀ t ∈ tokenize text, t ∉ w.vectors.keys := by
  rw [← knownTokens_eq_nil_iff, ← List.length_eq_zero_iff]
  constructor
  · exact fun hdvd => Nat.eq_zero_of_dvd_of_lt hdvd h
  · intro hzero
    rw [hzero]
    exact Nat.dvd_zero _

/-! ## Means -/

/-- The sums have one component for each position. -/
theorem IsSound.length_sum (hw : w.IsSound) (tokens : List String) :
    (sum w.dimension (w.knownVectors tokens)).length = w.dimension := by
  have hlengths : ∀ v ∈ w.knownVectors tokens, v.length = w.dimension := by
    intro v hv
    obtain ⟨t, _, hget⟩ := List.mem_filterMap.1 hv
    exact hw.vectors t v hget
  rw [sum, foldl_zipWith_eq hlengths List.length_replicate .zero .zero, List.length_map,
    List.length_range]

/-- Beyond the greatest length the embedder is cut off. -/
theorem embed_of_lengthLimit_lt (h : lengthLimit < w.dimension) (text : String) :
    Embedder.embed w text = .error .crash := if_neg (Nat.not_le.2 h)

/-- Within the greatest length a text is refused exactly if its known tokens count as none. -/
theorem embed_eq_error_iff (h : w.dimension ≤ lengthLimit) :
    Embedder.embed w text = .error (.error (.resource (.noKnownTokens name))) ↔
      2 ^ 32 ∣ (w.knownTokens text).length := by
  have hembed : Embedder.embed w text = (w.embed text).mapError .error := if_pos h
  rw [hembed, embed, ← knownCount_eq_zero_iff]
  by_cases hcount : w.knownCount text = 0
  · simp [hcount, Except.mapError]
  · simp [hcount, Except.mapError]

/-- Any other text has a vector of the promised length, and the mean is not divided by zero. -/
theorem IsSound.exists_embed (hw : w.IsSound) (h : w.dimension ≤ lengthLimit)
    (hknown : ¬2 ^ 32 ∣ (w.knownTokens text).length) :
    ∃ v, Embedder.embed w text = .ok v ∧ v.length = w.dimension ∧
      0 < (Single.ofNat (w.knownCount text).toNat).magnitude := by
  have hembed : Embedder.embed w text = (w.embed text).mapError .error := if_pos h
  have hcount : w.knownCount text ≠ 0 := mt knownCount_eq_zero_iff.1 hknown
  refine ⟨_, hembed.trans (congrArg (Except.mapError Failure.error) (if_neg hcount)), ?_, ?_⟩
  · rw [List.length_map, hw.length_sum]
  · refine Single.magnitude_ofNat_pos ?_ ?_
    · exact Nat.pos_of_ne_zero fun hzero => hcount (UInt32.toNat_inj.1 hzero)
    · exact Nat.lt_of_lt_of_le (w.knownCount text).toNat_lt (by decide)

/-- What embedding a text can come to. -/
theorem IsSound.embed_cases (hw : w.IsSound) (text : String) :
    Embedder.embed w text = .error .crash ∨
      Embedder.embed w text = .error (.error (.resource (.noKnownTokens name))) ∨
      ∃ v, Embedder.embed w text = .ok v ∧ v.length = w.dimension := by
  by_cases hroom : w.dimension ≤ lengthLimit
  · by_cases hknown : 2 ^ 32 ∣ (w.knownTokens text).length
    · exact .inr (.inl ((embed_eq_error_iff hroom).2 hknown))
    · obtain ⟨v, hv, hlength, -⟩ := hw.exists_embed hroom hknown
      exact .inr (.inr ⟨v, hv, hlength⟩)
  · exact .inl (embed_of_lengthLimit_lt (Nat.not_le.1 hroom) text)

/-- Every vector has the promised length. -/
theorem IsSound.length_of_embed (hw : w.IsSound) {v : List Single}
    (h : Embedder.embed w text = .ok v) : v.length = w.dimension := by
  rcases hw.embed_cases text with hcrash | hrefused | ⟨v', hv', hlength⟩
  · rw [hcrash] at h
    cases h
  · rw [hrefused] at h
    cases h
  · rw [hv', Except.ok.injEq] at h
    exact h ▸ hlength

/-- The model takes every vector that the embedder gives. -/
theorem IsSound.vectorOf_eq (hw : w.IsSound) (text : String) :
    EmbeddingModel.vectorOf w text = Embedder.embed w text := by
  rw [EmbeddingModel.vectorOf]
  cases hembed : Embedder.embed w text with
  | error failure => rfl
  | ok v =>
    have hlength : v.length = Embedder.dimension w := hw.length_of_embed hembed
    show (if v.length = Embedder.dimension w then _ else _) = _
    rw [if_pos hlength]
    rfl

end WordVectors

/-! ## Stored events -/

/-- A row has the bytes of a vector of a given length. -/
def EventRow.IsShaped (n : Nat) (row : EventRow) : Prop :=
  ∃ bytes v, row.embedding = .blob bytes ∧ bytes.length = 4 * n ∧
    decodeEmbedding? bytes = some v ∧ v.length = n

/-- The row of an event has the bytes of its embedding. -/
theorem Event.isShaped_row (e : Event) (id : Nat) : (e.row id).IsShaped e.embedding.length :=
  ⟨_, e.embedding, rfl, length_encodeEmbedding _, decodeEmbedding?_encodeEmbedding _, rfl⟩

/-- A row is in the table of events of a store. -/
def Store.HasEvent (s : Store) (row : EventRow) : Prop :=
  ∃ es lastId, s.KeepsEvents es lastId ∧ row ∈ es

/-- After an event has been recorded, a row is its row or was there before. -/
theorem Store.HasEvent.of_recordEvent {config : EmbeddingConfig} {event : Event} {s : Store}
    {row : EventRow} (h : (recordEvent config event s).state.HasEvent row) :
    s.HasEvent row ∨ ∃ id, row = event.row id := by
  rcases recordEvent_cases config event s with hsame | ⟨es, lastId, hevents, hstate⟩
  · rw [hsame] at h
    exact .inl h
  · rw [hstate] at h
    obtain ⟨es', lastId', hevents', hrow⟩ := h
    -- what is kept are some of the rows of before and the new one
    have htable := (keepsEvents_withEvents s _ _).symm.trans hevents'
    rw [Option.some.injEq, Table.events.injEq] at htable
    obtain ⟨rfl, -⟩ := htable
    have hkept : row ∈ es ++ [event.row (lastId + 1)] := List.mem_of_mem_filter hrow
    rcases List.mem_append.1 hkept with hold | hnew
    · exact .inl ⟨es, lastId, hevents, hold⟩
    · exact .inr ⟨lastId + 1, List.mem_singleton.1 hnew⟩

namespace EmbeddingModel

variable {w : WordVectors} {m : EmbeddingModel WordVectors} {s : Store} {row : EventRow}

/-- A page text, its language and when it was read. -/
structure Reading where
  text : String
  locale : String
  now : Instant

/-- Processes page texts one after another, whether they are recorded or not. -/
def processAll (readings : List Reading) (r : Running (EmbeddingModel WordVectors) Store) :
    Running (EmbeddingModel WordVectors) Store :=
  readings.foldl (fun r p => (process Store.events p.text p.locale p.now r).state) r

/-- Processing a page text leaves the model as it was. -/
theorem model_process (text locale : String) (now : Instant) (m : EmbeddingModel WordVectors)
    (s : Store) : (process Store.events text locale now ⟨m, s⟩).state.model = m := by
  rw [state_process]
  split
  · rfl
  · split <;> rfl

/-- After a page text has been processed, a row was there before or has the bytes of a vector of the
promised length. -/
theorem hasEvent_process (hw : w.IsSound) (hm : m.embedder.content = some w) {text locale : String}
    {now : Instant}
    (h : (process Store.events text locale now ⟨m, s⟩).state.store.HasEvent row) :
    s.HasEvent row ∨ row.IsShaped w.dimension := by
  rw [state_process] at h
  split at h
  · exact .inl h
  · rw [hm, Option.map_some, hw.vectorOf_eq] at h
    split at h
    next v hv =>
      rw [Option.some.injEq] at hv
      refine h.of_recordEvent.imp id ?_
      rintro ⟨id, rfl⟩
      rw [← hw.length_of_embed hv]
      exact Event.isShaped_row _ _
    next => exact .inl h

/-- The same after any page texts. -/
theorem hasEvent_processAll (hw : w.IsSound) (hm : m.embedder.content = some w)
    (readings : List Reading) (h : (processAll readings ⟨m, s⟩).store.HasEvent row) :
    s.HasEvent row ∨ row.IsShaped w.dimension := by
  induction readings generalizing s with
  | nil => exact .inl h
  | cons p rest ih =>
    have hmodel := model_process p.text p.locale p.now m s
    have hstep : processAll (p :: rest) ⟨m, s⟩ = processAll rest
        ⟨m, (process Store.events p.text p.locale p.now ⟨m, s⟩).state.store⟩ := by
      rw [processAll, List.foldl_cons]
      congr 1
      exact congrArg (Running.mk · _) hmodel
    rw [hstep] at h
    rcases ih h with hbefore | hshaped
    · exact hasEvent_process hw hm hbefore
    · exact .inr hshaped

end EmbeddingModel

/-- Of word vectors that have been loaded: their length is positive. If it is more than a list can
have, every text cuts the embedder off. Otherwise a text is refused exactly if its known tokens are
a multiple of `2^32`, which means that none of its tokens is a key as long as there are fewer; and
any other text has a vector of the length that is promised, for which nothing is divided by zero.
The model finds no other length, and all events that it stores have four bytes for each component,
which decode to a vector of this length. -/
theorem embedding_shape {json : String} {w : WordVectors} (hw : WordVectors.load json = .ok w) :
    0 < w.dimension ∧
    (WordVectors.lengthLimit < w.dimension → ∀ text, Embedder.embed w text = .error .crash) ∧
    (w.dimension ≤ WordVectors.lengthLimit → ∀ text,
      let refused := Embedder.embed w text
        = .error (.error (.resource (.noKnownTokens WordVectors.name)))
      (refused ↔ 2 ^ 32 ∣ (w.knownTokens text).length) ∧
      ((w.knownTokens text).length < 2 ^ 32 →
        (refused ↔ ∀ t ∈ tokenize text, t ∉ w.vectors.keys)) ∧
      (¬2 ^ 32 ∣ (w.knownTokens text).length → ∃ v, Embedder.embed w text = .ok v ∧
        v.length = w.dimension ∧ 0 < (Single.ofNat (w.knownCount text).toNat).magnitude)) ∧
    (∀ text expected actual, EmbeddingModel.vectorOf w text
      ≠ .error (.error (.resource (.dimensionMismatch expected actual)))) ∧
    (∀ (m : EmbeddingModel WordVectors) (s : Store) (readings : List EmbeddingModel.Reading)
      (row : EventRow), m.embedder.content = some w →
        (EmbeddingModel.processAll readings ⟨m, s⟩).store.HasEvent row →
          s.HasEvent row ∨ row.IsShaped w.dimension) := by
  have hsound := (WordVectors.load_eq_ok_iff.1 hw).2
  refine ⟨hsound.dimension, fun h text => WordVectors.embed_of_lengthLimit_lt h text,
    fun h text => ⟨WordVectors.embed_eq_error_iff h, fun hfew => ?_, hsound.exists_embed h⟩,
    fun text expected actual => ?_,
    fun m s readings row hm => EmbeddingModel.hasEvent_processAll hsound hm readings⟩
  · exact (WordVectors.embed_eq_error_iff h).trans (WordVectors.dvd_length_knownTokens_iff hfew)
  · rw [hsound.vectorOf_eq]
    rcases hsound.embed_cases text with hcrash | hrefused | ⟨v, hv, -⟩
    · rw [hcrash]
      exact fun h => nomatch h
    · rw [hrefused]
      exact fun h => nomatch h
    · rw [hv]
      exact fun h => nomatch h

/-- Two words with vectors: a text without them is refused, and the mean of another one is stored in
eight bytes. -/
theorem embedding_shape_cats :
    let json := "\x7b\"version\":1,\"dimension\":2,\"vectors\":"
      ++ "\x7b\"cat\":[1.0,0.0],\"dog\":[0.0,1.0]\x7d\x7d"
    ∃ w, WordVectors.load json = .ok w ∧ w.dimension = 2 ∧
      Embedder.embed w "fish" = .error (.error (.resource (.noKnownTokens WordVectors.name))) ∧
      (∃ v, Embedder.embed w "Cat and dog" = .ok v ∧ v.length = 2) ∧
      let m : EmbeddingModel WordVectors := ⟨Config.default.embedding, ⟨WordVectors.name, some w⟩⟩
      ∀ row, (EmbeddingModel.processAll [⟨"Cat and dog", "en", ⟨0, 0⟩⟩, ⟨"fish", "en", ⟨1, 0⟩⟩]
        ⟨m, Store.opened .memory⟩).store.HasEvent row → row.IsShaped 2 := by
  intro json
  have hparts : (WordVectors.load json).map (fun w => (w.dimension, w.vectors.keys))
      = .ok (2, ["cat", "dog"]) := by decide +kernel
  obtain ⟨w, hw, hparts⟩ := exists_of_map_eq_ok hparts
  obtain ⟨hdimension, hkeys⟩ := Prod.mk.inj hparts
  have hroom : w.dimension ≤ WordVectors.lengthLimit := by
    rw [hdimension]
    decide
  obtain ⟨-, -, hshape, -, hevents⟩ := embedding_shape hw
  have hfish : tokenize "fish" = ["fish"] := by decide +kernel
  have hcat : tokenize "Cat and dog" = ["cat", "and", "dog"] := by decide +kernel
  have hfew : ∀ text, (tokenize text).length < 2 ^ 32 → (w.knownTokens text).length < 2 ^ 32 :=
    fun text => Nat.lt_of_le_of_lt (List.length_filter_le _ _)
  obtain ⟨-, hrefused, -⟩ := hshape hroom "fish"
  obtain ⟨hcount, hrefused', hvector⟩ := hshape hroom "Cat and dog"
  refine ⟨w, hw, hdimension, ?_, ?_, fun row hrow => ?_⟩
  · refine (hrefused (hfew _ (by rw [hfish]; decide))).2 ?_
    rw [hfish, hkeys]
    decide
  · obtain ⟨v, hv, hlength, -⟩ := hvector fun hdvd => by
      have hnone := (hrefused' (hfew _ (by rw [hcat]; decide))).1 (hcount.2 hdvd)
      rw [hcat, hkeys] at hnone
      exact absurd hnone (by decide)
    exact ⟨v, hv, hlength.trans hdimension⟩
  · rcases hevents _ _ _ _ rfl hrow with ⟨es, lastId, hes, hmem⟩ | hshaped
    · -- a new store has no events
      have hnone := (Store.keepsEvents_opened (by decide)).symm.trans hes
      rw [Option.some.injEq, Table.events.injEq] at hnone
      rw [← hnone.1] at hmem
      cases hmem
    · exact hdimension ▸ hshaped

/-- Word vectors of more components than any list has are loaded, and then a text without known
tokens is not refused but cuts the embedder off. -/
theorem embedding_cut_off :
    let json := "\x7b\"version\":1,\"dimension\":18446744073709551615,\"vectors\":\x7b\x7d\x7d"
    ∃ w, WordVectors.load json = .ok w ∧ (∀ t ∈ tokenize "shoes", t ∉ w.vectors.keys) ∧
      Embedder.embed w "shoes" = .error .crash := by
  intro json
  have hparts : (WordVectors.load json).map (fun w => (w.dimension, w.vectors.keys))
      = .ok (18446744073709551615, []) := by decide +kernel
  obtain ⟨w, hw, hparts⟩ := exists_of_map_eq_ok hparts
  obtain ⟨hdimension, hkeys⟩ := Prod.mk.inj hparts
  refine ⟨w, hw, fun t _ => ?_, WordVectors.embed_of_lengthLimit_lt ?_ _⟩
  · rw [hkeys]
    exact List.not_mem_nil
  · rw [hdimension]
    decide

end Audience
