import Audience.Store.EventLog

/-! # Bytes of embeddings

Embeddings and the byte strings of whole words are the same thing: each embedding is what its bytes
are read as, and each byte string that is read is the one of its embedding. What cannot be read is
what has bytes left over.

* **`bytesWord_wordBytes`**, **`wordBytes_bytesWord`** — words and four bytes.
* **`decodeEmbedding?_eq_some_iff`** — what bytes are read as.
* **`decodeEmbedding?_eq_none_iff`** — which bytes are not read.
* **`embedding_bytes`** — reading and writing are inverse to each other. -/

namespace Audience

/-! ## Words -/

/-- The bytes of a word give the word. -/
theorem bytesWord_wordBytes (w : UInt32) :
    bytesWord w.toUInt8 (w >>> 8).toUInt8 (w >>> 16).toUInt8 (w >>> 24).toUInt8 = w := by
  apply UInt32.toBitVec_inj.1
  simp only [bytesWord, UInt32.toBitVec_or, UInt32.toBitVec_shiftLeft, UInt32.toBitVec_shiftRight,
    UInt8.toBitVec_toUInt32, UInt32.toBitVec_toUInt8]
  ext i hi
  -- each bit lies in one of the four bytes
  simp only [UInt32.toBitVec_ofNat, BitVec.ofNat_eq_ofNat, BitVec.reduceMod,
    BitVec.ushiftRight_eq', BitVec.toNat_ofNat, Nat.reducePow, Nat.reduceMod, BitVec.shiftLeft_eq',
    BitVec.getElem_or, BitVec.getElem_setWidth, BitVec.getLsbD_setWidth, BitVec.getElem_shiftLeft,
    BitVec.getLsbD_ushiftRight]
  grind

/-- Four bytes are those of the word that they make up. -/
theorem wordBytes_bytesWord (a b c d : UInt8) : wordBytes (bytesWord a b c d) = [a, b, c, d] := by
  simp only [wordBytes, List.cons.injEq, and_true, ← UInt8.toBitVec_inj, bytesWord,
    UInt32.toBitVec_or, UInt32.toBitVec_shiftLeft, UInt32.toBitVec_shiftRight,
    UInt8.toBitVec_toUInt32, UInt32.toBitVec_toUInt8]
  refine ⟨?_, ?_, ?_, ?_⟩ <;>
  · ext i hi
    -- at each place of the word only one of the bytes has bits
    simp only [UInt32.toBitVec_ofNat, BitVec.ofNat_eq_ofNat, BitVec.reduceMod,
      BitVec.ushiftRight_eq', BitVec.toNat_ofNat, Nat.reducePow, Nat.reduceMod,
      BitVec.shiftLeft_eq', BitVec.getLsbD_or, BitVec.getElem_setWidth, BitVec.getLsbD_setWidth,
      BitVec.getLsbD_shiftLeft, BitVec.getLsbD_ushiftRight]
    grind

/-! ## Writing and reading -/

/-- The bytes of an embedding are those of its first component and those of the others. -/
theorem encodeEmbedding_cons (x : Single) (v : List Single) :
    encodeEmbedding (x :: v) = wordBytes x.bits ++ encodeEmbedding v := rfl

/-- There are four bytes for each component. -/
theorem length_encodeEmbedding (v : List Single) : (encodeEmbedding v).length = 4 * v.length := by
  induction v with
  | nil => rfl
  | cons x v ih =>
    have hword : (wordBytes x.bits).length = 4 := rfl
    rw [encodeEmbedding_cons, List.length_append, hword, ih, List.length_cons]
    omega

/-- The bytes of an embedding give the embedding, bit for bit. -/
theorem decodeEmbedding?_encodeEmbedding (v : List Single) :
    decodeEmbedding? (encodeEmbedding v) = some v := by
  induction v with
  | nil => rfl
  | cons x v ih =>
    change (decodeEmbedding? (encodeEmbedding v)).map (fun rest =>
      ⟨bytesWord x.bits.toUInt8 (x.bits >>> 8).toUInt8 (x.bits >>> 16).toUInt8
        (x.bits >>> 24).toUInt8⟩ :: rest) = _
    rw [ih, bytesWord_wordBytes, Option.map_some]

/-- What is read is an embedding with these bytes. -/
theorem encodeEmbedding_of_decode {bytes : List UInt8} {v : List Single}
    (h : decodeEmbedding? bytes = some v) : encodeEmbedding v = bytes := by
  induction bytes using decodeEmbedding?.induct generalizing v with
  | case1 =>
    rw [decodeEmbedding?, Option.some.injEq] at h
    rw [← h]
    rfl
  | case2 a b c d rest ih =>
    rw [decodeEmbedding?, Option.map_eq_some_iff] at h
    obtain ⟨w, hw, rfl⟩ := h
    rw [encodeEmbedding_cons, wordBytes_bytesWord, ih hw]
    rfl
  | case3 bytes hnil hfour =>
    rw [decodeEmbedding?] at h
    · cases h
    · exact hnil
    · exact hfour

/-- Bytes are read as an embedding exactly if they are its bytes. -/
theorem decodeEmbedding?_eq_some_iff {bytes : List UInt8} {v : List Single} :
    decodeEmbedding? bytes = some v ↔ encodeEmbedding v = bytes := by
  constructor
  · exact encodeEmbedding_of_decode
  · rintro rfl
    exact decodeEmbedding?_encodeEmbedding v

/-! ## Bytes that are left over -/

/-- The bytes of whole words are read. -/
theorem exists_decodeEmbedding? {bytes : List UInt8} (h : 4 ∣ bytes.length) :
    ∃ v, decodeEmbedding? bytes = some v := by
  induction bytes using decodeEmbedding?.induct with
  | case1 => exact ⟨[], rfl⟩
  | case2 a b c d rest ih =>
    have hrest : 4 ∣ rest.length := by
      simp only [List.length_cons] at h
      omega
    obtain ⟨v, hv⟩ := ih hrest
    rw [decodeEmbedding?, hv]
    exact ⟨_, rfl⟩
  | case3 bytes hnil hfour =>
    -- one, two or three bytes are left over
    match bytes, h with
    | [], _ => exact absurd rfl hnil
    | [_], h | [_, _], h | [_, _, _], h => simp at h
    | a :: b :: c :: d :: rest, _ => exact absurd rfl (hfour a b c d rest)

/-- Bytes are not read exactly if some are left over. -/
theorem decodeEmbedding?_eq_none_iff {bytes : List UInt8} :
    decodeEmbedding? bytes = none ↔ ¬4 ∣ bytes.length := by
  constructor
  · intro hnone hdvd
    obtain ⟨v, hv⟩ := exists_decodeEmbedding? hdvd
    rw [hv] at hnone
    cases hnone
  · intro hleft
    rw [Option.eq_none_iff_forall_ne_some]
    intro v hv
    rw [← decodeEmbedding?_eq_some_iff.1 hv, length_encodeEmbedding] at hleft
    exact hleft (Nat.dvd_mul_right 4 _)

/-- The error of a row whose embedding has bytes left over. -/
def leftoverError (bytes : List UInt8) : Error :=
  .storage (.malformedState embeddingKey
    ("blob length " ++ toString bytes.length ++ " is not a multiple of 4"))

/-- A row with a good time stamp is refused exactly for bytes that are left over. -/
theorem EventRow.event_eq_error_iff {row : EventRow} {bytes : List UInt8} {time : Instant}
    (hblob : row.embedding = .blob bytes) (htime : Stamp.strict? row.createdAt = some time) :
    row.event = .error (leftoverError bytes) ↔ ¬4 ∣ bytes.length := by
  rw [← decodeEmbedding?_eq_none_iff]
  simp only [event, hblob, htime]
  cases decodeEmbedding? bytes with
  | none => exact iff_of_true rfl rfl
  | some v => exact iff_of_false (fun h => nomatch h) (fun h => nomatch h)

/-- Reading and writing embeddings are inverse to each other. The bytes of an embedding are read as
this embedding, bit for bit. Bytes are refused exactly if their number is not a multiple of four; a
row of the event table is then refused for this reason. All others are the bytes of the embedding as
which they are read. -/
theorem embedding_bytes (v : List Single) (bytes : List UInt8) :
    decodeEmbedding? (encodeEmbedding v) = some v ∧
    (decodeEmbedding? bytes = none ↔ ¬4 ∣ bytes.length) ∧
    (4 ∣ bytes.length → ∃ w, decodeEmbedding? bytes = some w ∧ encodeEmbedding w = bytes) ∧
    ∀ (row : EventRow) (time : Instant), row.embedding = .blob bytes →
      Stamp.strict? row.createdAt = some time →
      (row.event = .error (leftoverError bytes) ↔ ¬4 ∣ bytes.length) := by
  refine ⟨decodeEmbedding?_encodeEmbedding v, decodeEmbedding?_eq_none_iff, ?back, ?row⟩
  case back =>
    intro hdvd
    obtain ⟨w, hw⟩ := exists_decodeEmbedding? hdvd
    exact ⟨w, hw, decodeEmbedding?_eq_some_iff.1 hw⟩
  case row => exact fun row time => EventRow.event_eq_error_iff

/-- Two numbers that are not equal to themselves, one of them with all bits set, and a row whose
bytes are cut off. -/
theorem embedding_bytes_nan :
    let v : List Single := [⟨0x7FC00001⟩, ⟨0xFFFFFFFF⟩]
    let bytes : List UInt8 := [0x01, 0x00, 0xC0, 0x7F, 0xFF, 0xFF, 0xFF, 0xFF]
    let row : EventRow := ⟨1, "2026-01-02T00:00:00.000000Z", "de-DE", "text", .blob (bytes.take 7)⟩
    decodeEmbedding? (encodeEmbedding v) = some v ∧ 4 ∣ bytes.length ∧
      (∃ w, decodeEmbedding? bytes = some w ∧ encodeEmbedding w = bytes) ∧
      row.event = .error (leftoverError (bytes.take 7)) := by
  intro v bytes row
  obtain ⟨hread, -, hback, -⟩ := embedding_bytes v bytes
  obtain ⟨-, -, -, hrow⟩ := embedding_bytes v (bytes.take 7)
  have htime : Stamp.strict? row.createdAt = some ⟨1767312000, 0⟩ := by decide +kernel
  exact ⟨hread, by decide, hback (by decide), (hrow row _ rfl htime).2 (by decide)⟩

end Audience
