import Audience.Bandit.Arm
import Audience.Proofs.HistoryCodec
import Audience.Proofs.NumberText

/-! # Reading stored arms back

The stored text of arms decodes to arms again, as long as all sums of rewards are finite: infinities
have no written form. Nothing that is decoded has an infinite sum, and no reward makes one. The
counts of pulls are read back as they are; a sum may be off by its last digit.

* **`Arms.IsFinite arms`** — no sum of rewards is infinite.
* **`Arms.reread arms`** — what the stored form of arms is read as.
* **`Arms.IsFinite.decode_render`** — the stored text of arms decodes.
* **`Arms.isFinite_of_decoded`** — what is decoded can be stored again.
* **`Arms.pulls_record`** — a reward adds one pull to its segment. -/

namespace Audience

namespace Arm

/-- The sum of the rewards is finite. -/
def IsFinite (a : Arm) : Prop := a.rewardSum.isFinite = true

/-- What the stored form of an arm is read as. -/
def reread (a : Arm) : Arm := (ofJson? a.toJson).getD a

/-- An arm is read with the same pulls and what its sum is read as. -/
theorem ofJson?_toJson_of_read {a : Arm} {y : Double}
    (h : Json.double? (Json.ofDouble a.rewardSum) = some y) :
    ofJson? a.toJson = some ⟨a.pulls, y⟩ := by
  have hrecord : a.toJson.record? ["pulls", "reward_sum"]
      = some [some (.ofNat a.pulls.toNat), some (.ofDouble a.rewardSum)] := by
    rw [toJson]
    simp [Json.record?, List.countP_cons, List.lookup_cons]
  have hpulls : (Json.ofNat a.pulls.toNat).nat? Json.unsignedLimit = some a.pulls.toNat :=
    Json.nat?_ofNat (Nat.le_of_lt_succ a.pulls.toNat_lt)
  rw [ofJson?, hrecord]
  simp [hpulls, h]

/-- An arm with a finite sum can be spelled out, and it is read with the same pulls and a finite
sum. -/
theorem IsFinite.ofJson?_toJson {a : Arm} (h : a.IsFinite) : a.toJson.IsSpelled ∧
    ∃ y : Double, y.isFinite = true ∧ ofJson? a.toJson = some ⟨a.pulls, y⟩ := by
  obtain ⟨n, y, hnumeral, hspelled, hy, hfinite⟩ := Double.exists_numeral? h
  have hsum : Json.ofDouble a.rewardSum = .number n := by rw [Json.ofDouble, hnumeral]
  constructor
  · refine .object fun m hm => ?_
    rcases List.mem_cons.1 hm with rfl | hm
    · exact .number (Numeral.isSpelled_ofNat _)
    · rw [List.mem_singleton.1 hm, hsum]
      exact .number hspelled
  · have hread : Json.double? (Json.ofDouble a.rewardSum) = some y := by rw [hsum, Json.double?, hy]
    exact ⟨y, hfinite, ofJson?_toJson_of_read hread⟩

/-- An arm with a finite sum is read. -/
theorem IsFinite.reread_spec {a : Arm} (h : a.IsFinite) :
    ofJson? a.toJson = some a.reread ∧ a.reread.IsFinite ∧ a.reread.pulls = a.pulls := by
  obtain ⟨_, y, hfinite, hread⟩ := h.ofJson?_toJson
  rw [reread, hread]
  exact ⟨rfl, hfinite, rfl⟩

/-- An arm that is read has a finite sum. -/
theorem isFinite_of_ofJson? {v : Json} {a : Arm} (h : ofJson? v = some a) : a.IsFinite := by
  simp only [ofJson?, Option.bind_eq_bind, Option.bind_eq_some_iff] at h
  obtain ⟨fields, _, h⟩ := h
  split at h
  next pulls sum _ =>
    simp only [Option.bind_eq_some_iff, Option.pure_def, Option.some.injEq] at h
    obtain ⟨_, _, y, hy, rfl⟩ := h
    cases hsum : sum with
    | number n =>
      rw [hsum] at hy
      exact Numeral.isFinite_of_double? hy
    | null | bool | text | array | object | unreadable =>
      rw [hsum] at hy
      cases hy
  next => cases h

end Arm

namespace Arms

/-- All sums of rewards are finite. -/
def IsFinite (arms : Arms) : Prop := ∀ e ∈ arms.entries, e.2.IsFinite

/-- The pulls of a segment; a segment without an arm has none. -/
def pulls (arms : Arms) (s : Segment) : UInt64 := ((arms.get? s).getD .fresh).pulls

/-- What the stored form of arms is read as. -/
def reread (arms : Arms) : Arms := arms.mapValues Arm.reread

/-- No arms have no infinite sum. -/
theorem isFinite_empty : IsFinite (Dict.empty : Arms) := fun _ he => nomatch he

/-- The stored form of arms is read. -/
theorem IsFinite.ofJson?_toJson {arms : Arms} (h : arms.IsFinite) :
    ofJson? arms.toJson = some arms.reread := by
  have hentry : ∀ e ∈ arms.entries, (Arm.ofJson? e.2.toJson).map (fun v => (e.1, v))
      = some (e.1, e.2.reread) := by
    intro e he
    rw [(h e he).reread_spec.1, Option.map_some]
  -- segments are written in ascending order, so each is put back behind the ones before it
  have hdict : Dict.ofList (arms.entries.map (fun e => (e.1, e.2.reread))) = arms.reread :=
    Dict.ofList_entries arms.reread
  rw [ofJson?, toJson, Json.dict?, mapM_map_some hentry, Option.map_some, hdict]

/-- The stored text of arms decodes. -/
theorem IsFinite.decode_render {arms : Arms} (h : arms.IsFinite) :
    (Json.parse? arms.toJson.render).bind ofJson? = some arms.reread := by
  have hspelled : arms.toJson.IsSpelled := by
    refine .object fun m hm => ?_
    obtain ⟨e, he, rfl⟩ := List.mem_map.1 hm
    exact (h e he).ofJson?_toJson.1
  rw [Json.parse?_render hspelled, Option.bind_some, h.ofJson?_toJson]

/-- What is read has finite sums. -/
theorem isFinite_of_ofJson? {v : Json} {arms : Arms} (h : ofJson? v = some arms) :
    arms.IsFinite := by
  intro e he
  cases v with
  | object members =>
    rw [ofJson?, Json.dict?, Option.map_eq_some_iff] at h
    obtain ⟨pairs, hpairs, rfl⟩ := h
    obtain ⟨m, _, hm⟩ := exists_of_mem_mapM hpairs (Dict.mem_of_mem_ofList he)
    rw [Option.map_eq_some_iff] at hm
    obtain ⟨a, ha, rfl⟩ := hm
    exact Arm.isFinite_of_ofJson? ha
  | null | bool | number | text | array | unreadable => cases h

/-- What a text decodes to has finite sums. -/
theorem isFinite_of_decoded {text : String} {arms : Arms}
    (h : (Json.parse? text).bind ofJson? = some arms) : arms.IsFinite := by
  obtain ⟨v, _, hread⟩ := Option.bind_eq_some_iff.1 h
  exact isFinite_of_ofJson? hread

/-- Reading arms back keeps all pulls. -/
theorem IsFinite.pulls_reread {arms : Arms} (h : arms.IsFinite) (s : Segment) :
    arms.reread.pulls s = arms.pulls s := by
  rw [pulls, pulls, reread, Dict.get?_mapValues]
  cases hget : arms.get? s with
  | none => rfl
  | some a =>
    have hmem := Dict.get?_eq_some_iff.1 hget
    exact (h _ hmem).reread_spec.2.2

/-- One more reward adds one pull to its segment and keeps those of the others. -/
theorem pulls_record (arms : Arms) (s : Segment) (reward : Double) (s' : Segment) :
    (arms.record s reward).pulls s' = if s' = s then arms.pulls s' + 1 else arms.pulls s' := by
  rw [pulls, pulls, record, Dict.get?_insert]
  by_cases hs : s' = s
  · subst hs
    rw [if_pos rfl, if_pos rfl]
    rfl
  · rw [if_neg hs, if_neg hs]

/-- The reward of an event keeps all sums finite. -/
theorem IsFinite.record {arms : Arms} (h : arms.IsFinite) (s : Segment) {event : AdEvent}
    {reward : Double} (hreward : event.reward? = some reward) :
    (arms.record s reward).IsFinite := by
  have hold : ((arms.get? s).getD .fresh).IsFinite := by
    cases hget : arms.get? s with
    | none =>
      show Double.isFinite .zero = true
      decide
    | some a => exact h _ (Dict.get?_eq_some_iff.1 hget)
  have hnew : (((arms.get? s).getD .fresh).record reward).IsFinite := by
    cases event with
    | clicked =>
      cases hreward
      exact Double.isFinite_add_one hold
    | dismissed =>
      cases hreward
      exact Double.isFinite_add_zero hold
    | served | viewed => cases hreward
  -- only the arm of the segment is another one
  intro e he
  rcases Dict.mem_put he with rfl | he
  · exact hnew
  · exact h e he

end Arms

end Audience
