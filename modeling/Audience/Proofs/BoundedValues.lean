import Audience.Proofs.ArmsCodec
import Audience.Proofs.FreshStart
import Audience.Proofs.Isolation
import Audience.Proofs.SignalRuns
import Audience.Proofs.WindowCodec

/-! # Values within their bounds

What a model keeps is bounded by its settings: trails and windows have a greatest length, and the
keys of histories and arms are usable segments. Every signal keeps these bounds, and so does reading
a stored value back.

* **`ListsInBounds cap lists`** — the bounds of the lists of a history.
* **`Kind.IsBounded config stamped k v`** — the bounds of the value of a model.
* **`Kind.isBounded_of_decoded`** — the bounds after a stored value is read.
* **`Call.Edits.isBounded`** — the bounds after a signal. -/

namespace Audience

/-! ## Histories -/

/-- Lists of entries within the bounds of a history: none is empty or longer than a number, each is
newest first, and each is the list of a usable segment. -/
def ListsInBounds (cap : Nat) (lists : Dict (List Entry)) : Prop :=
  ∀ s es, lists.get? s = some es →
    es ≠ [] ∧ NewestFirst es ∧ es.length ≤ cap ∧ Segment.isUsable s = true

/-- A trail has as many entries as the list that it is made of. -/
theorem Trail.length_of_ofList? {es : List Entry} {t : Trail} (h : ofList? es = some t) :
    t.entries.length = es.length := by
  rw [ofList?] at h
  split at h
  · cases h
  · cases h
    exact List.length_mergeSort es

namespace History

variable {h : History} {cap : Nat}

/-- The lists of a history. -/
def lists (h : History) : Dict (List Entry) := h.trails.mapValues Trail.entries

/-- The trails of a history are no longer than a number, and their segments are usable. -/
def IsBounded (cap : Nat) (h : History) : Prop :=
  ∀ s t, h.trails.get? s = some t → t.entries.length ≤ cap ∧ Segment.isUsable s = true

/-- The lists of a bounded history are within its bounds. -/
theorem IsBounded.listsInBounds (hbound : h.IsBounded cap) : ListsInBounds cap h.lists := by
  intro s es hes
  rw [lists, Dict.get?_mapValues, Option.map_eq_some_iff] at hes
  obtain ⟨t, ht, rfl⟩ := hes
  exact ⟨t.nonEmpty, t.newestFirst, hbound s t ht⟩

/-- One more entry for a usable segment keeps the bounds. -/
theorem IsBounded.append (hbound : h.IsBounded cap) (hcap : 1 ≤ cap) {s : Segment}
    (hs : Segment.isUsable s = true) (e : Entry) : (h.append s e cap).IsBounded cap := by
  intro s' t ht
  rw [History.append, Dict.get?_insert] at ht
  split at ht
  next heq =>
    subst heq
    refine ⟨?_, hs⟩
    cases htrail : h.trails.get? s' with
    | none =>
      rw [htrail] at ht
      cases ht
      exact hcap
    | some old =>
      rw [htrail] at ht
      cases ht
      have hcut : max cap 1 = cap := Nat.max_eq_left hcap
      simp only [Trail.insert, hcut]
      exact List.length_take_le _ _
  next => exact hbound s' t ht

/-- A signal for usable segments keeps the bounds. -/
theorem IsBounded.record (hbound : h.IsBounded cap) (hcap : 1 ≤ cap) {signal : Signal}
    (hsegments : ∀ s ∈ signal.segments, Segment.isUsable s = true) :
    (h.record signal cap).IsBounded cap := by
  rw [History.record]
  generalize signal.segments = segments at hsegments
  induction segments generalizing h with
  | nil => exact hbound
  | cons s rest ih =>
    have hs := hsegments s List.mem_cons_self
    exact ih (hbound.append hcap hs signal.entry) fun s' hs' =>
      hsegments s' (List.mem_cons_of_mem _ hs')

/-- A bounded history is read back with the same bounds. -/
theorem IsBounded.of_decoded (hbound : h.IsBounded cap) {h' : History}
    (hdecoded : (Json.parse? h.toJson.render).bind ofJson? = some h') : h'.IsBounded cap := by
  rw [Json.parse?_render h.isSpelled_toJson, Option.bind_some, ofJson?_eq] at hdecoded
  obtain ⟨lists, hlists, rfl⟩ := Option.map_eq_some_iff.1 hdecoded
  intro s t' ht'
  -- the trail was made of a stored list, and that one was written for a trail of the history
  obtain ⟨es, hes, htrail⟩ := Dict.exists_of_get?_filterMapValues ht'
  obtain ⟨t, ht, hlength⟩ := exists_trail_of_lists? hlists (Dict.get?_eq_some_iff.1 hes)
  rw [Trail.length_of_ofList? htrail, hlength]
  exact hbound s t ht

end History

/-! ## Arms -/

namespace Arms

/-- The arms are those of usable segments, and all sums of rewards are finite. -/
def IsBounded (arms : Arms) : Prop :=
  IsFinite arms ∧ ∀ s ∈ arms.keys, Segment.isUsable s = true

/-- Stored arms are read back with the same bounds. -/
theorem IsBounded.decode_render {arms : Arms} (h : arms.IsBounded) :
    ∃ arms', (Json.parse? arms.toJson.render).bind ofJson? = some arms' ∧
      Arms.IsBounded arms' := by
  have hdecoded := h.1.decode_render
  refine ⟨_, hdecoded, isFinite_of_decoded hdecoded, ?_⟩
  rw [reread, Dict.keys_mapValues]
  exact h.2

end Arms

/-! ## All models -/

namespace Kind

variable {config : Config} {stamped : Prop} {k : Kind}

/-- The bounds of the value of a model. If `stamped` is the case, all times can be stamped too. -/
def IsBounded (config : Config) (stamped : Prop) : (k : Kind) → k.Value → Prop
  | .intent, h => History.IsBounded config.intent.trailCap h ∧ (stamped → History.IsStampable h)
  | .page, w => (Window.pages w).length ≤ config.page.windowSize
  | .bandit, arms => Arms.IsBounded arms

/-- A fresh value is within the bounds. -/
theorem isBounded_fresh (config : Config) (stamped : Prop) (k : Kind) :
    k.IsBounded config stamped k.fresh := by
  cases k with
  | intent =>
    refine ⟨?_, fun _ => History.EachTime.empty⟩
    intro s t ht
    cases ht
  | page => exact Nat.zero_le _
  | bandit =>
    refine ⟨Arms.isFinite_empty, ?_⟩
    intro s hs
    cases hs

/-- A value within the bounds is read back within the bounds. -/
theorem isBounded_of_decoded {v v' : k.Value} (h : k.IsBounded config stamped v)
    (hdecoded : Store.decoded k.ofJson? (k.toJson v).render = some v') :
    k.IsBounded config stamped v' := by
  cases k with
  | intent => exact ⟨h.1.of_decoded hdecoded, fun _ => History.isStampable_of_decoded hdecoded⟩
  | page => exact (Window.length_of_decoded hdecoded).trans_le h
  | bandit =>
    obtain ⟨arms, harms, hbound⟩ := Arms.IsBounded.decode_render h
    obtain rfl : arms = v' := Option.some.inj (harms.symm.trans hdecoded)
    exact hbound

/-- A cell holds nothing or the text of a value within the bounds. -/
def HoldsBounded (config : Config) (stamped : Prop) (k : Kind) (c : Option Cell) : Prop :=
  ∀ cell, c = some cell → ∃ v, cell = .text (k.toJson v).render ∧ k.IsBounded config stamped v

/-- The value of such a cell is within the bounds. -/
theorem HoldsBounded.valueOf {c : Option Cell} (h : k.HoldsBounded config stamped c) :
    k.IsBounded config stamped (k.valueOf c) := by
  cases c with
  | none => exact isBounded_fresh config stamped k
  | some cell =>
    obtain ⟨v, rfl, hv⟩ := h cell rfl
    rw [Kind.valueOf]
    cases hdecoded : Store.decoded k.ofJson? (k.toJson v).render with
    | none => exact isBounded_fresh config stamped k
    | some v' => exact isBounded_of_decoded hv hdecoded

end Kind

/-! ## Signals -/

/-- Settings without an objection let every trail and every window keep something. -/
theorem Config.positive_of_objection? {config : Config} (h : config.objection? = none) :
    1 ≤ config.intent.trailCap ∧ 1 ≤ config.page.windowSize := by
  simp only [objection?] at h
  repeat' split at h
  all_goals first | omega | cases h

/-- The signal of a visit is of the time of the visit. -/
theorem IntentResource.time_of_signalOf? {r : IntentResource} {now : Instant} {address : String}
    {s : Signal} (h : r.signalOf? now address = some s) : s.time = now := by
  simp only [signalOf?, Option.bind_eq_bind, Option.bind_eq_some_iff] at h
  obtain ⟨url, _, h⟩ := h
  split at h
  · rw [urlSignal?] at h
    split at h
    · cases h
      rfl
    · obtain ⟨query, _, h⟩ := Option.bind_eq_some_iff.1 h
      obtain ⟨keywords, _, rfl⟩ := Option.map_eq_some_iff.1 h
      rfl
  · cases h

namespace Call

variable {config : Config} {stamped : Prop} {e : Engine} {x : Edit}

/-- The time of a visit can be stamped. -/
def IsStamped : Call → Prop
  | .visit _ now => now.IsStampable
  | _ => True

/-- What a signal does to the value of a model keeps the bounds. -/
theorem Edits.isBounded {c : Call} (h : Edits e c x) (hconfig : config.objection? = none)
    (he : e.IsTidy config) (hstamped : stamped → c.IsStamped) {v : x.kind.Value}
    (hv : x.kind.IsBounded config stamped v) : x.kind.IsBounded config stamped (x.change v) := by
  obtain ⟨hcap, hsize⟩ := Config.positive_of_objection? hconfig
  cases h with
  | @visit address now r s hsignal hvalid =>
    have hmodel : e.models.intent.config = config.intent := congrArg IntentModel.config he.intent
    have hsegments := objection?_eq_none_iff.1 hvalid
    rw [Signal.isValid, Bool.and_eq_true, List.all_eq_true] at hsegments
    have htime : stamped → s.time.IsStampable := by
      intro h
      rw [IntentResource.time_of_signalOf? hsignal]
      exact hstamped h
    simp only [Kind.IsBounded, hmodel]
    exact ⟨hv.1.record hcap hsegments.2, fun h => (hv.2 h).record (htime h) _⟩
  | page text now p =>
    have hmodel : e.models.page.config = config.page := congrArg PageModel.config he.page
    have hcut : max config.page.windowSize 1 = config.page.windowSize := Nat.max_eq_left hsize
    simp only [Kind.IsBounded, hmodel, Window.push, hcut]
    exact List.length_take_le _ _
  | @feedback f reward hreward =>
    obtain ⟨husable, hevent⟩ := BanditModel.rewardOf_eq_ok hreward
    refine ⟨hv.1.record f.segment hevent, ?_⟩
    intro s hs
    rcases Dict.mem_keys_insert hs with rfl | hs
    · exact husable
    · exact hv.2 s hs

end Call

end Audience
