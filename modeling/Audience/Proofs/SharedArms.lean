import Audience.Proofs.ArmsCodec
import Audience.Proofs.SharedModel

/-! # No update is lost

Requests that several threads make to one model do what they do one at a time. For the arms of the
bandit this can be counted: each reward that is taken up adds one pull to its segment, and the pulls
are still there when the arms are loaded for the next one.

* **`Kind.processAll_filter`** — rejected requests leave nothing behind.
* **`Kind.pulls_processAll`** — the pulls after feedback that is processed one at a time.
* **`stored_after_threads`** — what is stored when all threads have come to their ends. -/

namespace Audience

namespace Kind

variable {k : Kind} {m : k.Model} {s : Store}

/-! ## Requests that leave nothing behind -/

/-- A rejected request leaves nothing behind. -/
theorem state_process_of_rejected {r : k.Request} (h : k.accepts m r = false) :
    (k.process r ⟨m, s⟩).state = ⟨m, s⟩ := by
  rw [state_process, Option.not_isSome_iff_eq_none.1 (Bool.eq_false_iff.1 h), storeAfter_none]

/-- Rejected requests may be left out. -/
theorem processAll_filter (rs : List k.Request) (m : k.Model) (s : Store) :
    k.processAll (rs.filter (k.accepts m)) ⟨m, s⟩ = k.processAll rs ⟨m, s⟩ := by
  induction rs generalizing s with
  | nil => rfl
  | cons r rs ih =>
    cases haccepts : k.accepts m r with
    | true =>
      -- the store may have changed, but the model rejects the same requests as before
      rw [List.filter_cons_of_pos haccepts, processAll, processAll, List.foldl_cons,
        List.foldl_cons, state_process]
      exact ih _
    | false =>
      rw [List.filter_cons_of_neg (by simp [haccepts]), ih, processAll, processAll,
        List.foldl_cons, state_process_of_rejected haccepts]

/-- Nothing is left behind when the lock is poisoned or the value cannot be loaded. -/
theorem processAll_of_blocked (rs : List k.Request)
    (h : k.hasPoisonedLock m = true ∨ ∃ e, (k.load s).result = .error e) :
    k.processAll rs ⟨m, s⟩ = ⟨m, s⟩ := by
  have hprocess (r : k.Request) : (k.process r ⟨m, s⟩).state = ⟨m, s⟩ := by
    rcases h with hpoisoned | ⟨e, hload⟩
    · rw [state_process, hpoisoned, storeAfter_true]
    · exact state_process_of_load_error hload
  induction rs with
  | nil => rfl
  | cons r rs ih =>
    rw [processAll, List.foldl_cons, hprocess]
    exact ih

/-! ## Pulls -/

/-- Loaded arms have finite sums. -/
theorem isFinite_of_load {a : Arms} (h : (Kind.bandit.load s).result = .ok a) : a.IsFinite := by
  have hdecoded : ∀ text (a : Arms), Store.decoded Kind.bandit.ofJson? text = some a → a.IsFinite :=
    fun _ _ => Arms.isFinite_of_decoded
  exact property_of_load (k := .bandit) (P := Arms.IsFinite) Arms.isFinite_empty hdecoded h

/-- A value that is saved is loaded as what its text decodes to. -/
theorem load_save {v v' : k.Value} {rows : Dict Cell} (hs : s.Keeps rows)
    (hdecoded : Store.decoded k.ofJson? (k.toJson v).render = some v') :
    (k.load (k.save v s).state).result = .ok v' := by
  rw [save_eq hs, load_eq (hs.withRows _), Dict.get?_insert_self]
  simp only [Store.settled, hdecoded, Option.getD_some]

/-- Feedback that is not rejected carries a reward, which is recorded. -/
theorem exists_reward {m : BanditModel} {f : Feedback} (h : Kind.bandit.accepts m f = true) :
    ∃ reward, f.event.reward? = some reward ∧
      Kind.bandit.change? m f = some fun a => Arms.record a f.segment reward := by
  cases hreward : BanditModel.rewardOf f with
  | error e =>
    rw [accepts_of_no_reward m hreward] at h
    cases h
  | ok reward =>
    exact ⟨reward, (BanditModel.rewardOf_eq_ok hreward).2, (change?_of_reward m hreward).2⟩

/-- Feedback that is not rejected, and no other, is answered without an error. -/
theorem result_process_iff {m : BanditModel} {a : Arms} (hsound : m.poisoned = false)
    (hload : (Kind.bandit.load s).result = .ok a) (f : Feedback) :
    (BanditModel.process Store.arms f ⟨m, s⟩).result = .ok () ↔
      Kind.bandit.accepts m f = true := by
  cases hreward : BanditModel.rewardOf f with
  | error e =>
    rw [accepts_of_no_reward m hreward, BanditModel.process, hreward]
    constructor
    · intro h
      cases h
    · intro h
      cases h
  | ok reward =>
    obtain ⟨haccepts, hchange⟩ := change?_of_reward m hreward
    rw [haccepts]
    refine ⟨fun _ => rfl, fun _ => ?_⟩
    obtain ⟨⟨rows, hs⟩, -⟩ := (Kind.bandit.load_cases s).2 a hload
    have hchanges := Kind.bandit.changesBy_process m f
    rw [hchange] at hchanges
    exact hchanges.result_of_load hsound hs hload

/-- Whether feedback is taken up as a pull of a segment. -/
def isPullOf (m : BanditModel) (segment : Segment) (f : Feedback) : Bool :=
  Kind.bandit.accepts m f && f.segment == segment

/-- Feedback that is taken up adds a pull to its segment. -/
theorem pulls_process {m : BanditModel} {a : Arms} (hsound : m.poisoned = false)
    (hload : (Kind.bandit.load s).result = .ok a) (f : Feedback) :
    ∃ s' a', (Kind.bandit.process f ⟨m, s⟩).state = ⟨m, s'⟩ ∧
      (Kind.bandit.load s').result = .ok a' ∧ ∀ segment,
        a'.pulls segment = a.pulls segment + if isPullOf m segment f then 1 else 0 := by
  cases haccepts : Kind.bandit.accepts m f with
  | false =>
    refine ⟨s, a, state_process_of_rejected haccepts, hload, fun segment => ?_⟩
    simp [isPullOf, haccepts]
  | true =>
    obtain ⟨reward, hreward, hchange⟩ := exists_reward haccepts
    -- the sums stay finite, so the arms that are saved can be loaded for the next feedback
    have hfinite := (isFinite_of_load hload).record f.segment hreward
    obtain ⟨⟨rows, hs⟩, _⟩ := (Kind.bandit.load_cases s).2 a hload
    refine ⟨_, (a.record f.segment reward).reread,
      state_process_of_load_ok hload hchange hsound, load_save hs hfinite.decode_render,
      fun segment => ?_⟩
    rw [hfinite.pulls_reread, Arms.pulls_record]
    by_cases hsegment : segment = f.segment
    · simp [isPullOf, haccepts, hsegment]
    · simp [isPullOf, haccepts, hsegment, Ne.symm hsegment]

/-- The pulls after feedback that is processed one at a time. -/
theorem pulls_processAll {m : BanditModel} {a : Arms} (hsound : m.poisoned = false)
    (hload : (Kind.bandit.load s).result = .ok a) (fs : List Feedback) :
    ∃ s' a', Kind.bandit.processAll fs ⟨m, s⟩ = ⟨m, s'⟩ ∧ (Kind.bandit.load s').result = .ok a' ∧
      ∀ segment, a'.pulls segment
        = a.pulls segment + UInt64.ofNat (fs.countP (isPullOf m segment)) := by
  induction fs generalizing s a with
  | nil =>
    refine ⟨s, a, rfl, hload, fun segment => ?_⟩
    rw [List.countP_nil]
    exact (UInt64.add_zero _).symm
  | cons f fs ih =>
    obtain ⟨s', a', hstate, hload', hpulls'⟩ := pulls_process hsound hload f
    obtain ⟨s'', a'', hstate', hload'', hpulls''⟩ := ih hload'
    refine ⟨s'', a'', ?_, hload'', fun segment => ?_⟩
    · rw [← hstate', ← hstate]
      rfl
    · rw [hpulls'', hpulls', List.countP_cons, UInt64.add_assoc]
      congr 1
      rw [UInt64.ofNat_add, UInt64.add_comm]
      split <;> rfl

end Kind

/-! ## Threads -/

/-- As many of the requests have taken the lock as there are, where none of them is rejected. -/
theorem Sharing.countP_order {k : Kind} (m : k.Model) (s : Store)
    (requests : List (List k.Request)) (turns : List Nat) (hsound : k.hasPoisonedLock m = false)
    (hdone : ((new m s requests).run turns).isDone = true) {p : k.Request → Bool}
    (hp : ∀ r, p r = true → k.accepts m r = true) :
    ((new m s requests).run turns).order.countP p = requests.flatten.countP p := by
  rw [(order_perm m s requests turns hsound hdone).countP_eq, List.countP_filter]
  refine List.countP_congr fun r _ => ?_
  rw [Bool.and_eq_true]
  exact ⟨fun h => h.1, fun h => ⟨h, hp r h⟩⟩

/-- When all threads have come to their ends, what is stored is what the requests leave behind when
they are processed one at a time, in the order in which they took the lock, wherever the rejected
ones come in between; and all that are not rejected have taken it, unless it is poisoned. A lock
that is poisoned, or a value that cannot be loaded, keeps everything as it was. The pulls of every
segment have grown by the number of its rewards. -/
theorem stored_after_threads :
    (∀ (k : Kind) (m : k.Model) (s : Store) (requests : List (List k.Request)) (turns : List Nat),
      let w := (Sharing.new m s requests).run turns
      w.isDone = true →
        k.processAll w.order ⟨m, s⟩ = ⟨m, w.store⟩ ∧
        (∀ rs, rs.filter (k.accepts m) = w.order → k.processAll rs ⟨m, s⟩ = ⟨m, w.store⟩) ∧
        (k.hasPoisonedLock m = false → w.order.Perm (requests.flatten.filter (k.accepts m))) ∧
        (k.hasPoisonedLock m = true ∨ (∃ e, (k.load s).result = .error e) → w.store = s)) ∧
    (∀ (m : BanditModel) (s : Store) (requests : List (List Feedback)) (turns : List Nat)
        (a : Arms),
      let w := (Sharing.new (k := .bandit) m s requests).run turns
      w.isDone = true → m.poisoned = false → (BanditModel.arms Store.arms s).result = .ok a →
        (∀ f, (BanditModel.process Store.arms f ⟨m, s⟩).result = .ok () ↔
          Kind.bandit.accepts m f = true) ∧
        ∃ a', (BanditModel.arms Store.arms w.store).result = .ok a' ∧ ∀ segment,
          let n := requests.flatten.countP (Kind.isPullOf m segment)
          a'.pulls segment = a.pulls segment + UInt64.ofNat n ∧
          ((a.pulls segment).toNat + n < 2 ^ 64 →
            (a'.pulls segment).toNat = (a.pulls segment).toNat + n)) := by
  constructor
  · intro k m s requests turns w hdone
    have horder : k.processAll w.order ⟨m, s⟩ = ⟨m, w.store⟩ :=
      Sharing.processAll_order m s requests turns hdone
    refine ⟨horder, fun rs hrs => ?_, fun hsound => ?_, fun hblocked => ?_⟩
    · rw [← Kind.processAll_filter, hrs, horder]
    · exact Sharing.order_perm m s requests turns hsound hdone
    · rw [Kind.processAll_of_blocked w.order hblocked] at horder
      exact (congrArg Running.store horder).symm
  · intro m s requests turns a w hdone hsound hload
    have horder : Kind.bandit.processAll w.order ⟨m, s⟩ = ⟨m, w.store⟩ :=
      Sharing.processAll_order (k := .bandit) m s requests turns hdone
    obtain ⟨s', a', hstate, hload', hpulls⟩ := Kind.pulls_processAll hsound hload w.order
    -- one at a time, the feedback leaves behind what the threads have stored
    have hstore : w.store = s' := congrArg Running.store (horder.symm.trans hstate)
    refine ⟨Kind.result_process_iff hsound hload, a', ?_, fun segment => ?_⟩
    · rw [hstore]
      exact hload'
    · -- the order does not matter for how many there are
      have hcount : w.order.countP (Kind.isPullOf m segment)
          = requests.flatten.countP (Kind.isPullOf m segment) := by
        refine Sharing.countP_order (k := .bandit) m s requests turns hsound hdone fun f hf => ?_
        exact (Bool.and_eq_true_iff.1 hf).1
      rw [hpulls, hcount]
      refine ⟨rfl, fun hlt => ?_⟩
      rw [UInt64.toNat_add, UInt64.toNat_ofNat', Nat.add_mod_mod, Nat.mod_eq_of_lt hlt]

/-- Two threads with three verdicts on one segment and one event that is no verdict. The second
thread comes to the lock while the first one holds it, and loads what the first one has saved. -/
theorem stored_after_threads_shoes :
    let m := BanditModel.new ⟨true, .zero, [], 1⟩
    let s := Store.opened .memory
    let requests : List (List Kind.bandit.Request) :=
      [[⟨"shoes", .clicked⟩, ⟨"shoes", .served⟩], [⟨"shoes", .clicked⟩, ⟨"shoes", .dismissed⟩]]
    let turns := [0, 1, 0, 1, 0, 1, 0, 0, 1, 0, 1, 1, 1, 1, 1, 1, 1, 1]
    let w := (Sharing.new (k := .bandit) m s requests).run turns
    Kind.bandit.processAll requests.flatten ⟨m, s⟩ = ⟨m, w.store⟩ ∧
    ∃ a, (BanditModel.arms Store.arms w.store).result = .ok a ∧ (a.pulls "shoes").toNat = 3 := by
  intro m s requests turns w
  have hdone : w.isDone = true := by decide +kernel
  obtain ⟨hserial, harms⟩ := stored_after_threads
  have horder : requests.flatten.filter (Kind.bandit.accepts m) = w.order := by
    decide +kernel
  constructor
  · exact (hserial .bandit m s requests turns hdone).2.1 _ horder
  · obtain ⟨_, a, hload, hpulls⟩ := harms m s requests turns .empty hdone rfl rfl
    exact ⟨a, hload, (hpulls "shoes").2 (by decide)⟩

end Audience
