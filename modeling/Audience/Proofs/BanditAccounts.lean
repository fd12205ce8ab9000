import Audience.Proofs.AlikeStores
import Audience.Proofs.SharedArms
import Audience.Proofs.WholeNumbers

/-! # The accounts of the arms

Feedback comes in over time, between choices of segments and changes of the eligible ones. Each
verdict on an ad decodes all arms, changes one of them and encodes all again. The arms that are
known afterwards are those of the segments with a verdict. Their pulls count the verdicts and their
sums of rewards count the clicks, so the order of the feedback does not matter. For the sums there
have to be fewer clicks than `Double.wholeLimit`: from there on the stored form of a sum is read as
another number.

* **`BanditStep`** — what is asked of a bandit model, and **`BanditStep.afterAll`**, a run of steps.
* **`Arms.Tally a fs`** — arms that account for feedback.
* **`Running.Accounts.process`** — what one feedback does to the accounts, and
  **`Running.Accounts.afterAll`**, what a run does.
* **`arms_after_run`** — the arms after any run, in any order.
* **`reward_sum_beyond_limit`** — a run whose sum of rewards is not the number of its clicks. -/

namespace Audience

/-! ## Runs -/

/-- What is asked of a bandit model. -/
inductive BanditStep where
  | feedback (f : Feedback)
  | setEligible (segments : List Segment)
  | select (epsilon : Double) (g : Rng)

namespace BanditStep

/-- The model and its store after a step. -/
def after (r : Running BanditModel Store) : BanditStep → Running BanditModel Store
  | .feedback f => (BanditModel.process Store.arms f r).state
  | .setEligible segments => (Models.alone (BanditModel.setEligible segments) r).state
  | .select epsilon g =>
    (Op.onStore (BanditModel.select Store.arms r.model epsilon g) r).state

/-- The model and its store after steps one after another. -/
def afterAll (r : Running BanditModel Store) (steps : List BanditStep) :
    Running BanditModel Store :=
  steps.foldl after r

/-- The feedback of a step. -/
def feedback? : BanditStep → Option Feedback
  | .feedback f => some f
  | _ => none

/-- All feedback of some steps, in order. -/
def feedbacks (steps : List BanditStep) : List Feedback := steps.filterMap feedback?

end BanditStep

/-! ## Accounts -/

namespace Feedback

/-- Feedback is a verdict on the ads of a segment: a click or a dismissal under a usable name. -/
def isVerdictOn (segment : Segment) (f : Feedback) : Bool :=
  f.segment == segment && Segment.isUsable f.segment
    && (f.event == .clicked || f.event == .dismissed)

/-- Feedback is a click on an ad of a segment with a usable name. -/
def isClickOn (segment : Segment) (f : Feedback) : Bool :=
  f.segment == segment && Segment.isUsable f.segment && f.event == .clicked

/-- Feedback without a reward is no verdict. -/
theorem isVerdictOn_of_error {f : Feedback} {e : Error} (h : BanditModel.rewardOf f = .error e)
    (segment : Segment) : f.isVerdictOn segment = false ∧ f.isClickOn segment = false := by
  rw [BanditModel.rewardOf] at h
  cases husable : Segment.isUsable f.segment with
  | false => simp [isVerdictOn, isClickOn, husable]
  | true =>
    simp only [husable, Bool.not_true, Bool.false_eq_true, if_false] at h
    cases hevent : f.event with
    | served => simp [isVerdictOn, isClickOn, hevent]
    | viewed => simp [isVerdictOn, isClickOn, hevent]
    | clicked =>
      rw [hevent] at h
      cases h
    | dismissed =>
      rw [hevent] at h
      cases h

/-- Feedback with a reward is a verdict on its own segment, and a click exactly if the reward is
one. -/
theorem isVerdictOn_of_ok {f : Feedback} {reward : Double} (h : BanditModel.rewardOf f = .ok reward)
    (segment : Segment) : f.isVerdictOn segment = (f.segment == segment) ∧
      (f.event = .clicked ∧ reward = .one ∧ f.isClickOn segment = (f.segment == segment) ∨
        f.event = .dismissed ∧ reward = .zero ∧ f.isClickOn segment = false) := by
  obtain ⟨husable, hreward⟩ := BanditModel.rewardOf_eq_ok h
  cases hevent : f.event with
  | served | viewed =>
    rw [hevent] at hreward
    cases hreward
  | clicked =>
    rw [hevent] at hreward
    cases hreward
    simp [isVerdictOn, isClickOn, husable, hevent]
  | dismissed =>
    rw [hevent] at hreward
    cases hreward
    simp [isVerdictOn, isClickOn, husable, hevent]

end Feedback

namespace Arms

variable {a : Arms} {fs : List Feedback}

/-- The sum of the rewards of a segment; a segment without an arm has none. -/
def rewards (a : Arms) (s : Segment) : Double := ((a.get? s).getD .fresh).rewardSum

/-- One more reward is added to the sum of its segment. -/
theorem rewards_record (a : Arms) (s : Segment) (reward : Double) (s' : Segment) :
    (a.record s reward).rewards s'
      = if s' = s then (a.rewards s').add reward else a.rewards s' := by
  rw [rewards, rewards, record, Dict.get?_insert]
  by_cases hs : s' = s
  · subst hs
    rw [if_pos rfl, if_pos rfl]
    rfl
  · rw [if_neg hs, if_neg hs]

/-- A sum is read back as what its stored form is read as. -/
theorem rewards_reread {s : Segment} {sum : Double}
    (hread : Json.double? (Json.ofDouble (a.rewards s)) = some sum) : a.reread.rewards s = sum := by
  rw [rewards] at hread
  rw [rewards, reread, Dict.get?_mapValues]
  cases hget : a.get? s with
  | none =>
    -- no arm is stored, and zero is read as zero
    have hzero : Json.double? (Json.ofDouble .zero) = some .zero := by decide +kernel
    rw [hget] at hread
    exact Option.some.inj (hzero.symm.trans hread)
  | some arm =>
    rw [hget] at hread
    have harm : Arm.ofJson? arm.toJson = some ⟨arm.pulls, sum⟩ := Arm.ofJson?_toJson_of_read hread
    show arm.reread.rewardSum = sum
    rw [Arm.reread, harm]
    rfl

/-- Reading back neither adds nor loses an arm. -/
theorem isSome_get?_reread (a : Arms) (s : Segment) :
    (a.reread.get? s).isSome = (a.get? s).isSome := by
  rw [reread, Dict.get?_mapValues, Option.isSome_map]

/-- A reward makes an arm for its segment and no other. -/
theorem isSome_get?_record (a : Arms) (s : Segment) (reward : Double) (s' : Segment) :
    ((a.record s reward).get? s').isSome = (s == s' || (a.get? s').isSome) := by
  rw [record, Dict.get?_insert]
  by_cases hs : s' = s
  · simp [hs]
  · simp [hs, Ne.symm hs]

/-- Arms account for feedback: the segments with a verdict have arms, the pulls count the verdicts,
and the rewards add up to the number of clicks below the limit. -/
structure Tally (a : Arms) (fs : List Feedback) : Prop where
  known : ∀ s, (a.get? s).isSome = true ↔ 0 < fs.countP (Feedback.isVerdictOn s)
  pulls : ∀ s, a.pulls s = .ofNat (fs.countP (Feedback.isVerdictOn s))
  rewards : ∀ s, fs.countP (Feedback.isClickOn s) < Double.wholeLimit →
    a.rewards s = .ofNat (fs.countP (Feedback.isClickOn s))

/-- No arms account for no feedback. -/
theorem tally_empty : Tally .empty [] where
  known s := by simp
  pulls s := rfl
  rewards s _ := by
    show Double.zero = .ofNat 0
    decide +kernel

/-- Feedback without a reward needs no account. -/
theorem Tally.skip (h : a.Tally fs) {f : Feedback}
    (hf : ∀ s, f.isVerdictOn s = false ∧ f.isClickOn s = false) : a.Tally (fs ++ [f]) where
  known s := by simpa [List.countP_append, hf s] using h.known s
  pulls s := by simpa [List.countP_append, hf s] using h.pulls s
  rewards s := by simpa [List.countP_append, hf s] using h.rewards s

/-- The reward of feedback is accounted for when the arms are read back. -/
theorem Tally.record (h : a.Tally fs) (hfinite : a.IsFinite) {f : Feedback} {reward : Double}
    (hreward : BanditModel.rewardOf f = .ok reward) :
    (a.record f.segment reward).reread.Tally (fs ++ [f]) := by
  have hsaved : (a.record f.segment reward).IsFinite :=
    hfinite.record f.segment (BanditModel.rewardOf_eq_ok hreward).2
  constructor
  · intro s
    obtain ⟨hverdict, -⟩ := Feedback.isVerdictOn_of_ok hreward s
    rw [isSome_get?_reread, isSome_get?_record, List.countP_append, List.countP_singleton, hverdict,
      Bool.or_eq_true, h.known]
    by_cases hs : f.segment = s
    · simp [hs]
    · simp [hs]
  · intro s
    obtain ⟨hverdict, -⟩ := Feedback.isVerdictOn_of_ok hreward s
    rw [hsaved.pulls_reread, pulls_record, List.countP_append, List.countP_singleton, hverdict,
      h.pulls]
    by_cases hs : s = f.segment
    · simp [hs]
    · simp [hs, Ne.symm hs]
  · intro s hlimit
    obtain ⟨-, hclick⟩ := Feedback.isVerdictOn_of_ok hreward s
    have hread := Double.read_ofNat hlimit
    rw [List.countP_append, List.countP_singleton] at hlimit hread ⊢
    have hold := h.rewards s (by omega)
    have hsmall : fs.countP (Feedback.isClickOn s) < 0x20000000000000 := by
      rw [Double.wholeLimit] at hlimit
      omega
    suffices hsum : (a.record f.segment reward).rewards s = .ofNat (fs.countP (Feedback.isClickOn s)
        + if f.isClickOn s = true then 1 else 0) from rewards_reread (by rw [hsum, hread])
    rw [rewards_record]
    rcases hclick with ⟨-, rfl, hclick⟩ | ⟨-, rfl, hclick⟩
    · by_cases hs : s = f.segment
      · have hself : f.isClickOn s = true := by rw [hclick, hs, beq_self_eq_true]
        rw [if_pos hs, hold, hself, if_pos rfl, Double.add_one_ofNat hsmall]
      · have hother : f.isClickOn s = false := by rw [hclick, beq_false_of_ne (Ne.symm hs)]
        rw [if_neg hs, hold, hother]
        rfl
    · rw [hclick, hold, Double.add_zero_ofNat hsmall]
      simp

/-- The arm of a segment. -/
theorem Tally.arm (h : a.Tally fs) {s : Segment} {arm : Arm} (hget : a.get? s = some arm) :
    arm.pulls = .ofNat (fs.countP (Feedback.isVerdictOn s)) ∧
      (fs.countP (Feedback.isClickOn s) < Double.wholeLimit →
        arm.rewardSum = .ofNat (fs.countP (Feedback.isClickOn s))) := by
  have hpulls := h.pulls s
  have hrewards := h.rewards s
  rw [Arms.pulls, hget] at hpulls
  rw [Arms.rewards, hget] at hrewards
  exact ⟨hpulls, hrewards⟩

/-- The order of the feedback does not matter. -/
theorem Tally.perm {fs' : List Feedback} (h : a.Tally fs) (hperm : fs.Perm fs') : a.Tally fs' where
  known s := hperm.countP_eq (Feedback.isVerdictOn s) ▸ h.known s
  pulls s := hperm.countP_eq (Feedback.isVerdictOn s) ▸ h.pulls s
  rewards s := hperm.countP_eq (Feedback.isClickOn s) ▸ h.rewards s

/-- Arms that account for the same feedback have the same pulls, and the same arms for segments with
fewer clicks than the limit. -/
theorem Tally.get?_eq {a' : Arms} (h : a.Tally fs) (h' : a'.Tally fs) (s : Segment) :
    (a'.get? s).map Arm.pulls = (a.get? s).map Arm.pulls ∧
      (fs.countP (Feedback.isClickOn s) < Double.wholeLimit → a'.get? s = a.get? s) := by
  have hknown : (a'.get? s).isSome = true ↔ (a.get? s).isSome = true :=
    (h'.known s).trans (h.known s).symm
  cases hget : a.get? s with
  | none =>
    have hget' : a'.get? s = none := by simpa [hget] using hknown
    rw [hget']
    exact ⟨rfl, fun _ => rfl⟩
  | some arm =>
    obtain ⟨arm', hget'⟩ : ∃ arm', a'.get? s = some arm' :=
      Option.isSome_iff_exists.1 (hknown.2 (by rw [hget]; rfl))
    obtain ⟨hpulls, hrewards⟩ := h.arm hget
    obtain ⟨hpulls', hrewards'⟩ := h'.arm hget'
    rw [hget', Option.map_some, Option.map_some, hpulls, hpulls']
    refine ⟨rfl, fun hclicks => congrArg some ?_⟩
    obtain ⟨pulls, sum⟩ := arm
    obtain ⟨pulls', sum'⟩ := arm'
    exact congr (congrArg Arm.mk (hpulls'.trans hpulls.symm))
      ((hrewards' hclicks).trans (hrewards hclicks).symm)

end Arms

/-! ## Steps and runs -/

/-- Feedback with a reward is recorded, and the arms are loaded as what their stored form is read
as. -/
theorem Kind.load_process_of_reward {m : BanditModel} {s : Store} {a : Arms} {f : Feedback}
    {reward : Double} (hsound : m.poisoned = false) (hload : (Kind.bandit.load s).result = .ok a)
    (hreward : BanditModel.rewardOf f = .ok reward) :
    ∃ s', (BanditModel.process Store.arms f ⟨m, s⟩).state = ⟨m, s'⟩ ∧
      (Kind.bandit.load s').result = .ok (a.record f.segment reward).reread := by
  have hsaved : (a.record f.segment reward).IsFinite :=
    (isFinite_of_load hload).record f.segment (BanditModel.rewardOf_eq_ok hreward).2
  obtain ⟨⟨rows, hs⟩, -⟩ := (Kind.bandit.load_cases s).2 a hload
  exact ⟨_, state_process_of_load_ok hload (change?_of_reward m hreward).2 hsound,
    load_save hs hsaved.decode_render⟩

/-- Arms that can be loaded account for feedback, and no crash has come in between. -/
def Running.Accounts (r : Running BanditModel Store) (fs : List Feedback) : Prop :=
  r.model.poisoned = false ∧ ∃ a, (BanditModel.arms Store.arms r.store).result = .ok a ∧ a.Tally fs

namespace Running.Accounts

variable {r : Running BanditModel Store} {fs : List Feedback}

/-- Feedback is accounted for. -/
theorem process (h : r.Accounts fs) (f : Feedback) :
    Running.Accounts (BanditModel.process Store.arms f r).state (fs ++ [f]) := by
  obtain ⟨m, s⟩ := r
  obtain ⟨hsound, a, hload, htally⟩ := h
  cases hreward : BanditModel.rewardOf f with
  | error e =>
    have hstate : (BanditModel.process Store.arms f ⟨m, s⟩).state = ⟨m, s⟩ :=
      Kind.state_process_of_rejected (Kind.accepts_of_no_reward m hreward)
    rw [hstate]
    exact ⟨hsound, a, hload, htally.skip (Feedback.isVerdictOn_of_error hreward)⟩
  | ok reward =>
    obtain ⟨s', hstate, hload'⟩ := Kind.load_process_of_reward hsound hload hreward
    rw [hstate]
    exact ⟨hsound, _, hload', htally.record (Kind.isFinite_of_load hload) hreward⟩

/-- Other steps need no account. -/
theorem after (h : r.Accounts fs) (step : BanditStep) :
    (step.after r).Accounts (fs ++ step.feedback?.toList) := by
  cases step with
  | feedback f => exact h.process f
  | setEligible segments =>
    simp only [BanditStep.feedback?, Option.toList_none, List.append_nil]
    exact h
  | select epsilon g =>
    -- choosing only reads
    have hreads : Op.ReadsAlike r.store r.store (BanditModel.arms Store.arms) :=
      .self (Kind.bandit.load_cases r.store).1
    have hstate := (BanditModel.readsAlike_select hreads r.model epsilon g).left
    have hafter : BanditStep.after r (.select epsilon g) = r :=
      congrArg (fun s => { r with store := s }) hstate
    simp only [hafter, BanditStep.feedback?, Option.toList_none, List.append_nil]
    exact h

/-- All feedback of a run is accounted for. -/
theorem afterAll (h : r.Accounts fs) (steps : List BanditStep) :
    (BanditStep.afterAll r steps).Accounts (fs ++ BanditStep.feedbacks steps) := by
  induction steps generalizing r fs with
  | nil =>
    rw [BanditStep.feedbacks, List.filterMap_nil, List.append_nil]
    exact h
  | cons step steps ih =>
    have hrest := ih (h.after step)
    have hfeedbacks : fs ++ BanditStep.feedbacks (step :: steps)
        = fs ++ step.feedback?.toList ++ BanditStep.feedbacks steps := by
      rw [List.append_assoc, BanditStep.feedbacks, List.filterMap_cons]
      cases step.feedback? <;> rfl
    rw [hfeedbacks]
    exact hrest

end Running.Accounts

/-- After any run on a model whose store has no arms, of fewer than `2^53` steps, there is an arm
for exactly the segments with a verdict. Its pulls count the verdicts on the segment. If there are
fewer clicks on it than the limit, its sum of rewards counts them, and no other order of the
feedback makes another arm of it; the pulls are the same in any order. -/
theorem arms_after_run (config : BanditConfig) (s : Store) (steps : List BanditStep)
    (hempty : (BanditModel.arms Store.arms s).result = .ok .empty)
    (hlength : steps.length < 2 ^ 53) :
    ∃ a, (BanditModel.arms Store.arms
        (BanditStep.afterAll ⟨.new config, s⟩ steps).store).result = .ok a ∧
      (∀ segment,
        let verdicts := (BanditStep.feedbacks steps).countP (Feedback.isVerdictOn segment)
        let clicks := (BanditStep.feedbacks steps).countP (Feedback.isClickOn segment)
        ((a.get? segment).isSome = true ↔ 0 < verdicts) ∧
        ∀ arm, a.get? segment = some arm → arm.pulls.toNat = verdicts ∧
          (clicks < Double.wholeLimit → arm.rewardSum = .ofNat clicks)) ∧
      ∀ steps', (BanditStep.feedbacks steps').Perm (BanditStep.feedbacks steps) →
        ∃ a', (BanditModel.arms Store.arms
            (BanditStep.afterAll ⟨.new config, s⟩ steps').store).result = .ok a' ∧
          ∀ segment, (a'.get? segment).map Arm.pulls = (a.get? segment).map Arm.pulls ∧
            ((BanditStep.feedbacks steps).countP (Feedback.isClickOn segment) < Double.wholeLimit →
              a'.get? segment = a.get? segment) := by
  have hstart : Running.Accounts ⟨.new config, s⟩ [] := ⟨rfl, _, hempty, Arms.tally_empty⟩
  obtain ⟨-, a, hload, htally⟩ := hstart.afterAll steps
  rw [List.nil_append] at htally
  refine ⟨a, hload, fun segment => ⟨htally.known segment, fun arm harm => ?_⟩,
    fun steps' hperm => ?_⟩
  · obtain ⟨hpulls, hrewards⟩ := htally.arm harm
    refine ⟨?_, hrewards⟩
    -- there are not so many verdicts that the count would start again
    have hcount : (BanditStep.feedbacks steps).countP (Feedback.isVerdictOn segment) < 2 ^ 53 :=
      Nat.lt_of_le_of_lt (Nat.le_trans List.countP_le_length (List.length_filterMap_le _ _)) hlength
    rw [hpulls, UInt64.toNat_ofNat']
    exact Nat.mod_eq_of_lt (Nat.lt_trans hcount (by decide))
  · obtain ⟨-, a', hload', htally'⟩ := hstart.afterAll steps'
    rw [List.nil_append] at htally'
    exact ⟨a', hload', fun segment => htally.get?_eq (htally'.perm hperm) segment⟩

/-- Two clicks and a dismissal of shoes, with other feedback and steps in between. -/
theorem arms_after_run_shoes :
    let steps : List BanditStep := [.feedback ⟨"shoes", .clicked⟩, .setEligible ["hats"],
      .feedback ⟨" ", .clicked⟩, .feedback ⟨"shoes", .dismissed⟩, .select .zero ⟨[], 7⟩,
      .feedback ⟨"hats", .viewed⟩, .feedback ⟨"shoes", .clicked⟩]
    ∃ a, (BanditModel.arms Store.arms (BanditStep.afterAll
        ⟨.new ⟨true, .zero, [], 1⟩, Store.opened .memory⟩ steps).store).result = .ok a ∧
      a.get? "hats" = none ∧ a.get? "shoes" = some ⟨3, .ofNat 2⟩ := by
  intro steps
  obtain ⟨a, hload, haccounts, -⟩ :=
    arms_after_run ⟨true, .zero, [], 1⟩ (Store.opened .memory) steps rfl (by decide)
  have hverdicts : (BanditStep.feedbacks steps).countP (Feedback.isVerdictOn "shoes") = 3 := by
    decide +kernel
  have hclicks : (BanditStep.feedbacks steps).countP (Feedback.isClickOn "shoes") = 2 := by
    decide +kernel
  have hnone : (BanditStep.feedbacks steps).countP (Feedback.isVerdictOn "hats") = 0 := by
    decide +kernel
  refine ⟨a, hload, ?_, ?_⟩
  · have hhats := (haccounts "hats").1
    rw [hnone] at hhats
    simpa using hhats
  · obtain ⟨hknown, harm⟩ := haccounts "shoes"
    rw [hverdicts] at hknown
    obtain ⟨⟨pulls, sum⟩, hget⟩ := Option.isSome_iff_exists.1 (hknown.2 (by decide))
    obtain ⟨hpulls, hsum⟩ := harm _ hget
    rw [hverdicts] at hpulls
    rw [hclicks] at hsum
    have hword : pulls = 3 := UInt64.toNat_inj.1 hpulls
    rw [hget, hword]
    exact congrArg (fun sum => some (Arm.mk 3 sum)) (hsum (by decide))

/-! ## Beyond the limit -/

/-- The click after `n` others leaves what the stored form of `n + 1` is read as. -/
theorem Running.Accounts.rewards_after_click {r : Running BanditModel Store} {fs : List Feedback}
    (h : r.Accounts fs) {segment : Segment} (husable : Segment.isUsable segment = true) {n : Nat}
    (hclicks : fs.countP (Feedback.isClickOn segment) = n) (hn : n < Double.wholeLimit)
    {sum : Double} (hread : Json.double? (Json.ofDouble (.ofNat (n + 1))) = some sum) :
    ∃ a, (BanditModel.arms Store.arms
        (BanditModel.process Store.arms ⟨segment, .clicked⟩ r).state.store).result = .ok a ∧
      a.rewards segment = sum := by
  obtain ⟨m, s⟩ := r
  obtain ⟨hsound, a, hload, htally⟩ := h
  have hreward : BanditModel.rewardOf ⟨segment, .clicked⟩ = .ok .one := by
    simp [BanditModel.rewardOf, husable, AdEvent.reward?]
  obtain ⟨s', hstate, hload'⟩ := Kind.load_process_of_reward hsound hload hreward
  have hold : a.rewards segment = .ofNat n := by
    rw [← hclicks] at hn ⊢
    exact htally.rewards segment hn
  have hnew : (a.record segment .one).rewards segment = .ofNat (n + 1) := by
    rw [Arms.rewards_record, if_pos rfl, hold, Double.add_one_ofNat (Nat.lt_trans hn (by decide))]
  rw [hstate]
  exact ⟨_, hload', Arms.rewards_reread (by rw [hnew, hread])⟩

/-- A run of `n + 1` clicks on a segment. -/
theorem Running.Accounts.rewards_after_clicks {r : Running BanditModel Store} (h : r.Accounts [])
    {segment : Segment} (husable : Segment.isUsable segment = true) {n : Nat}
    (hn : n < Double.wholeLimit) {sum : Double}
    (hread : Json.double? (Json.ofDouble (.ofNat (n + 1))) = some sum) :
    let clicks := List.replicate (n + 1) (BanditStep.feedback ⟨segment, .clicked⟩)
    (BanditStep.feedbacks clicks).countP (Feedback.isClickOn segment) = n + 1 ∧
      ∃ a, (BanditModel.arms Store.arms (BanditStep.afterAll r clicks).store).result = .ok a ∧
        a.rewards segment = sum := by
  intro clicks
  have hcount (k : Nat) : (BanditStep.feedbacks
      (List.replicate k (.feedback ⟨segment, .clicked⟩))).countP (Feedback.isClickOn segment)
      = k := by
    have hself : BanditStep.feedback? (.feedback ⟨segment, .clicked⟩)
        = some ⟨segment, .clicked⟩ := rfl
    rw [BanditStep.feedbacks, List.filterMap_replicate_of_some hself, List.countP_replicate]
    simp [Feedback.isClickOn, husable]
  have hlast : BanditStep.afterAll r clicks = (BanditModel.process Store.arms ⟨segment, .clicked⟩
      (BanditStep.afterAll r (List.replicate n (.feedback ⟨segment, .clicked⟩)))).state := by
    simp only [clicks, BanditStep.afterAll, List.replicate_succ', List.foldl_append]
    rfl
  rw [hlast]
  exact ⟨hcount (n + 1), (h.afterAll _).rewards_after_click husable (hcount n) hn hread⟩

/-- A run of clicks only, one more than can be accounted for: the sum of the rewards is stored with
all of its digits and read as a number that is a quarter greater. -/
theorem reward_sum_beyond_limit :
    let clicks : List BanditStep := List.replicate 1801439850948199 (.feedback ⟨"shoes", .clicked⟩)
    clicks.length < 2 ^ 53 ∧
      (BanditStep.feedbacks clicks).countP (Feedback.isClickOn "shoes") = 1801439850948199 ∧
      ∃ a arm, (BanditModel.arms Store.arms (BanditStep.afterAll
          ⟨.new ⟨true, .zero, [], 1⟩, Store.opened .memory⟩ clicks).store).result = .ok a ∧
        a.get? "shoes" = some arm ∧ arm.rewardSum ≠ .ofNat 1801439850948199 := by
  intro clicks
  have hstart : Running.Accounts ⟨.new ⟨true, .zero, [], 1⟩, Store.opened .memory⟩ [] :=
    ⟨rfl, _, rfl, Arms.tally_empty⟩
  have hread : Json.double? (Json.ofDouble (.ofNat 1801439850948199))
      = some ⟨0x431999999999999d⟩ := by
    decide +kernel
  have husable : Segment.isUsable "shoes" = true := by decide +kernel
  obtain ⟨hcount, a, hload, hsum⟩ :=
    hstart.rewards_after_clicks husable (n := 1801439850948198) (by decide) hread
  have hlength : clicks.length < 2 ^ 53 := by
    rw [List.length_replicate]
    decide
  rw [Arms.rewards] at hsum
  cases hget : a.get? "shoes" with
  | none =>
    rw [hget] at hsum
    exact absurd hsum (by decide +kernel)
  | some arm =>
    rw [hget, Option.getD_some] at hsum
    refine ⟨hlength, hcount, a, arm, hload, hget, ?_⟩
    rw [hsum]
    decide +kernel

end Audience
