import Audience.Proofs.StoredValues

/-! # Requests that change a value

A model looks at a request before it takes its lock. Either it rejects the request, and then nothing
has been reached, or all that is left to do is one update of the stored value under the lock.

* **`IntentModel.change?`**, **`PageModel.change?`**, **`BanditModel.change?`** — how a request
  changes the value of a model, and **`Kind.change?`** for all of them.
* **`Kind.ChangesBy k isPoisoned m x c`** — an operation that changes the value of a model in this
  way, with what follows for its result and for what it leaves behind.
* **`Kind.changesBy_process`** — every request to a model does this.
* **`Kind.state_process`** — what a request leaves behind. -/

namespace Audience

/-! ## Changes -/

namespace Kind

variable {μ : Type} {k : Kind} {isPoisoned : μ → Bool} {m : μ} {x : Op (Running μ Store) Unit}
  {c : Option (k.Value → k.Value)}

/-- The store after a change of the value, which is none if the request is rejected. -/
def storeAfter (k : Kind) (poisoned : Bool) (c : Option (k.Value → k.Value)) (s : Store) : Store :=
  match c with
  | some f => if poisoned then s else ((Edit.mk k f).update s).state
  | none => s

/-- Nothing is changed under a lock that is poisoned. -/
@[simp] theorem storeAfter_true (c : Option (k.Value → k.Value)) (s : Store) :
    k.storeAfter true c s = s := by
  cases c <;> rfl

/-- A request that is rejected changes nothing. -/
@[simp] theorem storeAfter_none (poisoned : Bool) (s : Store) :
    k.storeAfter poisoned none s = s := rfl

/-- A change is an update. -/
@[simp] theorem storeAfter_some (f : k.Value → k.Value) (s : Store) :
    k.storeAfter false (some f) s = ((Edit.mk k f).update s).state := rfl

/-- An operation on a model and its store that is rejected, or that changes the value of the model
by one update under its lock. -/
inductive ChangesBy (k : Kind) (isPoisoned : μ → Bool) (m : μ) (x : Op (Running μ Store) Unit) :
    Option (k.Value → k.Value) → Prop
  /-- Nothing is reached. -/
  | rejected (result : Except Failure Unit) (hresult : result ≠ .error .crash)
    (h : ∀ s, (x ⟨m, s⟩).result = result ∧ (x ⟨m, s⟩).state = ⟨m, s⟩) :
    ChangesBy k isPoisoned m x none
  /-- The value is updated. -/
  | updated {f : k.Value → k.Value} (poison : μ → μ) (level : LogLevel) (message : String)
    (h : ∀ s, x ⟨m, s⟩ = (do
      Op.underLock isPoisoned poison (Edit.mk k f).update
      Op.log level message) ⟨m, s⟩) : ChangesBy k isPoisoned m x (some f)

namespace ChangesBy

/-- What is left behind. -/
theorem state (h : k.ChangesBy isPoisoned m x c) (s : Store) :
    (x ⟨m, s⟩).state = ⟨m, k.storeAfter (isPoisoned m) c s⟩ := by
  cases h with
  | rejected _ _ h => exact (h s).2
  | updated _ _ _ h =>
    rw [h, Op.state_bind_of_keeps fun _ _ => rfl, Op.state_underLock (Edit.neverCrashes_update _)]
    cases isPoisoned m <;> rfl

/-- Nothing is cut off. -/
theorem result_ne_crash (h : k.ChangesBy isPoisoned m x c) (s : Store) :
    (x ⟨m, s⟩).result ≠ .error .crash := by
  cases h with
  | rejected result hresult h =>
    rw [(h s).1]
    exact hresult
  | @updated f poison level message h =>
    have hnever : Op.NeverCrashes (do
        Op.underLock isPoisoned poison (Edit.mk k f).update
        Op.log level message) :=
      .bind (.underLock (Edit.neverCrashes_update _)) fun _ => .log _ _
    rw [h]
    exact hnever ⟨m, s⟩

/-- The result is that of the update, if the lock is not poisoned. -/
theorem result {f : k.Value → k.Value} (h : k.ChangesBy isPoisoned m x (some f))
    (hlock : isPoisoned m = false) (s : Store) :
    (x ⟨m, s⟩).result = ((Edit.mk k f).update s).result := by
  cases h with
  | updated _ _ _ h =>
    rw [h, Op.result_bind_of_value fun _ _ => rfl, Op.underLock]
    simp only [hlock, Bool.false_eq_true, if_false]
    split <;> cases ((Edit.mk k f).update s).result <;> rfl

/-- What is left behind where the value can be loaded and the lock is not poisoned. -/
theorem state_of_load {f : k.Value → k.Value} (h : k.ChangesBy isPoisoned m x (some f))
    (hlock : isPoisoned m = false) {s : Store} {rows : Dict Cell} {v : k.Value} (hs : s.Keeps rows)
    (hload : (k.load s).result = .ok v) : (x ⟨m, s⟩).state
      = ⟨m, s.withRows (rows.insert k.key (.text (k.toJson (f v)).render))⟩ := by
  rw [h.state, hlock, storeAfter_some, (update_of_load hs hload f).2]

/-- Where the value can be loaded and the lock is not poisoned, the request is done. -/
theorem result_of_load {f : k.Value → k.Value} (h : k.ChangesBy isPoisoned m x (some f))
    (hlock : isPoisoned m = false) {s : Store} {rows : Dict Cell} {v : k.Value} (hs : s.Keeps rows)
    (hload : (k.load s).result = .ok v) : (x ⟨m, s⟩).result = .ok () := by
  rw [h.result hlock, (update_of_load hs hload f).1]

end ChangesBy

end Kind

/-! ## The three models -/

namespace IntentModel

/-- How a signal changes the history, unless there is an objection to it. -/
def change? (m : IntentModel) (signal : Signal) : Option (Kind.intent.Value → Kind.intent.Value) :=
  if (objection? signal).isSome then none
  else some fun h => History.record h signal m.config.trailCap

/-- A signal changes the history. -/
theorem changesBy_buy (m : IntentModel) (signal : Signal) :
    Kind.intent.ChangesBy poisoned m (buy Store.history signal) (m.change? signal) := by
  rw [change?, buy]
  cases objection? signal with
  | some e => exact .rejected (.error (.error e)) (fun h => nomatch h) fun _ => ⟨rfl, rfl⟩
  | none => exact .updated _ _ _ fun _ => rfl

end IntentModel

namespace PageModel

variable {ρ : Type} [Classifier ρ]

/-- The page that a text is recorded as, unless the text is skipped or refused. -/
def page? (m : PageModel ρ) (text : String) : Option Page :=
  if allBlank text then none
  else m.classifier.content.bind fun c => (Classifier.classify c text).toOption

/-- How a page text changes the window, unless the text is skipped or refused. -/
def change? (m : PageModel ρ) (text : String) : Option (Kind.page.Value → Kind.page.Value) :=
  (m.page? text).map fun p w => Window.push w p m.config.windowSize

/-- A text that is recorded as no page changes nothing. -/
theorem change?_eq_none {m : PageModel ρ} {text : String} (h : m.page? text = none) :
    m.change? text = none := Option.map_eq_none_iff.2 h

/-- A page text changes the window. -/
theorem changesBy_process (m : PageModel ρ) (text : String) :
    Kind.page.ChangesBy poisoned m (process Store.window text) (m.change? text) := by
  rw [change?, page?, process]
  by_cases hblank : allBlank text = true
  · rw [if_pos hblank, if_pos hblank]
    exact .rejected (.ok ()) (fun h => nomatch h) fun _ => ⟨rfl, rfl⟩
  · rw [if_neg hblank, if_neg hblank]
    cases hcontent : m.classifier.content with
    | none =>
      refine .rejected (.ok ()) (fun h => nomatch h) fun s => ?_
      rw [Op.bind_ofModel, hcontent]
      exact ⟨rfl, rfl⟩
    | some c =>
      rw [Option.bind_some]
      cases hclassified : Classifier.classify c text with
      | error e =>
        refine .rejected (.error (.error e)) (fun h => nomatch h) fun s => ?_
        simp only [Op.bind_ofModel, hcontent, hclassified]
        exact ⟨rfl, rfl⟩
      | ok p =>
        refine .updated (fun m => { m with poisoned := true }) .debug "page probabilities recorded"
          fun s => ?_
        simp only [Op.bind_ofModel, hcontent, hclassified]
        rfl

/-- A text that is recorded as no page leaves nothing behind. -/
theorem state_process_of_page?_eq_none {m : PageModel ρ} {text : String} (h : m.page? text = none)
    (s : Store) : (process Store.window text ⟨m, s⟩).state = ⟨m, s⟩ := by
  rw [(m.changesBy_process text).state, change?_eq_none h, Kind.storeAfter_none]

/-- A page is written in front of the window that was loaded. -/
theorem state_process_of_page? {m : PageModel ρ} {text : String} {p : Page} {s : Store}
    {rows : Dict Cell} {w : Window} (h : m.page? text = some p) (hlock : m.poisoned = false)
    (hs : s.Keeps rows) (hload : (Kind.page.load s).result = .ok w) :
    (process Store.window text ⟨m, s⟩).state = ⟨m, s.withRows (rows.insert Store.windowKey
      (.text (w.push p m.config.windowSize).toJson.render))⟩ := by
  have hchange : m.change? text = some fun w => Window.push w p m.config.windowSize := by
    rw [change?, h]
    rfl
  have hchanges := m.changesBy_process text
  rw [hchange] at hchanges
  exact hchanges.state_of_load hlock hs hload

end PageModel

namespace BanditModel

/-- How feedback changes the arms, unless it carries no reward. -/
def change? (f : Feedback) : Option (Kind.bandit.Value → Kind.bandit.Value) :=
  (rewardOf f).toOption.map fun reward arms => Arms.record arms f.segment reward

/-- Feedback without a reward changes nothing. -/
theorem change?_eq_none {f : Feedback} (h : (rewardOf f).toOption = none) : change? f = none :=
  Option.map_eq_none_iff.2 h

/-- Feedback changes the arms. -/
theorem changesBy_process (m : BanditModel) (f : Feedback) :
    Kind.bandit.ChangesBy poisoned m (process Store.arms f) (change? f) := by
  rw [change?, process]
  cases rewardOf f with
  | error e =>
    exact .rejected (.error (.error e)) (fun h => nomatch h) fun _ => ⟨rfl, rfl⟩
  | ok reward => exact .updated _ _ _ fun _ => rfl

/-- Feedback with a reward is on a usable segment, and the reward is that of its event. -/
theorem rewardOf_eq_ok {f : Feedback} {reward : Double} (h : rewardOf f = .ok reward) :
    Segment.isUsable f.segment = true ∧ f.event.reward? = some reward := by
  rw [rewardOf] at h
  split at h
  · cases h
  next husable =>
    split at h
    next heq =>
      cases h
      exact ⟨by simpa using husable, heq⟩
    next => cases h

end BanditModel

/-! ## Any of the models -/

namespace Kind

/-- The model that keeps the value. -/
def Model : Kind → Type
  | .intent => IntentModel
  | .page => PageModel LinearClassifier
  | .bandit => BanditModel

/-- What a model is asked to take up. -/
def Request : Kind → Type
  | .intent => Signal
  | .page => String
  | .bandit => Feedback

/-- Requests can be compared. -/
instance decidableEqRequest : (k : Kind) → DecidableEq k.Request
  | .intent => inferInstanceAs (DecidableEq Signal)
  | .page => inferInstanceAs (DecidableEq String)
  | .bandit => inferInstanceAs (DecidableEq Feedback)

/-- The operation of the model. -/
def process : (k : Kind) → k.Request → Op (Running k.Model Store) Unit
  | .intent => IntentModel.buy Store.history
  | .page => PageModel.process Store.window
  | .bandit => BanditModel.process Store.arms

/-- Whether a crash has poisoned the lock of the model. -/
def hasPoisonedLock : (k : Kind) → k.Model → Bool
  | .intent => IntentModel.poisoned
  | .page => PageModel.poisoned
  | .bandit => BanditModel.poisoned

/-- How a request changes the value, unless it is rejected before the lock is taken. -/
def change? : (k : Kind) → k.Model → k.Request → Option (k.Value → k.Value)
  | .intent, m, signal => IntentModel.change? m signal
  | .page, m, text => PageModel.change? m text
  | .bandit, _, f => BanditModel.change? f

/-- Whether a request is not rejected. -/
def accepts (k : Kind) (m : k.Model) (r : k.Request) : Bool := (k.change? m r).isSome

/-- A request changes the value of its model. -/
theorem changesBy_process (k : Kind) (m : k.Model) (r : k.Request) :
    k.ChangesBy k.hasPoisonedLock m (k.process r) (k.change? m r) := by
  cases k with
  | intent => exact IntentModel.changesBy_buy m r
  | page => exact PageModel.changesBy_process m r
  | bandit => exact BanditModel.changesBy_process m r

/-- What a request leaves behind. -/
theorem state_process (k : Kind) (r : k.Request) (m : k.Model) (s : Store) :
    (k.process r ⟨m, s⟩).state = ⟨m, k.storeAfter (k.hasPoisonedLock m) (k.change? m r) s⟩ :=
  (k.changesBy_process m r).state s

/-- No request is cut off. -/
theorem neverCrashes_process (k : Kind) (r : k.Request) : (k.process r).NeverCrashes :=
  fun running => (k.changesBy_process running.model r).result_ne_crash running.store

/-- Feedback with a reward is recorded. -/
theorem change?_of_reward (m : BanditModel) {f : Feedback} {reward : Double}
    (h : BanditModel.rewardOf f = .ok reward) : Kind.bandit.accepts m f = true ∧
      Kind.bandit.change? m f = some fun a => Arms.record a f.segment reward := by
  have hchange : Kind.bandit.change? m f = some fun a => Arms.record a f.segment reward := by
    simp only [change?, BanditModel.change?, h]
    rfl
  exact ⟨congrArg Option.isSome hchange, hchange⟩

/-- Feedback without a reward is rejected. -/
theorem accepts_of_no_reward (m : BanditModel) {f : Feedback} {e : Error}
    (h : BanditModel.rewardOf f = .error e) : Kind.bandit.accepts m f = false := by
  have hchange : Kind.bandit.change? m f = none := by
    simp only [change?, BanditModel.change?, h]
    rfl
  exact congrArg Option.isSome hchange

end Kind

end Audience
