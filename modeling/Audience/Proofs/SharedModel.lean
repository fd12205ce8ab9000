import Audience.Proofs.Lists
import Audience.Proofs.LockedUpdate
import Audience.Proofs.ModelRequests

/-! # One model for several threads

Several threads share one model and its store, and each of them makes some requests, one after
another. A request that is not rejected is one update under the lock of the model, and the steps of
different threads come in any order. The lock makes an update look like one step: what is stored in
the end is what the requests leave behind when they are processed one at a time, in the order in
which they took the lock.

* **`Kind.processAll rs`** — what requests do to a model that has its store to itself.
* **`Thread.next`** — one step of a thread, and **`Sharing.run`**, the steps of all threads.
* **`Thread.Moves`** — what one step of a thread can do.
* **`Sharing.Serial`** — what is stored is what the requests up to some point leave behind.
* **`Sharing.processAll_order`** — what is stored when all threads have come to their ends. -/

namespace Audience

namespace Kind

/-- Requests one after another on a model that has its store to itself; an error of one does not
keep the others from being processed. -/
def processAll (k : Kind) (rs : List k.Request) (running : Running k.Model Store) :
    Running k.Model Store :=
  rs.foldl (fun running r => (k.process r running).state) running

/-- One more request. -/
theorem processAll_concat (k : Kind) (rs : List k.Request) (r : k.Request)
    (running : Running k.Model Store) :
    k.processAll (rs ++ [r]) running = (k.process r (k.processAll rs running)).state := by
  rw [processAll, List.foldl_append]
  rfl

end Kind

/-! ## Threads -/

/-- How far a thread has come with a request. -/
inductive Stage (k : Kind) where
  /-- No request has been begun. -/
  | idle
  /-- The value is updated. -/
  | updating (r : k.Request) (change : k.Value → k.Value) (u : Update k)

/-- A thread: the requests that it has not begun, and how far it has come with the one that it
has. -/
structure Thread (k : Kind) where
  todo : List k.Request
  stage : Stage k

/-- What a step does to the lock. -/
inductive LockUse (k : Kind) where
  | none
  /-- The lock is taken for a request. -/
  | acquire (r : k.Request)
  | release

namespace Stage

variable {k : Kind}

/-- The stage of a thread whose update has come so far, or has come to its end. -/
def ofUpdate (r : k.Request) (change : k.Value → k.Value) : Option (Update k) → Stage k
  | some u => .updating r change u
  | none => .idle

/-- Whether the lock is held. -/
def holds : Stage k → Bool
  | .idle => false
  | .updating _ _ u => u.holds

/-- What has been done to the lock between two stages. -/
def lockUse (before : Stage k) : Stage k → LockUse k
  | .updating r _ u => if u.holds && !before.holds then .acquire r else .none
  | .idle => if before.holds then .release else .none

end Stage

namespace Thread

variable {k : Kind}

/-- One step of a thread. -/
def next (m : k.Model) (isFree : Bool) (s : Store) (t : Thread k) : Store × Thread k :=
  match t.stage with
  | .idle =>
    match t.todo with
    | [] => (s, t)
    | r :: rest =>
      match k.change? m r with
      | some change => (s, ⟨rest, .updating r change .waiting⟩)
      | none => (s, ⟨rest, .idle⟩)
  | .updating r change u =>
    let (s, u') := u.next change isFree (k.hasPoisonedLock m) s
    (s, ⟨t.todo, .ofUpdate r change u'⟩)

/-- Whether a thread has come to its end. -/
def isDone (t : Thread k) : Bool :=
  match t.todo, t.stage with
  | [], .idle => true
  | _, _ => false

/-- The requests of a thread that are going to take the lock. -/
def pending (m : k.Model) (t : Thread k) : List k.Request :=
  match t.stage with
  | .updating r _ .waiting => r :: t.todo.filter (k.accepts m)
  | _ => t.todo.filter (k.accepts m)

end Thread

/-- A model with its store, and the threads that share it. -/
structure Sharing (k : Kind) where
  model : k.Model
  store : Store
  /-- The thread that holds the lock. -/
  holder : Option Nat
  threads : List (Thread k)
  /-- The requests for which the lock has been taken, in that order. -/
  order : List k.Request

namespace Sharing

variable {k : Kind}

/-- Threads that have not begun. -/
def new (m : k.Model) (s : Store) (requests : List (List k.Request)) : Sharing k :=
  ⟨m, s, none, requests.map (fun rs => ⟨rs, .idle⟩), []⟩

/-- A thread has come further, and has used the lock or not. -/
def moved (w : Sharing k) (i : Nat) (s : Store) (t : Thread k) : LockUse k → Sharing k
  | .none => { w with store := s, threads := w.threads.set i t }
  | .acquire r =>
    { w with
      store := s
      holder := some i
      threads := w.threads.set i t
      order := w.order ++ [r] }
  | .release => { w with store := s, holder := none, threads := w.threads.set i t }

/-- One step of a thread. -/
def step (w : Sharing k) (i : Nat) : Sharing k :=
  match w.threads[i]? with
  | none => w
  | some t =>
    let (s, t') := t.next w.model w.holder.isNone w.store
    w.moved i s t' (t.stage.lockUse t'.stage)

/-- Steps in the order of a schedule. -/
def run (w : Sharing k) (turns : List Nat) : Sharing k := turns.foldl step w

/-- Whether all threads have come to their ends. -/
def isDone (w : Sharing k) : Bool := w.threads.all Thread.isDone

end Sharing

/-! ## What a step can do -/

namespace Thread

variable {k : Kind} {m : k.Model} {isFree : Bool} {s : Store}

/-- What one step of a thread can do. -/
inductive Moves (m : k.Model) (isFree : Bool) (s : Store) : Thread k → Store → Thread k → Prop
  | rest : Moves m isFree s ⟨[], .idle⟩ s ⟨[], .idle⟩
  | reject {r : k.Request} {todo : List k.Request} (hchange : k.change? m r = none) :
    Moves m isFree s ⟨r :: todo, .idle⟩ s ⟨todo, .idle⟩
  | start {r : k.Request} {todo : List k.Request} {f : k.Value → k.Value}
    (hchange : k.change? m r = some f) :
    Moves m isFree s ⟨r :: todo, .idle⟩ s ⟨todo, .updating r f .waiting⟩
  | update {r : k.Request} {todo : List k.Request} {f : k.Value → k.Value} {u : Update k}
    {s' : Store} {u' : Option (Update k)}
    (hmove : Update.Moves f isFree (k.hasPoisonedLock m) s u s' u') :
    Moves m isFree s ⟨todo, .updating r f u⟩ s' ⟨todo, .ofUpdate r f u'⟩

/-- Every step of a thread does one of these. -/
theorem moves_next (t : Thread k) :
    Moves m isFree s t (t.next m isFree s).1 (t.next m isFree s).2 := by
  obtain ⟨todo, stage⟩ := t
  cases stage with
  | idle =>
    cases todo with
    | nil => exact .rest
    | cons r rest =>
      simp only [next]
      cases hchange : k.change? m r with
      | none => exact .reject hchange
      | some f => exact .start hchange
  | updating r f u => exact .update (Update.moves_next f isFree (k.hasPoisonedLock m) s u)

end Thread

/-! ## What is stored -/

namespace Kind

variable {k : Kind} {m : k.Model} {s : Store} {r : k.Request} {f : k.Value → k.Value}

/-- A request whose value cannot be loaded leaves the store as it was. -/
theorem state_process_of_load_error {e : Failure} (hload : (k.load s).result = .error e) :
    (k.process r ⟨m, s⟩).state = ⟨m, s⟩ := by
  rw [state_process]
  cases k.change? m r with
  | none => rfl
  | some f =>
    cases k.hasPoisonedLock m with
    | true => rfl
    | false => rw [storeAfter_some, (update_of_load_error hload f).2]

/-- A request whose value can be loaded saves the changed value. -/
theorem state_process_of_load_ok {v : k.Value} (hload : (k.load s).result = .ok v)
    (hchange : k.change? m r = some f) (hsound : k.hasPoisonedLock m = false) :
    (k.process r ⟨m, s⟩).state = ⟨m, (k.save (f v) s).state⟩ := by
  obtain ⟨⟨rows, hs⟩, -⟩ := (k.load_cases s).2 v hload
  have hchanges := k.changesBy_process m r
  rw [hchange] at hchanges
  rw [hchanges.state_of_load hsound hs hload, save_eq hs]

end Kind

namespace Sharing

variable {k : Kind} {w : Sharing k} {start : Store}

/-- The lock has been taken for a request, and what is stored is what the requests before it leave
behind. -/
def IsTurnOf (w : Sharing k) (start : Store) (r : k.Request) : Prop :=
  k.hasPoisonedLock w.model = false ∧ ∃ before, w.order = before ++ [r] ∧
    k.processAll before ⟨w.model, start⟩ = ⟨w.model, w.store⟩

/-- What is stored is what all requests leave behind for which the lock has been taken. -/
def IsSettled (w : Sharing k) (start : Store) : Prop :=
  k.processAll w.order ⟨w.model, start⟩ = ⟨w.model, w.store⟩

/-- What is stored when a thread has come so far. -/
def Fits (w : Sharing k) (start : Store) : Stage k → Prop
  | .idle => True
  | .updating r f .waiting => k.change? w.model r = some f
  | .updating r f .locked => k.change? w.model r = some f ∧ w.IsTurnOf start r
  | .updating r f (.copied v) =>
    k.change? w.model r = some f ∧ w.IsTurnOf start r ∧ (k.load w.store).result = .ok v
  | .updating _ _ .stored => w.IsSettled start

/-- The lock is held by one thread at most, and what is stored fits to how far it has come. -/
structure Serial (w : Sharing k) (start : Store) : Prop where
  holds : ∀ (i : Nat) (t : Thread k), w.threads[i]? = some t → t.stage.holds = true →
    w.holder = some i
  held : ∀ i, w.holder = some i → ∃ t, w.threads[i]? = some t ∧ t.stage.holds = true
  fits : ∀ (i : Nat) (t : Thread k), w.threads[i]? = some t → w.Fits start t.stage
  free : w.holder = none → w.IsSettled start

/-- Threads that have not begun. -/
theorem serial_new (m : k.Model) (s : Store) (requests : List (List k.Request)) :
    (new m s requests).Serial s := by
  have hidle : ∀ (i : Nat) (t : Thread k), (new m s requests).threads[i]? = some t →
      t.stage = .idle := by
    intro i t ht
    obtain ⟨rs, _, rfl⟩ := List.mem_map.1 (List.mem_of_getElem? ht)
    rfl
  refine ⟨fun i t ht hholds => ?_, fun i h => ?_, fun i t ht => ?_, fun _ => rfl⟩
  · rw [hidle i t ht] at hholds
    cases hholds
  · cases h
  · rw [hidle i t ht]
    trivial

/-- What is stored does not matter to a thread that does not hold the lock. -/
theorem Fits.of_not_holds {w' : Sharing k} {stage : Stage k} (h : w.Fits start stage)
    (hholds : stage.holds = false) (hmodel : w'.model = w.model) : w'.Fits start stage := by
  cases stage with
  | idle => trivial
  | updating r f u =>
    cases u with
    | waiting =>
      rw [Fits, hmodel]
      exact h
    | locked | copied | stored => cases hholds

variable {i : Nat} {t t' : Thread k}

/-- A thread moves without the lock. -/
theorem Serial.quiet (hw : w.Serial start) (ht : w.threads[i]? = some t)
    (hholds : t.stage.holds = false) (hholds' : t'.stage.holds = false)
    (hfits : w.Fits start t'.stage) : (w.moved i w.store t' .none).Serial start := by
  constructor
  case holds =>
    intro j u hu huholds
    rcases getElem?_set_cases hu with ⟨_, rfl⟩ | ⟨_, hold⟩
    · rw [hholds'] at huholds
      cases huholds
    · exact hw.holds j u hold huholds
  case held =>
    intro j hj
    obtain ⟨u, hu, huholds⟩ := hw.held j hj
    -- the thread that moves does not hold the lock, so another one does
    have hne : i ≠ j := by
      rintro rfl
      rw [ht] at hu
      cases hu
      rw [hholds] at huholds
      cases huholds
    exact ⟨u, (List.getElem?_set_ne hne).trans hu, huholds⟩
  case fits =>
    intro j u hu
    rcases getElem?_set_cases hu with ⟨_, rfl⟩ | ⟨_, hold⟩
    · exact hfits
    · exact hw.fits j u hold
  case free => exact hw.free

/-- A thread moves that has the lock or takes it, so that no other thread holds it. -/
theorem Serial.turn (hw : w.Serial start) (ht : w.threads[i]? = some t) {w' : Sharing k}
    (hholder : w.holder = none ∨ w.holder = some i) (hmodel : w'.model = w.model)
    (hthreads : w'.threads = w.threads.set i t')
    (hholder' : w'.holder = if t'.stage.holds then some i else none)
    (hfits : w'.Fits start t'.stage)
    (hsettled : t'.stage.holds = false → w'.IsSettled start) : w'.Serial start := by
  -- the lock is free or held by the thread that moves
  have hother : ∀ (j : Nat) (u : Thread k), j ≠ i → w.threads[j]? = some u →
      u.stage.holds = false := by
    intro j u hne hu
    cases huholds : u.stage.holds with
    | false => rfl
    | true =>
      have hj := hw.holds j u hu huholds
      rcases hholder with hnone | hsome
      · rw [hnone] at hj
        cases hj
      · rw [hsome] at hj
        exact absurd (Option.some.inj hj).symm hne
  constructor
  case holds =>
    intro j u hu huholds
    rw [hthreads] at hu
    rcases getElem?_set_cases hu with ⟨rfl, rfl⟩ | ⟨hne, hold⟩
    · rw [hholder', if_pos huholds]
    · rw [hother j u hne hold] at huholds
      cases huholds
  case held =>
    intro j hj
    rw [hholder'] at hj
    split at hj
    case isTrue hholds =>
      cases hj
      obtain ⟨hlt, _⟩ := List.getElem?_eq_some_iff.1 ht
      refine ⟨t', ?_, hholds⟩
      rw [hthreads, List.getElem?_set_self hlt]
    case isFalse => cases hj
  case fits =>
    intro j u hu
    rw [hthreads] at hu
    rcases getElem?_set_cases hu with ⟨_, rfl⟩ | ⟨hne, hold⟩
    · exact hfits
    · exact (hw.fits j u hold).of_not_holds (hother j u hne hold) hmodel
  case free =>
    intro hfree
    rw [hholder'] at hfree
    split at hfree
    case isTrue => cases hfree
    case isFalse hholds => exact hsettled (Bool.eq_false_iff.2 hholds)

/-- Every step of a thread does what the thread can do. -/
theorem step_eq (ht : w.threads[i]? = some t) : ∃ s' t',
    Thread.Moves w.model w.holder.isNone w.store t s' t' ∧
      w.step i = w.moved i s' t' (t.stage.lockUse t'.stage) := by
  refine ⟨_, _, Thread.moves_next t, ?_⟩
  rw [step, ht]

/-- Every step of an update keeps the requests in order. -/
theorem Serial.update (hw : w.Serial start) {r : k.Request} {todo : List k.Request}
    {f : k.Value → k.Value} {u : Update k} {s' : Store} {u' : Option (Update k)}
    (ht : w.threads[i]? = some ⟨todo, .updating r f u⟩)
    (hmove : Update.Moves f w.holder.isNone (k.hasPoisonedLock w.model) w.store u s' u') :
    (w.moved i s' ⟨todo, .ofUpdate r f u'⟩
      (Stage.lockUse (.updating r f u) (.ofUpdate r f u'))).Serial start := by
  have hfits := hw.fits i _ ht
  have hholder : u.holds = true → w.holder = none ∨ w.holder = some i :=
    fun hholds => .inr (hw.holds i _ ht hholds)
  cases hmove with
  | wait => exact hw.quiet ht rfl rfl hfits
  | giveUp => exact hw.quiet ht rfl rfl trivial
  | acquire hfree hsound =>
    -- the lock was free, so all requests before this one are settled
    have hnone : w.holder = none := Option.isNone_iff_eq_none.1 hfree
    exact hw.turn ht (.inl hnone) rfl rfl rfl ⟨hfits, hsound, w.order, rfl, hw.free hnone⟩
      fun h => nomatch h
  | load hload =>
    -- the copy stays what is stored as long as the lock is held
    exact hw.turn ht (hholder rfl) rfl rfl (hw.holds i _ ht rfl) ⟨hfits.1, hfits.2, hload⟩
      fun h => nomatch h
  | fail hload =>
    -- nothing is saved, and the request does nothing when it is processed alone
    obtain ⟨_, _, before, horder, hbefore⟩ := hfits
    refine hw.turn ht (hholder rfl) rfl rfl (hw.holds i _ ht rfl) ?_ fun h => nomatch h
    show k.processAll w.order ⟨w.model, start⟩ = ⟨w.model, w.store⟩
    rw [horder, Kind.processAll_concat, hbefore, Kind.state_process_of_load_error hload]
  | save v =>
    -- the copy is the stored value, so the request saves the same when it is processed alone
    obtain ⟨hchange, ⟨hsound, before, horder, hbefore⟩, hload⟩ := hfits
    refine hw.turn ht (hholder rfl) rfl rfl (hw.holds i _ ht rfl) ?_ fun h => nomatch h
    show k.processAll w.order ⟨w.model, start⟩ = _
    rw [horder, Kind.processAll_concat, hbefore,
      Kind.state_process_of_load_ok hload hchange hsound]
    rfl
  | release => exact hw.turn ht (hholder rfl) rfl rfl rfl trivial fun _ => hfits

/-- Every step of a thread keeps the requests in order. -/
theorem Serial.step (hw : w.Serial start) (i : Nat) : (w.step i).Serial start := by
  cases ht : w.threads[i]? with
  | none =>
    rw [Sharing.step, ht]
    exact hw
  | some t =>
    obtain ⟨s', t', hmoves, heq⟩ := step_eq ht
    rw [heq]
    cases hmoves with
    | rest => exact hw.quiet ht rfl rfl trivial
    | reject => exact hw.quiet ht rfl rfl trivial
    | start hchange => exact hw.quiet ht rfl rfl hchange
    | update hmove => exact hw.update ht hmove

/-- A run keeps the requests in order. -/
theorem Serial.run (hw : w.Serial start) (turns : List Nat) : (w.run turns).Serial start := by
  induction turns generalizing w with
  | nil => exact hw
  | cons i turns ih => exact ih (hw.step i)

/-- No thread that has come to its end holds the lock. -/
theorem holder_of_isDone (hw : w.Serial start) (hdone : w.isDone = true) : w.holder = none := by
  cases hholder : w.holder with
  | none => rfl
  | some i =>
    obtain ⟨⟨todo, stage⟩, ht, hholds⟩ := hw.held i hholder
    have hthread := List.all_eq_true.1 hdone _ (List.mem_of_getElem? ht)
    cases todo with
    | cons r rest => cases hthread
    | nil =>
      cases stage with
      | idle => cases hholds
      | updating r f u => cases hthread

/-! ## Which requests take the lock -/

/-- The requests for which the lock has been taken, and those for which it is going to be. -/
def claimants (w : Sharing k) : List k.Request := w.order ++ w.threads.flatMap (·.pending w.model)

/-- A step of a thread that has taken the lock for some requests, or for none. -/
theorem claimants_perm {w' : Sharing k} {new : List k.Request} (ht : w.threads[i]? = some t)
    (hmodel : w'.model = w.model) (horder : w'.order = w.order ++ new)
    (hthreads : w'.threads = w.threads.set i t')
    (hpending : t.pending w.model = new ++ t'.pending w.model) :
    w'.claimants.Perm w.claimants := by
  rw [claimants, claimants, hmodel, horder, hthreads, List.append_assoc]
  exact (List.perm_append_left_iff _).2 (flatMap_set_perm ht hpending).symm

/-- No step of an update drops a request. -/
theorem claimants_update (hsound : k.hasPoisonedLock w.model = false) {r : k.Request}
    {todo : List k.Request} {f : k.Value → k.Value} {u : Update k} {s' : Store}
    {u' : Option (Update k)} (ht : w.threads[i]? = some ⟨todo, .updating r f u⟩)
    (hmove : Update.Moves f w.holder.isNone (k.hasPoisonedLock w.model) w.store u s' u') :
    (w.moved i s' ⟨todo, .ofUpdate r f u'⟩
      (Stage.lockUse (.updating r f u) (.ofUpdate r f u'))).claimants.Perm w.claimants := by
  cases hmove with
  | giveUp hpoisoned =>
    rw [hsound] at hpoisoned
    cases hpoisoned
  | acquire => exact claimants_perm ht rfl rfl rfl rfl
  | wait => exact claimants_perm ht rfl (List.append_nil _).symm rfl rfl
  | load => exact claimants_perm ht rfl (List.append_nil _).symm rfl rfl
  | fail => exact claimants_perm ht rfl (List.append_nil _).symm rfl rfl
  | save => exact claimants_perm ht rfl (List.append_nil _).symm rfl rfl
  | release => exact claimants_perm ht rfl (List.append_nil _).symm rfl rfl

/-- No step of a thread drops a request. -/
theorem claimants_step (hsound : k.hasPoisonedLock w.model = false) (i : Nat) :
    (w.step i).claimants.Perm w.claimants := by
  cases ht : w.threads[i]? with
  | none => rw [step, ht]
  | some t =>
    obtain ⟨s', t', hmoves, heq⟩ := step_eq ht
    rw [heq]
    cases hmoves with
    | rest => exact claimants_perm ht rfl (List.append_nil _).symm rfl rfl
    | reject hchange =>
      refine claimants_perm ht rfl (List.append_nil _).symm rfl ?_
      simp [Thread.pending, Kind.accepts, hchange]
    | start hchange =>
      refine claimants_perm ht rfl (List.append_nil _).symm rfl ?_
      simp [Thread.pending, Kind.accepts, hchange]
    | update hmove => exact claimants_update hsound ht hmove

/-- Steps keep the model. -/
theorem model_step (w : Sharing k) (i : Nat) : (w.step i).model = w.model := by
  cases ht : w.threads[i]? with
  | none => rw [step, ht]
  | some t =>
    obtain ⟨s', t', -, heq⟩ := step_eq ht
    rw [heq]
    cases t.stage.lockUse t'.stage <;> rfl

/-- Runs keep the model. -/
theorem model_run (w : Sharing k) (turns : List Nat) : (w.run turns).model = w.model := by
  induction turns generalizing w with
  | nil => rfl
  | cons i turns ih => exact (ih (w.step i)).trans (w.model_step i)

/-- No run drops a request. -/
theorem claimants_run (hsound : k.hasPoisonedLock w.model = false) (turns : List Nat) :
    (w.run turns).claimants.Perm w.claimants := by
  induction turns generalizing w with
  | nil => exact .refl _
  | cons i turns ih =>
    -- no step poisons the lock, since the model stays the same
    have hsound' : k.hasPoisonedLock (w.step i).model = false := by
      rw [model_step]
      exact hsound
    exact (ih hsound').trans (claimants_step hsound i)

/-- At the start no request has taken the lock, and all that are not rejected are going to. -/
theorem claimants_new (m : k.Model) (s : Store) (requests : List (List k.Request)) :
    (new m s requests).claimants = requests.flatten.filter (k.accepts m) := by
  rw [claimants, new, List.nil_append, List.flatMap_map, List.filter_flatten]
  rfl

/-- At the end no request is going to take the lock. -/
theorem claimants_of_isDone (hdone : w.isDone = true) : w.claimants = w.order := by
  have hnone : w.threads.flatMap (·.pending w.model) = [] := by
    rw [List.flatMap_eq_nil_iff]
    rintro ⟨todo, stage⟩ ht
    have hthread := List.all_eq_true.1 hdone _ ht
    cases todo with
    | cons r rest => cases hthread
    | nil =>
      cases stage with
      | idle => rfl
      | updating r f u => cases hthread
  rw [claimants, hnone, List.append_nil]

/-- When all threads have come to their ends, what is stored is what the requests leave behind when
they are processed one at a time, in the order in which they took the lock. -/
theorem processAll_order (m : k.Model) (s : Store) (requests : List (List k.Request))
    (turns : List Nat) (hdone : ((new m s requests).run turns).isDone = true) :
    let w := (new m s requests).run turns
    k.processAll w.order ⟨m, s⟩ = ⟨m, w.store⟩ := by
  intro w
  have hserial : w.Serial s := (serial_new m s requests).run turns
  have hsettled := hserial.free (holder_of_isDone hserial hdone)
  rw [IsSettled, show w.model = m from model_run _ _] at hsettled
  exact hsettled

/-- When all threads have come to their ends, the requests that have taken the lock are those that
are not rejected. -/
theorem order_perm (m : k.Model) (s : Store) (requests : List (List k.Request))
    (turns : List Nat) (hsound : k.hasPoisonedLock m = false)
    (hdone : ((new m s requests).run turns).isDone = true) :
    ((new m s requests).run turns).order.Perm (requests.flatten.filter (k.accepts m)) := by
  rw [← claimants_of_isDone hdone, ← claimants_new m s requests]
  exact claimants_run hsound turns

end Sharing

end Audience
