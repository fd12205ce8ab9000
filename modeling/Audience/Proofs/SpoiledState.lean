import Audience.Proofs.AlikeStores
import Audience.Proofs.ArmsCodec
import Audience.Proofs.Lists
import Audience.Proofs.WindowCodec

/-! # Spoiled values count as missing ones

A stored text that does not decode is taken for no value at all. A model over such a store answers
everything as it does over a store without the value. The text stays where it is while the model
only reads or rejects what it is given; the first change that it takes up replaces the text by what
it would have written over a missing value, and from then on the stored value decodes.

* **`Keeper k μ κ`** — a model `μ` that answers asks `κ` from one stored value, with what each of
  its answers does to the store.
* **`IntentModel.keeper`**, **`PageModel.keeper`**, **`BanditModel.keeper`** — the three models.
* **`Kind.IsSpoiled k s rows`** — the value of a model is stored as a text that does not decode, and
  **`Kind.IsSettled k s`** — as one that does.
* **`Keeper.countsAsMissing`** — what a run of asks does over a spoiled value and over none.
* **`spoiled_state_counts_as_missing`** — spoiled values count as missing ones. -/

namespace Audience

/-! ## Operations of a running model -/

namespace Op

variable {μ σ α β : Type} {m : μ} {s t : σ}

/-- The model is the same over two stores. -/
theorem ReadsAlike.bind_ofModel {g : μ → α} {f : α → Op (Running μ σ) β}
    (h : ReadsAlike (⟨m, s⟩ : Running μ σ) ⟨m, t⟩ (f (g m))) :
    ReadsAlike (⟨m, s⟩ : Running μ σ) ⟨m, t⟩ (Op.ofModel g >>= f) := ⟨h.left, h.right, h.result⟩

/-- What reads the same in two stores reads the same in a model over them. -/
theorem ReadsAlike.onStore {x : Op σ α} (h : ReadsAlike s t x) :
    ReadsAlike (⟨m, s⟩ : Running μ σ) ⟨m, t⟩ (Op.onStore x) :=
  ⟨congrArg (Running.mk m) h.left, congrArg (Running.mk m) h.right, h.result⟩

/-- Nothing runs under a lock that is poisoned. -/
theorem ReadsAlike.underLock {isPoisoned : μ → Bool} {poison : μ → μ} {x : Op σ α}
    (h : isPoisoned m = true) :
    ReadsAlike (⟨m, s⟩ : Running μ σ) ⟨m, t⟩ (Op.underLock isPoisoned poison x) := by
  constructor <;> simp [Op.underLock, h]

end Op

/-! ## Values that decode -/

namespace Kind

variable {k : Kind}

/-- The value of a model can be stored and decoded. -/
def IsSound : (k : Kind) → k.Value → Prop
  | .intent, h => History.InCalendar h
  | .page, w => Window.IsFinite w
  | .bandit, arms => Arms.IsFinite arms

/-- A fresh value can be stored and decoded. -/
theorem isSound_fresh (k : Kind) : k.IsSound k.fresh := by
  cases k with
  | intent =>
    intro t ht
    cases ht
  | page =>
    intro p hp
    cases hp
  | bandit => exact Arms.isFinite_empty

/-- What is decoded can be stored and decoded again. -/
theorem isSound_of_decoded {text : String} {v : k.Value}
    (h : Store.decoded k.ofJson? text = some v) : k.IsSound v := by
  cases k with
  | intent => exact (History.isStampable_of_decoded h).inCalendar
  | page => exact Window.isFinite_of_decoded h
  | bandit => exact Arms.isFinite_of_decoded h

/-- The text of such a value decodes. -/
theorem IsSound.exists_decoded {v : k.Value} (h : k.IsSound v) :
    ∃ v', Store.decoded k.ofJson? (k.toJson v).render = some v' := by
  cases k with
  | intent => exact History.InCalendar.exists_decode h
  | page => exact Window.IsFinite.exists_decode h
  | bandit => exact ⟨_, Arms.IsFinite.decode_render h⟩

end Kind

/-! ## Spoiled and settled values -/

namespace Kind

variable {k : Kind} {s : Store} {rows : Dict Cell}

/-- The value of a model is stored as a text that does not decode. -/
structure IsSpoiled (k : Kind) (s : Store) (rows : Dict Cell) : Prop where
  table : s.database.tables.get? Database.stateTable = some (.clientState rows)
  text : ∃ text, rows.get? k.key = some (.text text) ∧ Store.decoded k.ofJson? text = none

/-- The value of a model is stored as a text that decodes. -/
def IsSettled (k : Kind) (s : Store) : Prop := ∃ rows text v, s.Keeps rows ∧
  rows.get? k.key = some (.text text) ∧ Store.decoded k.ofJson? text = some v

/-- Nothing is loaded from a store whose lock is poisoned. -/
theorem load_of_poisoned (h : s.poisoned = true) :
    k.load s = ⟨.error (.error (.storage (.lockPoisoned Op.poisonedDetails))), s, []⟩ := by
  have hload : k.access.load s
      = ⟨.error (.error (.storage (.lockPoisoned Op.poisonedDetails))), s, []⟩ :=
    Op.bind_error (by simp [Store.get, Store.guarded, h])
  exact Op.orFresh_error _ _ rfl hload

/-- A spoiled value is loaded as a fresh one. -/
theorem IsSpoiled.load (h : k.IsSpoiled s rows) (hsound : s.poisoned = false) :
    (k.load s).result = .ok k.fresh := by
  obtain ⟨text, hcell, hspoiled⟩ := h.text
  rw [load_eq ⟨hsound, h.table⟩, hcell]
  simp only [Store.settled, hspoiled, Option.getD_none]

/-- A missing value is loaded as a fresh one. -/
theorem load_erase (h : s.Keeps rows) :
    (k.load (s.withRows (rows.erase k.key))).result = .ok k.fresh := by
  rw [load_eq (h.withRows _), Dict.get?_erase, if_pos rfl]
  rfl

/-- A spoiled value is read as a missing one. -/
theorem IsSpoiled.readsAlike (h : k.IsSpoiled s rows) :
    Op.ReadsAlike s (s.withRows (rows.erase k.key)) k.load := by
  refine ⟨(k.load_cases s).1, (k.load_cases _).1, ?_⟩
  cases hsound : s.poisoned with
  | true =>
    have hmissing : (s.withRows (rows.erase k.key)).poisoned = true := hsound
    rw [load_of_poisoned hsound, load_of_poisoned hmissing]
  | false => rw [h.load hsound, load_erase ⟨hsound, h.table⟩]

/-- Sound values that are stored decode. -/
theorem isSettled_withRows {v : k.Value} (hs : s.Keeps rows) (hv : k.IsSound v) :
    k.IsSettled (s.withRows (rows.insert k.key (.text (k.toJson v).render))) := by
  obtain ⟨v', hdecoded⟩ := hv.exists_decoded
  exact ⟨_, _, v', hs.withRows _, Dict.get?_insert_self _ _ _, hdecoded⟩

/-- An update of a value that decodes is done and leaves one that decodes. -/
theorem IsSettled.update (h : k.IsSettled s) {f : k.Value → k.Value}
    (hf : ∀ v, k.IsSound v → k.IsSound (f v)) :
    ((Edit.mk k f).update s).result = .ok () ∧ k.IsSettled ((Edit.mk k f).update s).state := by
  obtain ⟨rows, text, v, hs, hcell, hdecoded⟩ := h
  have hload : (k.load s).result = .ok v := by
    rw [load_eq hs, hcell]
    simp only [Store.settled, hdecoded, Option.getD_some]
  obtain ⟨hok, hwritten⟩ := update_of_load hs hload f
  rw [hwritten]
  exact ⟨hok, isSettled_withRows hs (hf v (isSound_of_decoded hdecoded))⟩

end Kind

/-! ## Keepers of a value -/

/-- What a model gives back. -/
inductive Answer where
  | done
  | scores (scores : List SegmentScore)
  | segments (segments : List Segment)
  | arms (arms : Arms)

namespace Kind.ChangesBy

variable {k : Kind} {μ : Type} {isPoisoned : μ → Bool} {m : μ} {x : Op (Running μ Store) Unit}
  {c : Option (k.Value → k.Value)}

/-- A request that is rejected, or that finds a poisoned lock, reads the same from all stores. -/
theorem reads (h : k.ChangesBy isPoisoned m x c) (hnone : (if isPoisoned m then none else c) = none)
    (s t : Store) : Op.ReadsAlike ⟨m, s⟩ ⟨m, t⟩ x := by
  cases h with
  | rejected _ _ h => exact ⟨(h s).2, (h t).2, (h s).1.trans (h t).1.symm⟩
  | @updated f poison level message h =>
    have hlock : isPoisoned m = true := by
      by_contra hsound
      rw [if_neg hsound] at hnone
      cases hnone
    have halike : Op.ReadsAlike (⟨m, s⟩ : Running μ Store) ⟨m, t⟩ (do
        Op.underLock isPoisoned poison (Edit.mk k f).update
        Op.log level message) := .bind (.underLock hlock) fun _ => .log _ _
    refine ⟨?_, ?_, ?_⟩
    · rw [h, halike.left]
    · rw [h, halike.right]
    · rw [h, h, halike.result]

/-- Any other request is answered with the result of the update and leaves behind what the update
leaves behind. -/
theorem updates {f : k.Value → k.Value} (h : k.ChangesBy isPoisoned m x c)
    (hsome : (if isPoisoned m then none else c) = some f) (s : Store) :
    ((do x; return Answer.done) ⟨m, s⟩).result
        = ((Edit.mk k f).update s).result.map (fun _ => .done) ∧
      ((do x; return Answer.done) ⟨m, s⟩).state = ⟨m, ((Edit.mk k f).update s).state⟩ := by
  rw [Option.ite_none_left_eq_some, Bool.not_eq_true] at hsome
  obtain ⟨hlock, rfl⟩ := hsome
  rw [Op.result_bind_of_value fun _ _ => rfl, Op.state_bind_of_keeps fun _ _ => rfl,
    h.result hlock, h.state, hlock, storeAfter_some]
  exact ⟨rfl, rfl⟩

end Kind.ChangesBy

/-- A model `μ` that answers asks `κ` from the value that it keeps. -/
structure Keeper (k : Kind) (μ κ : Type) where
  answer : κ → Op (Running μ Store) Answer
  /-- How an ask changes the value, unless it only reads or nothing is to be written for it. -/
  change? : μ → κ → Option (k.Value → k.Value)
  /-- Such an ask reads the same from values that are loaded the same. -/
  reads : ∀ {m ask} {s t : Store}, change? m ask = none → Op.ReadsAlike s t k.load →
    Op.ReadsAlike ⟨m, s⟩ ⟨m, t⟩ (answer ask)
  /-- Any other ask updates the value. -/
  updates : ∀ {m ask f}, change? m ask = some f → ∀ s,
    (answer ask ⟨m, s⟩).result = ((Edit.mk k f).update s).result.map (fun _ => .done) ∧
      (answer ask ⟨m, s⟩).state = ⟨m, ((Edit.mk k f).update s).state⟩

namespace Keeper

variable {k : Kind} {μ κ : Type} (K : Keeper k μ κ)

/-- The answers to asks one after another. -/
def answers : List κ → Running μ Store → List (Except Failure Answer)
  | [], _ => []
  | ask :: rest, r => (K.answer ask r).result :: answers rest (K.answer ask r).state

/-- What asks one after another leave behind. -/
def after : List κ → Running μ Store → Running μ Store
  | [], r => r
  | ask :: rest, r => after rest (K.answer ask r).state

/-- Whether a model takes an ask up to write something. -/
def takesUp (m : μ) (s : Store) (ask : κ) : Bool := !s.poisoned && (K.change? m ask).isSome

/-- A model cannot tell a store from another one: its answers are the same, and what it takes up is
done. Until it takes up an ask both stores stay as they are, and afterwards they are the same and
the value decodes. -/
structure CountsAsMissing (m : μ) (asks : List κ) (s t : Store) : Prop where
  answers : K.answers asks ⟨m, s⟩ = K.answers asks ⟨m, t⟩
  accepted : List.Forall₂ (fun ask r => K.takesUp m s ask = true → r = .ok .done) asks
    (K.answers asks ⟨m, s⟩)
  untouched : (∀ ask ∈ asks, K.takesUp m s ask = false) →
    K.after asks ⟨m, s⟩ = ⟨m, s⟩ ∧ K.after asks ⟨m, t⟩ = ⟨m, t⟩
  replaced : (∃ ask ∈ asks, K.takesUp m s ask = true) →
    K.after asks ⟨m, s⟩ = K.after asks ⟨m, t⟩ ∧ k.IsSettled (K.after asks ⟨m, s⟩).store

variable {K} {m : μ} {s : Store} {rows : Dict Cell} {ask : κ} {asks : List κ}

/-- The asks that are taken up keep values that can be decoded. -/
def KeepsSound (K : Keeper k μ κ) (m : μ) (asks : List κ) : Prop :=
  ∀ ask ∈ asks, ∀ f, K.change? m ask = some f → ∀ v, k.IsSound v → k.IsSound (f v)

/-- A value that decodes decodes after any asks, and all changes of it are done. -/
theorem isSettled_after (hsound : K.KeepsSound m asks) (h : k.IsSettled s) :
    (∃ s', K.after asks ⟨m, s⟩ = ⟨m, s'⟩ ∧ k.IsSettled s') ∧
      List.Forall₂ (fun ask r => (K.change? m ask).isSome = true → r = .ok .done) asks
        (K.answers asks ⟨m, s⟩) := by
  induction asks generalizing s with
  | nil => exact ⟨⟨s, rfl, h⟩, .nil⟩
  | cons ask rest ih =>
    have hrest : K.KeepsSound m rest := fun a ha => hsound a (List.mem_cons_of_mem _ ha)
    rw [after, Keeper.answers]
    cases hchange : K.change? m ask with
    | none =>
      have hread := K.reads hchange (.self (k.load_cases s).1)
      rw [hread.left]
      obtain ⟨hend, hdone⟩ := ih hrest h
      refine ⟨hend, .cons (fun hsome => ?_) hdone⟩
      rw [hchange] at hsome
      cases hsome
    | some f =>
      obtain ⟨hresult, hstate⟩ := K.updates hchange s
      obtain ⟨hok, hsettled⟩ := h.update (hsound ask List.mem_cons_self f hchange)
      rw [hstate, hresult, hok]
      obtain ⟨hend, hdone⟩ := ih hrest hsettled
      exact ⟨hend, .cons (fun _ => rfl) hdone⟩

/-- An ask that is not taken up reads a spoiled value as a missing one. -/
theorem readsAlike_of_takesUp_eq_false (h : k.IsSpoiled s rows)
    (htakes : K.takesUp m s ask = false) :
    Op.ReadsAlike ⟨m, s⟩ ⟨m, s.withRows (rows.erase k.key)⟩ (K.answer ask) := by
  cases hchange : K.change? m ask with
  | none => exact K.reads hchange h.readsAlike
  | some f =>
    -- the lock of the store is poisoned, so neither value can be loaded
    have hpoisoned : s.poisoned = true := by
      rw [takesUp, hchange] at htakes
      simpa using htakes
    have hmissing : (s.withRows (rows.erase k.key)).poisoned = true := hpoisoned
    obtain ⟨hresult, hstate⟩ := K.updates hchange s
    obtain ⟨hresult', hstate'⟩ := K.updates hchange (s.withRows (rows.erase k.key))
    obtain ⟨herror, hsame⟩ := Kind.update_of_load_error
      (congrArg Outcome.result (Kind.load_of_poisoned (k := k) hpoisoned)) f
    obtain ⟨herror', hsame'⟩ := Kind.update_of_load_error
      (congrArg Outcome.result (Kind.load_of_poisoned (k := k) hmissing)) f
    rw [hsame] at hstate
    rw [hsame'] at hstate'
    refine ⟨hstate, hstate', ?_⟩
    rw [hresult, hresult', herror, herror']

/-- An ask that is taken up is done, and replaces a spoiled value by what it makes of a missing
one. -/
theorem replaces_of_takesUp (h : k.IsSpoiled s rows) (htakes : K.takesUp m s ask = true)
    (hsound : ∀ f, K.change? m ask = some f → ∀ v, k.IsSound v → k.IsSound (f v)) :
    ∃ s', k.IsSettled s' ∧ (K.answer ask ⟨m, s⟩).state = ⟨m, s'⟩ ∧
      (K.answer ask ⟨m, s.withRows (rows.erase k.key)⟩).state = ⟨m, s'⟩ ∧
      (K.answer ask ⟨m, s⟩).result = .ok .done ∧
      (K.answer ask ⟨m, s.withRows (rows.erase k.key)⟩).result = .ok .done := by
  rw [takesUp, Bool.and_eq_true, Bool.not_eq_true', Option.isSome_iff_exists] at htakes
  obtain ⟨hopen, f, hchange⟩ := htakes
  have hs : s.Keeps rows := ⟨hopen, h.table⟩
  obtain ⟨hresult, hstate⟩ := K.updates hchange s
  obtain ⟨hresult', hstate'⟩ := K.updates hchange (s.withRows (rows.erase k.key))
  obtain ⟨hok, hwritten⟩ := Kind.update_of_load hs (h.load hopen) f
  obtain ⟨hok', hwritten'⟩ := Kind.update_of_load (hs.withRows _) (Kind.load_erase hs) f
  -- what is written is the same, and it stands in the same place
  rw [Store.withRows_withRows, Dict.insert_erase] at hwritten'
  refine ⟨_, Kind.isSettled_withRows hs (hsound f hchange _ k.isSound_fresh), ?_, ?_, ?_, ?_⟩
  · rw [hstate, hwritten]
  · rw [hstate', hwritten']
  · rw [hresult, hok]
    rfl
  · rw [hresult', hok']
    rfl

/-- A spoiled value counts as a missing one. -/
theorem countsAsMissing (hsound : K.KeepsSound m asks) (h : k.IsSpoiled s rows) :
    K.CountsAsMissing m asks s (s.withRows (rows.erase k.key)) := by
  induction asks with
  | nil => exact ⟨rfl, .nil, fun _ => ⟨rfl, rfl⟩, fun ⟨_, hmem, _⟩ => absurd hmem List.not_mem_nil⟩
  | cons ask rest ih =>
    have hrest : K.KeepsSound m rest := fun a ha => hsound a (List.mem_cons_of_mem _ ha)
    cases htakes : K.takesUp m s ask with
    | false =>
      -- both stores are as they were, and the rest of the asks starts from them
      obtain ⟨hleft, hright, hresult⟩ := readsAlike_of_takesUp_eq_false h htakes
      obtain ⟨hanswers, haccepted, huntouched, hreplaced⟩ := ih hrest
      refine ⟨?_, ?_, fun hnone => ?_, fun hsome => ?_⟩
      · rw [Keeper.answers, Keeper.answers, hleft, hright, hresult, hanswers]
      · rw [Keeper.answers, hleft]
        refine .cons (fun hup => ?_) haccepted
        rw [htakes] at hup
        cases hup
      · rw [after, after, hleft, hright]
        exact huntouched fun a ha => hnone a (List.mem_cons_of_mem _ ha)
      · rw [after, after, hleft, hright]
        obtain ⟨a, ha, hup⟩ := hsome
        rcases List.mem_cons.1 ha with rfl | ha
        · rw [htakes] at hup
          cases hup
        · exact hreplaced ⟨a, ha, hup⟩
    | true =>
      -- from here on there is one store
      obtain ⟨s', hsettled, hleft, hright, hresult, hresult'⟩ :=
        replaces_of_takesUp h htakes (hsound ask List.mem_cons_self)
      obtain ⟨⟨s'', hafter, hend⟩, hdone⟩ := isSettled_after hrest hsettled
      refine ⟨?_, ?_, fun hnone => ?_, fun _ => ?_⟩
      · rw [Keeper.answers, Keeper.answers, hleft, hright, hresult, hresult']
      · rw [Keeper.answers, hleft]
        refine .cons (fun _ => hresult) (hdone.imp fun a r hchanged hup => hchanged ?_)
        rw [takesUp, Bool.and_eq_true] at hup
        exact hup.2
      · have hnot := hnone ask List.mem_cons_self
        rw [htakes] at hnot
        cases hnot
      · rw [after, after, hleft, hright, hafter]
        exact ⟨rfl, hend⟩

end Keeper

/-! ## The three models -/

/-- What the model of purchase intent can be asked. -/
inductive IntentAsk where
  | buy (signal : Signal)
  | scores (now : Instant)
  | predict (now : Instant)

namespace IntentModel

/-- What the model of purchase intent answers. -/
def answer : IntentAsk → Op (Running IntentModel Store) Answer
  | .buy signal => do
    buy Store.history signal
    return .done
  | .scores now => do
    let config ← Op.ofModel IntentModel.config
    return .scores (← Op.onStore (scores Store.history config now))
  | .predict now => do
    let config ← Op.ofModel IntentModel.config
    return .segments (← Op.onStore (predict Store.history config now))

/-- How an ask changes the history. -/
def writes? (m : IntentModel) : IntentAsk → Option (Kind.intent.Value → Kind.intent.Value)
  | .buy signal => if m.poisoned then none else m.change? signal
  | _ => none

/-- The model of purchase intent keeps a history. -/
def keeper : Keeper .intent IntentModel IntentAsk where
  answer := answer
  change? := writes?
  reads := by
    intro m ask s t hchange hload
    have hhistory : Op.ReadsAlike s t (history Store.history) := hload
    cases ask with
    | buy signal => exact .bind ((m.changesBy_buy signal).reads hchange s t) fun _ => .pure _
    | scores now =>
      exact .bind_ofModel
        (.bind (readsAlike_scores hhistory m.config now).onStore fun _ => .pure _)
    | predict now =>
      exact .bind_ofModel
        (.bind (readsAlike_predict hhistory m.config now).onStore fun _ => .pure _)
  updates := by
    intro m ask f hchange s
    cases ask with
    | scores now => cases hchange
    | predict now => cases hchange
    | buy signal => exact (m.changesBy_buy signal).updates hchange s

end IntentModel

/-- What the model of page interests can be asked. -/
inductive PageAsk where
  | process (text : String)
  | top

namespace PageModel

variable {ρ : Type} [Classifier ρ]

/-- What the model of page interests answers. -/
def answer : PageAsk → Op (Running (PageModel ρ) Store) Answer
  | .process text => do
    process Store.window text
    return .done
  | .top => do
    let ranking ← Op.ofModel PageModel.ranking
    let config ← Op.ofModel PageModel.config
    return .segments (← Op.onStore (top Store.window ranking config))

/-- How an ask changes the window. -/
def writes? (m : PageModel ρ) : PageAsk → Option (Kind.page.Value → Kind.page.Value)
  | .process text => if m.poisoned then none else m.change? text
  | .top => none

/-- The model of page interests keeps a window. -/
def keeper : Keeper .page (PageModel ρ) PageAsk where
  answer := answer
  change? := writes?
  reads := by
    intro m ask s t hchange hload
    have hwindow : Op.ReadsAlike s t (window Store.window) := hload
    cases ask with
    | process text => exact .bind ((m.changesBy_process text).reads hchange s t) fun _ => .pure _
    | top =>
      exact .bind_ofModel (.bind_ofModel
        (.bind (readsAlike_top hwindow m.ranking m.config).onStore fun _ => .pure _))
  updates := by
    intro m ask f hchange s
    cases ask with
    | top => cases hchange
    | process text => exact (m.changesBy_process text).updates hchange s

end PageModel

/-- What the bandit model can be asked. -/
inductive BanditAsk where
  | process (f : Feedback)
  | arms
  | select (epsilon : Double) (g : Rng)

namespace BanditModel

/-- What the bandit model answers. -/
def answer : BanditAsk → Op (Running BanditModel Store) Answer
  | .process f => do
    process Store.arms f
    return .done
  | .arms => do
    return .arms (← Op.onStore (arms Store.arms))
  | .select epsilon g => do
    let m ← Op.ofModel id
    return .segments (← Op.onStore (select Store.arms m epsilon g))

/-- How an ask changes the arms. -/
def writes? (m : BanditModel) : BanditAsk → Option (Kind.bandit.Value → Kind.bandit.Value)
  | .process f => if m.poisoned then none else change? f
  | _ => none

/-- The bandit model keeps arms. -/
def keeper : Keeper .bandit BanditModel BanditAsk where
  answer := answer
  change? := writes?
  reads := by
    intro m ask s t hchange hload
    have harms : Op.ReadsAlike s t (arms Store.arms) := hload
    cases ask with
    | process f => exact .bind ((m.changesBy_process f).reads hchange s t) fun _ => .pure _
    | arms => exact .bind harms.onStore fun _ => .pure _
    | select epsilon g =>
      exact .bind_ofModel (.bind (readsAlike_select harms m epsilon g).onStore fun _ => .pure _)
  updates := by
    intro m ask f hchange s
    cases ask with
    | arms => cases hchange
    | select epsilon g => cases hchange
    | process feedback => exact (m.changesBy_process feedback).updates hchange s

end BanditModel

/-! ## Spoiled values count as missing ones -/

/-- Signals at times of the calendar keep histories that can be decoded. -/
theorem IntentModel.keepsSound {m : IntentModel} {asks : List IntentAsk}
    (h : ∀ signal, .buy signal ∈ asks → signal.time.inCalendar = true) :
    keeper.KeepsSound m asks := by
  intro ask hask f hchange v hv
  cases ask with
  | scores now => cases hchange
  | predict now => cases hchange
  | buy signal =>
    obtain ⟨-, hchange⟩ := Option.ite_none_left_eq_some.1 hchange
    obtain ⟨-, hf⟩ := Option.ite_none_left_eq_some.1 hchange
    cases hf
    have htimes : History.EachTime (·.inCalendar = true) v := hv
    exact htimes.record (h signal hask) m.config.trailCap

/-- Finite pages keep windows that can be decoded. -/
theorem PageModel.keepsSound {ρ : Type} [Classifier ρ] {m : PageModel ρ} {asks : List PageAsk}
    (h : ∀ text p, .process text ∈ asks → m.page? text = some p → p.IsFinite) :
    keeper.KeepsSound m asks := by
  intro ask hask f hchange v hv
  cases ask with
  | top => cases hchange
  | process text =>
    obtain ⟨-, hchange⟩ := Option.ite_none_left_eq_some.1 hchange
    obtain ⟨p, hpage, hf⟩ := Option.map_eq_some_iff.1 hchange
    cases hf
    exact Window.IsFinite.push hv (h text p hask hpage) m.config.windowSize

/-- Feedback keeps arms that can be decoded. -/
theorem BanditModel.keepsSound (m : BanditModel) (asks : List BanditAsk) :
    keeper.KeepsSound m asks := by
  intro ask _ f hchange v hv
  cases ask with
  | arms => cases hchange
  | select epsilon g => cases hchange
  | process feedback =>
    obtain ⟨-, hchange⟩ := Option.ite_none_left_eq_some.1 hchange
    obtain ⟨reward, hreward, hf⟩ := Option.map_eq_some_iff.1 hchange
    cases hf
    obtain ⟨-, hevent⟩ := rewardOf_eq_ok (eq_ok_of_toOption hreward)
    exact Arms.IsFinite.record hv feedback.segment hevent

/-- No model can tell a text that does not decode under its key from no value at all: over signals
at times of the calendar, over finite pages and over any feedback, all answers are the same, the
text stays while nothing is taken up, and the first change that is taken up writes what it writes
where there is no value. From then on the stored value decodes. -/
theorem spoiled_state_counts_as_missing :
    (∀ (m : IntentModel) (asks : List IntentAsk) (s : Store) (rows : Dict Cell),
      Kind.intent.IsSpoiled s rows →
      (∀ signal, .buy signal ∈ asks → signal.time.inCalendar = true) →
      IntentModel.keeper.CountsAsMissing m asks s (s.withRows (rows.erase Store.historyKey))) ∧
    (∀ (ρ : Type) [Classifier ρ] (m : PageModel ρ) (asks : List PageAsk) (s : Store)
        (rows : Dict Cell), Kind.page.IsSpoiled s rows →
      (∀ text p, .process text ∈ asks → m.page? text = some p → p.IsFinite) →
      PageModel.keeper.CountsAsMissing m asks s (s.withRows (rows.erase Store.windowKey))) ∧
    ∀ (m : BanditModel) (asks : List BanditAsk) (s : Store) (rows : Dict Cell),
      Kind.bandit.IsSpoiled s rows →
      BanditModel.keeper.CountsAsMissing m asks s (s.withRows (rows.erase Store.armsKey)) := by
  refine ⟨?_, ?_, ?_⟩
  · intro m asks s rows hspoiled htimes
    exact Keeper.countsAsMissing (IntentModel.keepsSound htimes) hspoiled
  · intro ρ _ m asks s rows hspoiled hfinite
    exact Keeper.countsAsMissing (PageModel.keepsSound hfinite) hspoiled
  · intro m asks s rows hspoiled
    exact Keeper.countsAsMissing (m.keepsSound asks) hspoiled

/-- The values of all models are spoiled. What is read and refused leaves them as they are, and
shoes replace each by what they make of a missing value; all pages are fashion to the classifier. -/
theorem spoiled_state_counts_as_missing_shoes :
    let rows := ((Dict.empty.insert Store.historyKey (.text "7")).insert Store.windowKey
      (.text "[")).insert Store.armsKey (.text "]")
    let s := (Store.opened .memory).withRows rows
    let now : Instant := ⟨0, 0⟩
    let _ : Classifier Page := ⟨fun p _ => .ok p⟩
    let intent : IntentModel := .new Config.default.intent
    let page : PageModel Page := ⟨Config.default.page,
      ⟨LinearClassifier.name, some (Dict.empty.insert "fashion" .one)⟩, .summed, false⟩
    let bandit : BanditModel := .new Config.default.bandit
    let bought : List IntentAsk :=
      [.scores now, .buy ⟨now, [" "], 1⟩, .buy ⟨now, ["shoes"], 1⟩, .predict now]
    let visited : List PageAsk := [.top, .process " ", .process "shoes", .top]
    let shown : List BanditAsk :=
      [.arms, .process ⟨" ", .clicked⟩, .process ⟨"shoes", .clicked⟩, .arms]
    IntentModel.keeper.after bought ⟨intent, s⟩
        = IntentModel.keeper.after bought ⟨intent, s.withRows (rows.erase Store.historyKey)⟩ ∧
      PageModel.keeper.after visited ⟨page, s⟩
        = PageModel.keeper.after visited ⟨page, s.withRows (rows.erase Store.windowKey)⟩ ∧
      BanditModel.keeper.after shown ⟨bandit, s⟩
        = BanditModel.keeper.after shown ⟨bandit, s.withRows (rows.erase Store.armsKey)⟩ := by
  intro rows s now _ intent page bandit bought visited shown
  obtain ⟨hintent, hpage, hbandit⟩ := spoiled_state_counts_as_missing
  have hs : s.Keeps rows :=
    (Store.keeps_opened (by decide : Medium.memory ≠ .unusable)).withRows rows
  refine ⟨?_, ?_, ?_⟩
  · have hspoiled : Kind.intent.IsSpoiled s rows := ⟨hs.table, "7", rfl, by decide +kernel⟩
    have htimes : ∀ signal, .buy signal ∈ bought → signal.time.inCalendar = true := by
      intro signal hmem
      have hsignal : signal = ⟨now, [" "], 1⟩ ∨ signal = ⟨now, ["shoes"], 1⟩ := by
        simpa [bought] using hmem
      rcases hsignal with rfl | rfl <;> decide
    have hmissing := hintent intent bought s rows hspoiled htimes
    exact (hmissing.replaced ⟨.buy ⟨now, ["shoes"], 1⟩, by simp [bought], by decide +kernel⟩).1
  · have hspoiled : Kind.page.IsSpoiled s rows := ⟨hs.table, "[", rfl, by decide +kernel⟩
    have hfinite : ∀ text p, .process text ∈ visited → page.page? text = some p → p.IsFinite := by
      intro text p _ hp
      obtain ⟨-, hp⟩ := Option.ite_none_left_eq_some.1 hp
      cases hp
      unfold Page.IsFinite
      decide
    have hmissing := hpage Page page visited s rows hspoiled hfinite
    exact (hmissing.replaced ⟨.process "shoes", by simp [visited], by decide +kernel⟩).1
  · have hspoiled : Kind.bandit.IsSpoiled s rows := ⟨hs.table, "]", rfl, by decide +kernel⟩
    have hmissing := hbandit bandit shown s rows hspoiled
    exact (hmissing.replaced ⟨.process ⟨"shoes", .clicked⟩, by simp [shown], by decide +kernel⟩).1

end Audience
