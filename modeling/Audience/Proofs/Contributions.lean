import Audience.Proofs.AlikeStores

/-! # Contributions to a profile

A profile is put together from what each model contributes on its own. Nothing is written meanwhile,
not even where a stored value does not decode, so no model sees anything of the others: what it
contributes depends on its own settings and on what it reads from its own part of the store. A model
that is switched off or fails contributes nothing.

* **`contributed enabled r`** — what a model contributes, by the result of its operation.
* **`Op.freshened fresh r`** — the result of a load where a value that does not decode counts as
  fresh.
* **`Backing.IsReadOnly b`** — loading leaves the store as it was, and
  **`Store.isReadOnly_backing`**, which says so of the store, with or without outages.
* **`Models.result_build_iff`** — a profile is the contributions of its models, and
  **`Models.exists_result_build_iff`**, when there is one.
* **`contributions_independent`** — what a model contributes does not depend on the others. -/

namespace Audience

/-! ## Results of operations that only read -/

namespace Op

variable {σ α β : Type}

/-- After an operation that keeps the state, the next one starts from the same state. -/
theorem result_bind_eq_ok_iff {x : Op σ α} {f : α → Op σ β} {s : σ} {b : β}
    (hx : (x s).state = s) : ((x >>= f) s).result = .ok b ↔
      ∃ a, (x s).result = .ok a ∧ (f a s).result = .ok b := by
  cases hout : x s with
  | mk result s' l =>
    rw [hout] at hx
    cases hx
    cases result with
    | error e => simp [bind_error hout]
    | ok a => simp [bind_ok hout]

/-- The result of loading a value, where one that does not decode counts as the one given. -/
def freshened (fresh : α) : Except Failure α → Except Failure α
  | .ok a => .ok a
  | .error (.error e) => if e.isMalformedState then .ok fresh else .error (.error e)
  | .error .crash => .error .crash

/-- A value that does not decode is replaced in the result. -/
theorem result_orFresh (x : Op σ α) (fresh : α) (warning : String) (s : σ) :
    (orFresh x fresh warning s).result = freshened fresh (x s).result := by
  cases hout : x s with
  | mk result s' l =>
    cases result with
    | ok a => rw [orFresh_ok fresh warning hout, freshened]
    | error e =>
      cases e with
      | crash =>
        have hattempt : attempt x s = ⟨.error .crash, s', l⟩ := by rw [attempt, hout]
        rw [orFresh, bind_error hattempt, freshened]
      | error e =>
        cases he : e.isMalformedState with
        | true => simp [orFresh_malformed fresh warning he hout, freshened, he]
        | false => simp [orFresh_error fresh warning he hout, freshened, he]

end Op

/-! ## What the models contribute -/

section

variable {σ α : Type}

/-- The contribution of a model, by the result of its operation: nothing when it is switched off or
fails. -/
def contributed (enabled : Bool) : Except Failure (List α) → Except Failure (List α)
  | .ok items => .ok (if enabled then items else [])
  | .error (.error _) => .ok []
  | .error .crash => if enabled then .error .crash else .ok []

/-- A contribution is made of the result of the operation. -/
theorem result_contribution (model : String) (enabled : Bool) (x : Op σ (List α)) (s : σ) :
    (contribution model enabled x s).result = contributed enabled (x s).result := by
  rw [contribution]
  cases enabled with
  | false => cases (x s).result with
    | ok items => rfl
    | error e => cases e <;> rfl
  | true =>
    cases hout : x s with
    | mk result s' l =>
      cases result with
      | ok items =>
        have hattempt : Op.attempt x s = ⟨.ok (.ok items), s', l⟩ := by rw [Op.attempt, hout]
        simp only [if_true]
        rw [Op.bind_ok hattempt]
        rfl
      | error e =>
        cases e with
        | error e =>
          have hattempt : Op.attempt x s = ⟨.ok (.error e), s', l⟩ := by rw [Op.attempt, hout]
          simp only [if_true]
          rw [Op.bind_ok hattempt]
          rfl
        | crash =>
          have hattempt : Op.attempt x s = ⟨.error .crash, s', l⟩ := by rw [Op.attempt, hout]
          simp only [if_true]
          rw [Op.bind_error hattempt]
          rfl

/-- The same answer is the same contribution. -/
theorem eq_of_contributed {enabled enabled' : Bool} {r r' : Except Failure (List α)}
    {items items' : List α} (h : contributed enabled r = .ok items)
    (h' : contributed enabled' r' = .ok items') (henabled : enabled = enabled') (hr : r = r') :
    items = items' := by
  rw [henabled, hr, h'] at h
  exact (Except.ok.inj h).symm

/-- A model that is switched off or fails contributes nothing. -/
theorem eq_nil_of_contributed {enabled : Bool} {r : Except Failure (List α)} {items : List α}
    (h : contributed enabled r = .ok items) (hr : enabled = false ∨ ∃ e, r = .error (.error e)) :
    items = [] := by
  obtain rfl | ⟨e, rfl⟩ := hr
  · cases r with
    | ok xs =>
      cases h
      rfl
    | error e => cases e <;> (cases h; rfl)
  · cases h
    rfl

/-- A model contributes something, be it nothing, unless it is switched on and cut off. -/
theorem exists_contributed_iff {enabled : Bool} {r : Except Failure (List α)} :
    (∃ items, contributed enabled r = .ok items) ↔ (enabled = true → r ≠ .error .crash) := by
  cases r with
  | ok items => simp [contributed]
  | error e => cases e <;> cases enabled <;> simp [contributed]

/-- A prediction by the result of loading the history. -/
theorem IntentModel.result_predict (access : Access σ History) (config : IntentConfig)
    (now : Instant) (s : σ) : (predict access config now s).result
      = (Op.freshened .empty (access.load s).result).map fun h =>
          Audience.predict config.threshold predictionLimit (h.scores config.scoring now) := by
  have hscores : (scores access config now s).result
      = (Op.freshened .empty (access.load s).result).map fun h => h.scores config.scoring now := by
    rw [scores, Op.result_bind_of_value fun _ _ => rfl, history, Op.result_orFresh]
  rw [predict, Op.result_bind_of_value fun _ _ => rfl, hscores]
  cases Op.freshened .empty (access.load s).result <;> rfl

/-- The strongest segments by the result of loading the window. -/
theorem PageModel.result_top (access : Access σ Window) (ranking : Ranking) (config : PageConfig)
    (s : σ) : (top access ranking config s).result
      = (Op.freshened .empty (access.load s).result).map fun w =>
          ranking.rank w config.maxSegments := by
  rw [top, Op.result_bind_of_value fun _ _ => rfl, window, Op.result_orFresh]

/-- What follows a draw goes on with what was drawn. -/
theorem BanditModel.result_bind_draw {β : Type} (d : Draw α) (g : Rng) (f : α × Rng → Op σ β)
    (s : σ) : ((draw d g >>= f) s).result
      = match d g with
        | none => .error .crash
        | some r => (f r s).result := by
  rw [draw]
  cases d g <;> rfl

/-- A choice by the draws, and by the result of loading the arms where it exploits. -/
theorem BanditModel.result_select (access : Access σ Arms) (m : BanditModel) (epsilon : Double)
    (g : Rng) (s : σ) : (select access m epsilon g s).result
      = match shouldExplore epsilon g with
        | none => .error .crash
        | some (true, g) =>
          match explore m.eligible m.config.maxSegments g with
          | none => .error .crash
          | some (picked, _) => .ok picked
        | some (false, _) => (Op.freshened .empty (access.load s).result).map fun arms =>
            exploit m.eligible arms m.config.maxSegments := by
  rw [select, result_bind_draw]
  cases shouldExplore epsilon g with
  | none => rfl
  | some r =>
    obtain ⟨explores, g⟩ := r
    cases explores with
    | true =>
      simp only [if_true]
      rw [result_bind_draw]
      cases explore m.eligible m.config.maxSegments g <;> rfl
    | false =>
      simp only [Bool.false_eq_true, if_false]
      rw [Op.result_bind_of_value fun _ _ => rfl, arms, Op.result_orFresh]

end

/-! ## Reading only -/

/-- Loading leaves every store as it was. -/
structure Backing.IsReadOnly {σ : Type} (b : Backing σ) : Prop where
  history : ∀ s, (b.history.load s).state = s
  arms : ∀ s, (b.arms.load s).state = s
  window : ∀ s, (b.window.load s).state = s
  events : ∀ s, (b.events.all s).state = s

/-- Finding a table only reads. -/
theorem Database.readsAlike_table (name : String) (d : Database) :
    Op.ReadsAlike d d (table name) := by
  have hstate : (table name d).state = d := by
    cases htable : d.tables.get? name with
    | none => rw [table_error htable]
    | some t => rw [table_eq htable]
  exact .self hstate

namespace Store

variable {α : Type}

/-- An operation that only reads the database only reads the store. -/
theorem state_guarded {x : Op Database α} (hx : ∀ d, Op.ReadsAlike d d x) (s : Store) :
    (guarded x s).state = s := by
  rw [guarded]
  split
  · rfl
  · exact congrArg (fun d => { s with database := d }) (hx s.database).left

/-- Loading a value only reads. -/
theorem state_load (key : String) (ofJson? : Json → Option α) (toJson : α → Json) (fresh : α)
    (s : Store) : ((access key ofJson? toJson fresh).load s).state = s := by
  have htext (d : Database) : Op.ReadsAlike d d (Database.stateText? key) := by
    refine .bind (.bind (.bind (Database.readsAlike_table _ d) fun t => ?_) fun _ => .pure _)
      fun cell => ?_
    · cases t with
      | clientState rows => exact .pure rows
      | versions | events | foreign => exact .fail _
    · cases cell with
      | none => exact .pure none
      | some cell =>
        cases cell with
        | text text => exact .pure _
        | blob bytes => exact .fail _
  have hget : (get (decoded ofJson?) key s).state = s := by
    refine state_guarded (fun d => .bind (htext d) fun text => ?_) s
    cases text with
    | none => exact .pure none
    | some text =>
      simp only
      cases decoded ofJson? text with
      | none => exact .fail _
      | some a => exact .pure _
  exact (Op.state_bind_of_keeps (fun _ _ => rfl) s).trans hget

/-- Loading the events only reads. -/
theorem state_all (s : Store) : (events.all s).state = s := by
  refine state_guarded (fun d => .bind (.bind (Database.readsAlike_table _ d) fun t => ?_)
    fun ⟨rows, _⟩ => .ofExcept _) s
  cases t with
  | events rows lastId => exact .pure (rows, lastId)
  | versions | clientState | foreign => exact .fail _

/-- An outage writes nothing. -/
theorem state_standIn {x : Op Store α} (hx : ∀ s, (x s).state = s) (fault : Option Fault)
    (point : FaultPoint) (s : Store) : (Fault.standIn fault point x s).state = s := by
  unfold Fault.standIn
  cases fault with
  | none => exact hx s
  | some f =>
    simp only
    split
    · exact hx s
    · split <;> rfl

/-- Loading only reads, with or without outages. -/
theorem isReadOnly_backing (f : Faults) : (backing.withFaults f).IsReadOnly where
  history := state_standIn (state_load _ _ _ _) f.history .load
  arms := state_standIn (state_load _ _ _ _) f.arms .load
  window := state_standIn (state_load _ _ _ _) f.window .load
  events := state_standIn state_all f.events .load

end Store

/-! ## Profiles -/

namespace Models

variable {ρ κ σ : Type} {m : Models ρ κ σ} {b : Backing σ}

/-- A profile is built without writing anything. -/
theorem state_build (hb : b.IsReadOnly) (m : Models ρ κ σ) (now : Instant) (g : Rng) (s : σ) :
    (m.build b now g s).state = s :=
  (m.readsAlike_build (.self (hb.history s)) (.self (hb.arms s)) (.self (hb.window s))
    (.self (hb.events s)) now g).left

/-- What the model of purchase intent answers. -/
def predicted (m : Models ρ κ σ) (b : Backing σ) (now : Instant) : Except Failure (List Segment) :=
  (IntentModel.predict b.history m.intent.config now m.store).result

/-- What the bandit model answers. -/
def chosen (m : Models ρ κ σ) (b : Backing σ) (g : Rng) : Except Failure (List Segment) :=
  (BanditModel.select b.arms m.bandit m.bandit.config.epsilon g m.store).result

/-- What the model of page interests answers. -/
def ranked (m : Models ρ κ σ) (b : Backing σ) : Except Failure (List Segment) :=
  (PageModel.top b.window m.page.ranking m.page.config m.store).result

/-- What the model of embeddings answers. -/
def recorded (m : Models ρ κ σ) (b : Backing σ) : Except Failure (List Event) :=
  (b.events.all m.store).result

/-- A profile is the contributions of its models. -/
theorem result_build_iff (hb : b.IsReadOnly) {now : Instant} {g : Rng} {p : Profile} :
    (m.build b now g m.store).result = .ok p ↔
      contributed m.intent.config.enabled (m.predicted b now) = .ok p.intent ∧
      contributed m.bandit.config.enabled (m.chosen b g) = .ok p.latent ∧
      contributed m.page.config.enabled (m.ranked b) = .ok p.interest ∧
      contributed m.embedding.config.enabled (m.recorded b) = .ok p.events := by
  -- each contribution keeps the store, so the next model finds what was there at the start
  have hhistory : Op.ReadsAlike m.store m.store b.history.load := .self (hb.history _)
  have harms : Op.ReadsAlike m.store m.store b.arms.load := .self (hb.arms _)
  have hwindow : Op.ReadsAlike m.store m.store b.window.load := .self (hb.window _)
  have hall : Op.ReadsAlike m.store m.store b.events.all := .self (hb.events _)
  have hintent := (readsAlike_contribution (IntentModel.readsAlike_predict (hhistory.orFresh _ _)
    m.intent.config now) intentName m.intent.config.enabled).left
  have hbandit := (readsAlike_contribution (BanditModel.readsAlike_select (harms.orFresh _ _)
    m.bandit m.bandit.config.epsilon g) banditName m.bandit.config.enabled).left
  have hpage := (readsAlike_contribution (PageModel.readsAlike_top (hwindow.orFresh _ _)
    m.page.ranking m.page.config) pageName m.page.config.enabled).left
  have hevents := (readsAlike_contribution hall embeddingName m.embedding.config.enabled).left
  rw [build, Op.result_bind_eq_ok_iff hintent]
  simp only [Op.result_bind_eq_ok_iff hbandit, Op.result_bind_eq_ok_iff hpage,
    Op.result_bind_eq_ok_iff hevents, result_contribution]
  constructor
  · rintro ⟨intent, hintent, latent, hlatent, interest, hinterest, events, hevents, hp⟩
    cases hp
    exact ⟨hintent, hlatent, hinterest, hevents⟩
  · rintro ⟨hintent, hlatent, hinterest, hevents⟩
    exact ⟨_, hintent, _, hlatent, _, hinterest, _, hevents, rfl⟩

/-- A profile is built unless a model that is switched on is cut off. -/
theorem exists_result_build_iff (hb : b.IsReadOnly) {now : Instant} {g : Rng} :
    (∃ p, (m.build b now g m.store).result = .ok p) ↔
      (m.intent.config.enabled = true → m.predicted b now ≠ .error .crash) ∧
      (m.bandit.config.enabled = true → m.chosen b g ≠ .error .crash) ∧
      (m.page.config.enabled = true → m.ranked b ≠ .error .crash) ∧
      (m.embedding.config.enabled = true → m.recorded b ≠ .error .crash) := by
  rw [← exists_contributed_iff, ← exists_contributed_iff, ← exists_contributed_iff,
    ← exists_contributed_iff]
  constructor
  · rintro ⟨p, hp⟩
    obtain ⟨hintent, hlatent, hinterest, hevents⟩ := (result_build_iff hb).1 hp
    exact ⟨⟨_, hintent⟩, ⟨_, hlatent⟩, ⟨_, hinterest⟩, ⟨_, hevents⟩⟩
  · rintro ⟨⟨intent, hintent⟩, ⟨latent, hlatent⟩, ⟨interest, hinterest⟩, ⟨events, hevents⟩⟩
    exact ⟨⟨intent, latent, interest, events⟩,
      (result_build_iff hb).2 ⟨hintent, hlatent, hinterest, hevents⟩⟩

section

variable {ρ' κ' σ' : Type} {m' : Models ρ' κ' σ'} {b' : Backing σ'}

/-- What the model of purchase intent answers depends on its settings and its history. -/
theorem predicted_congr (hconfig : m.intent.config = m'.intent.config)
    (hload : (b.history.load m.store).result = (b'.history.load m'.store).result)
    (now : Instant) : m.predicted b now = m'.predicted b' now := by
  rw [predicted, predicted, IntentModel.result_predict, IntentModel.result_predict, hconfig, hload]

/-- What the bandit model answers depends on its settings, its eligible segments, the draws and its
arms. -/
theorem chosen_congr (hconfig : m.bandit.config = m'.bandit.config)
    (heligible : m.bandit.eligible = m'.bandit.eligible)
    (hload : (b.arms.load m.store).result = (b'.arms.load m'.store).result) (g : Rng) :
    m.chosen b g = m'.chosen b' g := by
  rw [chosen, chosen, BanditModel.result_select, BanditModel.result_select, hconfig, heligible,
    hload]

/-- What the model of page interests answers depends on its settings, its ranking and its window. -/
theorem ranked_congr (hconfig : m.page.config = m'.page.config)
    (hranking : m.page.ranking = m'.page.ranking)
    (hload : (b.window.load m.store).result = (b'.window.load m'.store).result) :
    m.ranked b = m'.ranked b' := by
  rw [ranked, ranked, PageModel.result_top, PageModel.result_top, hconfig, hranking, hload]

end

end Models

/-- Building a profile leaves an engine as it was. -/
theorem Engine.state_build (now : Instant) (g : Rng) (e : Engine) : (build now g e).state = e :=
  congrArg e.withStore
    (e.models.state_build (Store.isReadOnly_backing .none) now g e.models.store)

/-- What a model contributes to a profile depends on its own settings and on what it loads, for the
bandit also on its eligible segments and the draws, and not on the other models, their settings,
their values or their outages. A model that is switched off or fails contributes nothing. A profile
is built unless a model that is switched on is cut off. Building it changes nothing, and the loads
of the store that this rests on change nothing either. -/
theorem contributions_independent :
    (∀ f : Faults, (Store.backing.withFaults f).IsReadOnly) ∧
    ∀ {ρ κ σ ρ' κ' σ' : Type} (m : Models ρ κ σ) (m' : Models ρ' κ' σ') {b : Backing σ}
      {b' : Backing σ'}, b.IsReadOnly → b'.IsReadOnly → ∀ (now : Instant) (g g' : Rng),
      (∀ p p', (m.build b now g m.store).result = .ok p →
        (m'.build b' now g' m'.store).result = .ok p' →
        (m.intent.config = m'.intent.config →
          (b.history.load m.store).result = (b'.history.load m'.store).result →
          p.intent = p'.intent) ∧
        (m.bandit.config = m'.bandit.config → m.bandit.eligible = m'.bandit.eligible → g = g' →
          (b.arms.load m.store).result = (b'.arms.load m'.store).result →
          p.latent = p'.latent) ∧
        (m.page.config = m'.page.config → m.page.ranking = m'.page.ranking →
          (b.window.load m.store).result = (b'.window.load m'.store).result →
          p.interest = p'.interest) ∧
        (m.embedding.config = m'.embedding.config →
          (b.events.all m.store).result = (b'.events.all m'.store).result →
          p.events = p'.events)) ∧
      (∀ p, (m.build b now g m.store).result = .ok p →
        (m.intent.config.enabled = false ∨ (∃ e, m.predicted b now = .error (.error e)) →
          p.intent = []) ∧
        (m.bandit.config.enabled = false ∨ (∃ e, m.chosen b g = .error (.error e)) →
          p.latent = []) ∧
        (m.page.config.enabled = false ∨ (∃ e, m.ranked b = .error (.error e)) →
          p.interest = []) ∧
        (m.embedding.config.enabled = false ∨ (∃ e, m.recorded b = .error (.error e)) →
          p.events = [])) ∧
      ((∃ p, (m.build b now g m.store).result = .ok p) ↔
        (m.intent.config.enabled = true → m.predicted b now ≠ .error .crash) ∧
        (m.bandit.config.enabled = true → m.chosen b g ≠ .error .crash) ∧
        (m.page.config.enabled = true → m.ranked b ≠ .error .crash) ∧
        (m.embedding.config.enabled = true → m.recorded b ≠ .error .crash)) ∧
      (Models.onStore (fun m => m.build b now g) m).state = m := by
  refine ⟨Store.isReadOnly_backing, ?_⟩
  intro ρ κ σ ρ' κ' σ' m m' b b' hb hb' now g g'
  refine ⟨fun p p' hp hp' => ?_, fun p hp => ?_, Models.exists_result_build_iff hb, ?_⟩
  · obtain ⟨hintent, hlatent, hinterest, hevents⟩ := (Models.result_build_iff hb).1 hp
    obtain ⟨hintent', hlatent', hinterest', hevents'⟩ := (Models.result_build_iff hb').1 hp'
    refine ⟨?_, ?_, ?_, ?_⟩
    · intro hconfig hload
      exact eq_of_contributed hintent hintent' (congrArg IntentConfig.enabled hconfig)
        (Models.predicted_congr hconfig hload now)
    · rintro hconfig heligible rfl hload
      exact eq_of_contributed hlatent hlatent' (congrArg BanditConfig.enabled hconfig)
        (Models.chosen_congr hconfig heligible hload g)
    · intro hconfig hranking hload
      exact eq_of_contributed hinterest hinterest' (congrArg PageConfig.enabled hconfig)
        (Models.ranked_congr hconfig hranking hload)
    · intro hconfig hload
      exact eq_of_contributed hevents hevents' (congrArg EmbeddingConfig.enabled hconfig) hload
  · obtain ⟨hintent, hlatent, hinterest, hevents⟩ := (Models.result_build_iff hb).1 hp
    exact ⟨eq_nil_of_contributed hintent, eq_nil_of_contributed hlatent,
      eq_nil_of_contributed hinterest, eq_nil_of_contributed hevents⟩
  · exact congrArg (fun s => { m with store := s }) (m.state_build hb now g m.store)

/-- A history is predicted from as before when the window and the arms are spoiled and the arms and
the events cannot be loaded. -/
theorem contributions_independent_outage :
    let history :=
      "\x7b\"shoes\":[\x7b\"occurred_at\":\"1970-01-01T00:00:00Z\",\"weight\":5\x7d]\x7d"
    let rows := Dict.empty.insert Store.historyKey (.text history)
    let spoiled := (rows.insert Store.windowKey (.text "[")).insert Store.armsKey (.text "]")
    let outage : Faults :=
      { Faults.none with arms := some ⟨.load, false⟩, events := some ⟨.load, false⟩ }
    let now : Instant := ⟨10, 0⟩
    let m : Models LinearClassifier WordVectors Store :=
      .new .default .summed ((Store.opened .memory).withRows rows)
    let m' : Models LinearClassifier WordVectors Store :=
      .new .default .summed ((Store.opened .file).withRows spoiled)
    let b := Store.backing.withFaults .none
    let b' := Store.backing.withFaults outage
    ∃ p p', (m.build b now ⟨[], 7⟩ m.store).result = .ok p ∧
      (m'.build b' now ⟨[], 8⟩ m'.store).result = .ok p' ∧
      p'.intent = p.intent ∧ p'.events = [] := by
  intro history rows spoiled outage now m m' b b'
  obtain ⟨hreads, hbuild⟩ := contributions_independent
  have hvalue : ∀ {r : Except Failure Profile}, r.toOption.isSome = true → ∃ p, r = .ok p := by
    rintro (e | p) h
    · cases h
    · exact ⟨p, rfl⟩
  have hbuilt : ∃ p, (m.build b now ⟨[], 7⟩ m.store).result = .ok p := hvalue (by decide +kernel)
  have hbuilt' : ∃ p, (m'.build b' now ⟨[], 8⟩ m'.store).result = .ok p :=
    hvalue (by decide +kernel)
  obtain ⟨p, hp⟩ := hbuilt
  obtain ⟨p', hp'⟩ := hbuilt'
  -- both find the same text under the key of the history
  have hload : (b.history.load m.store).result = (b'.history.load m'.store).result := by
    have hs := (Store.keeps_opened (by decide : Medium.memory ≠ .unusable)).withRows rows
    have hs' := (Store.keeps_opened (by decide : Medium.file ≠ .unusable)).withRows spoiled
    have hcell : rows.get? Store.historyKey = spoiled.get? Store.historyKey := rfl
    have hread := hs.load Store.historyKey History.ofJson? History.toJson .empty
    have hread' := hs'.load Store.historyKey History.ofJson? History.toJson .empty
    rw [hcell] at hread
    exact (congrArg Outcome.result hread).trans (congrArg Outcome.result hread').symm
  obtain ⟨hsame, -, -, -⟩ := (hbuild m m' (hreads .none) (hreads outage) now ⟨[], 7⟩ ⟨[], 8⟩).1 p p'
    hp hp'
  obtain ⟨-, -, -, hevents⟩ := (hbuild m' m (hreads outage) (hreads .none) now ⟨[], 8⟩ ⟨[], 7⟩).2.1
    p' hp'
  exact ⟨p, p', hp, hp', (hsame rfl hload).symm, hevents (.inr ⟨_, rfl⟩)⟩

end Audience
