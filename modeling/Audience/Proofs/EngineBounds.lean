import Audience.Proofs.BoundedValues
import Audience.Proofs.Contributions
import Audience.Proofs.EventRetention

/-! # Bounds of all that an engine keeps

From an empty database on, nothing that is asked of an engine takes what it keeps beyond the bounds
of its settings, and neither does closing it and opening it again.

* **`Usage`** — a request, or closing an engine and opening it again, and **`Engine.useAll`**, one
  after another.
* **`Store.IsBounded config stamped s`** — what every run preserves of the store.
* **`Engine.IsInBounds config e`** — the bounds of an engine.
* **`bounds_after_usage`** — every engine that can be reached is within its bounds. -/

namespace Audience

/-! ## Usage -/

/-- What happens to an engine: a request, or closing it and opening it again. -/
inductive Usage where
  | request (r : Request)
  | reopen

namespace Engine

/-- The engine afterwards. It is opened again with the settings given. -/
def use (config : Config) (e : Engine) : Usage → Except Failure Engine
  | .request r => .ok (e.serve r).2
  | .reopen => (openOn config e.models.store.reopened).result

/-- The engine after some usage. -/
def useAll (config : Config) (e : Engine) (usages : List Usage) : Except Failure Engine :=
  usages.foldlM (use config) e

end Engine

/-- The times of all visits can be stamped. -/
def Usage.IsStamped : Usage → Prop
  | .request (.signal c) => c.IsStamped
  | _ => True

/-! ## Opening -/

namespace Store

variable {s : Store}

/-- The schema versions of a store that is up to date. -/
def currentVersions : List Int := [3, 2, 1]

/-- The version of a database that is up to date. -/
theorem currentVersion_of_current {d : Database}
    (h : d.tables.get? Database.versionTable = some (.versions currentVersions)) :
    Database.currentVersion d = ⟨.ok 3, d, []⟩ := by
  have hrows : Database.versionRows d = ⟨.ok currentVersions, d, []⟩ := by
    have hthere : Database.createTable Database.versionTable (.versions []) d
        = ⟨.ok (), d, []⟩ := by
      rw [Database.createTable, Op.bind_get, Dict.contains, h]
      rfl
    rw [Database.versionRows, Op.bind_ok hthere, Op.bind_ok (Database.table_eq h)]
    rfl
  rw [Database.currentVersion, Op.bind_ok hrows]
  rfl

/-- A store that is up to date stays as it is when it is opened. -/
theorem prepare_of_current (hmedium : s.medium ≠ .unusable) (hsound : s.poisoned = false)
    (h : s.database.tables.get? Database.versionTable = some (.versions currentVersions)) :
    prepare s = ⟨.ok (), s, []⟩ := by
  -- no step is above the current version
  have hmigrate : Database.migrate s.database = ⟨.ok 0, s.database, []⟩ := by
    rw [Database.migrate, Op.bind_ok (currentVersion_of_current h)]
    rfl
  rw [prepare, Op.bind_get, if_neg hmedium]
  exact (Op.bind_ok (guarded_eq hsound hmigrate)).trans rfl

/-- A new store is opened. -/
theorem prepare_new {medium : Medium} (h : medium ≠ .unusable) :
    (prepare (new medium)).result = .ok () := by
  cases medium with
  | memory => rfl
  | file => rfl
  | unusable => exact absurd rfl h

end Store

/-! ## What every run preserves -/

/-- No more rows remain than are to be kept. -/
theorem length_remaining_le {es : List EventRow} {lastId : Nat} (h : Numbered es lastId)
    (keep : Nat) : (Database.remaining keep es).length ≤ keep := by
  rw [(remaining_perm h keep).length_eq]
  exact (List.length_take_le _ _).trans (Nat.min_le_left _ _)

/-- A store that is up to date, whose values are within the bounds, and which keeps no more events
than settings say. -/
structure Store.IsBounded (config : Config) (stamped : Prop) (s : Store) : Prop where
  usable : s.medium ≠ .unusable
  current : s.database.tables.get? Database.versionTable = some (.versions currentVersions)
  state : ∃ rows, s.Keeps rows ∧ ∀ k : Kind, k.HoldsBounded config stamped (rows.get? k.key)
  events : ∃ es lastId, s.KeepsEvents es lastId ∧ Numbered es lastId ∧
    es.length ≤ config.embedding.historySize

namespace Store.IsBounded

variable {config : Config} {stamped : Prop} {s : Store}

/-- A new store is within the bounds. -/
theorem opened {medium : Medium} (h : medium ≠ .unusable) :
    IsBounded config stamped (Store.opened medium) := by
  refine ⟨?_, ?_, ⟨.empty, keeps_opened h, fun k cell hcell => nomatch hcell⟩,
    ⟨[], 0, keepsEvents_opened h, ⟨.nil, fun r hr => nomatch hr⟩, Nat.zero_le _⟩⟩
  · cases medium with
    | memory => decide
    | file => decide
    | unusable => exact absurd rfl h
  · cases medium with
    | memory => rfl
    | file => rfl
    | unusable => exact absurd rfl h

/-- Other rows within the bounds keep a store within them. -/
theorem withRows (h : IsBounded config stamped s) {rows : Dict Cell}
    (hrows : ∀ k : Kind, k.HoldsBounded config stamped (rows.get? k.key)) :
    IsBounded config stamped (s.withRows rows) := by
  obtain ⟨old, hs, _⟩ := h.state
  obtain ⟨es, lastId, hevents, hnumbered, hlength⟩ := h.events
  exact ⟨h.usable, (Dict.get?_insert_of_ne _ (by decide) _).trans h.current,
    ⟨rows, hs.withRows rows, hrows⟩, ⟨es, lastId, hevents.withRows rows, hnumbered, hlength⟩⟩

/-- Other events within the bounds keep a store within them. -/
theorem withEvents (h : IsBounded config stamped s) {es : List EventRow} {lastId : Nat}
    (hnumbered : Numbered es lastId) (hlength : es.length ≤ config.embedding.historySize) :
    IsBounded config stamped (s.withEvents es lastId) := by
  obtain ⟨rows, hs, hrows⟩ := h.state
  exact ⟨h.usable, (Dict.get?_insert_of_ne _ (by decide) _).trans h.current,
    ⟨rows, hs.withEvents es lastId, hrows⟩,
    ⟨es, lastId, keepsEvents_withEvents s es lastId, hnumbered, hlength⟩⟩

/-- An update that keeps the bounds of its value keeps those of the store. -/
theorem update (h : IsBounded config stamped s) {x : Edit}
    (hx : ∀ v, x.kind.IsBounded config stamped v → x.kind.IsBounded config stamped (x.change v)) :
    IsBounded config stamped (x.update s).state := by
  obtain hsame | ⟨rows, hs, hstate⟩ := x.update_cases s
  · rw [hsame]
    exact h
  · obtain ⟨rows', hs', hrows⟩ := h.state
    obtain rfl : rows = rows' := by
      have htable := hs.table.symm.trans hs'.table
      rw [Option.some.injEq, Table.clientState.injEq] at htable
      exact htable
    rw [hstate]
    refine h.withRows fun k cell hcell => ?_
    rw [Dict.get?_insert] at hcell
    split at hcell
    next hkey =>
      obtain rfl := Kind.key_injective hkey
      cases hcell
      exact ⟨_, rfl, hx _ (hrows x.kind).valueOf⟩
    next => exact hrows k cell hcell

/-- An event keeps the bounds of the store. -/
theorem recordEvent (h : IsBounded config stamped s) (event : Event) :
    IsBounded config stamped (Audience.recordEvent config.embedding event s).state := by
  obtain hsame | ⟨es, lastId, hevents, hstate⟩ := recordEvent_cases config.embedding event s
  · rw [hsame]
    exact h
  · obtain ⟨es', lastId', hevents', hnumbered, _⟩ := h.events
    obtain ⟨rfl, rfl⟩ : es = es' ∧ lastId = lastId' := by
      have htable := hevents.symm.trans hevents'
      rw [Option.some.injEq, Table.events.injEq] at htable
      exact htable
    have hnew : Numbered (es ++ [event.row (lastId + 1)]) (lastId + 1) := hnumbered.concat rfl
    rw [hstate]
    exact h.withEvents (hnew.sublist List.filter_sublist) (length_remaining_le hnew _)

/-- Clearing keeps the bounds of the store. -/
theorem clearAll (h : IsBounded config stamped s) :
    IsBounded config stamped (Store.clearAll s).state := by
  obtain ⟨rows, hs, hrows⟩ := h.state
  obtain ⟨es, lastId, hevents, hnumbered, _⟩ := h.events
  rw [hs.clearAll_eq hevents]
  refine (h.withRows fun k cell hcell => ?_).withEvents (hnumbered.sublist (List.nil_sublist _))
    (Nat.zero_le _)
  rw [Kind.get?_clearedRows] at hcell
  cases hcell

/-- A store that is opened again can be opened, and is within the bounds. -/
theorem reopened (h : IsBounded config stamped s) :
    (prepare s.reopened).result = .ok () ∧
      IsBounded config stamped (prepare s.reopened).state := by
  obtain ⟨rows, hs, _⟩ := h.state
  obtain ⟨database, poisoned, medium⟩ := s
  cases medium with
  -- what was in memory is lost
  | memory =>
    have hmedium : Medium.memory ≠ .unusable := by decide
    exact ⟨prepare_new hmedium, IsBounded.opened hmedium⟩
  | file =>
    obtain rfl : poisoned = false := hs.sound
    have hsame : reopened ⟨database, false, .file⟩ = ⟨database, false, .file⟩ := rfl
    rw [hsame, prepare_of_current h.usable rfl h.current]
    exact ⟨rfl, h⟩
  | unusable => exact absurd rfl h.usable

end Store.IsBounded

/-- Settings without an objection open an engine on a store that is within the bounds once it is up
to date. -/
theorem Engine.result_openOn {config : Config} {stamped : Prop} {s : Store}
    (hconfig : config.objection? = none) (hprepare : (Store.prepare s).result = .ok ())
    (hstore : (Store.prepare s).state.IsBounded config stamped) :
    (openOn config s).result
      = .ok (blank config (Segment.distinctUsable config.bandit.eligible)
          (Store.prepare s).state) := by
  obtain ⟨rows, hs, _⟩ := hstore.state
  have hversion : Store.schemaVersion (Store.prepare s).state
      = ⟨.ok 3, (Store.prepare s).state, []⟩ :=
    Store.guarded_eq hs.sound (Store.currentVersion_of_current hstore.current)
  rw [openOn, Op.result_bind_of_ok hprepare, Op.bind_ok hversion, ofConfig, Config.checked, hconfig]
  rfl

/-- An engine that is tidy and whose store is within the bounds. -/
structure Engine.IsOrdered (config : Config) (stamped : Prop) (e : Engine) : Prop where
  tidy : e.IsTidy config
  store : e.models.store.IsBounded config stamped

namespace Engine.IsOrdered

variable {config : Config} {stamped : Prop} {e : Engine}

/-- Every request keeps the bounds. -/
theorem serve (h : e.IsOrdered config stamped) (hconfig : config.objection? = none) (r : Request)
    (hstamped : stamped → (Usage.request r).IsStamped) :
    (e.serve r).2.IsOrdered config stamped := by
  refine ⟨h.tidy.serve r, ?_⟩
  cases r with
  | signal c =>
    have hedit : (c.afterEdit e).models.store.IsBounded config stamped := by
      rw [Call.afterEdit]
      cases hx : c.edit? e with
      | none => exact h.store
      | some x =>
        simp only
        split
        · exact h.store
        · exact h.store.update fun v hv =>
            (Call.edits_of_edit? hx).isBounded hconfig h.tidy hstamped hv
    have htidy : (c.afterEdit e).IsTidy config := h.tidy.afterEdit c
    have hmodel : (c.afterEdit e).models.embedding.config = config.embedding :=
      congrArg EmbeddingModel.config htidy.embedding
    change (c.operation e).state.models.store.IsBounded config stamped
    rw [c.state_operation, Call.afterEvent]
    cases c.event? (c.afterEdit e) with
    | none => exact hedit
    | some event =>
      simp only [hmodel]
      exact hedit.recordEvent event
  -- the next three requests do not reach the store
  | load kind json => cases kind <;> exact h.store
  | reset => exact h.store
  | setEligible segments => exact h.store
  | build now g =>
    change (build now g e).state.models.store.IsBounded config stamped
    rw [state_build]
    exact h.store
  | optOut =>
    change (optOut e).state.models.store.IsBounded config stamped
    rw [e.optOut_eq.2]
    exact h.store.clearAll

/-- An engine that is opened on an empty database is within the bounds. -/
theorem openOn (stamped : Prop) (hconfig : config.objection? = none) {medium : Medium}
    (hmedium : medium ≠ .unusable) : ∃ e, (Engine.openOn config (Store.new medium)).result = .ok e ∧
      e.IsOrdered config stamped := by
  have hstore : (Store.prepare (Store.new medium)).state.IsBounded config stamped :=
    Store.IsBounded.opened hmedium
  exact ⟨_, result_openOn hconfig (Store.prepare_new hmedium) hstore, IsTidy.blank _ _ _, hstore⟩

/-- Whatever happens to an engine keeps the bounds. -/
theorem use (h : e.IsOrdered config stamped) (hconfig : config.objection? = none) (u : Usage)
    (hstamped : stamped → u.IsStamped) :
    ∃ e', e.use config u = .ok e' ∧ e'.IsOrdered config stamped := by
  cases u with
  | request r => exact ⟨_, rfl, h.serve hconfig r hstamped⟩
  | reopen =>
    obtain ⟨hopened, hstore⟩ := h.store.reopened
    exact ⟨_, result_openOn hconfig hopened hstore, IsTidy.blank _ _ _, hstore⟩

/-- Any usage keeps the bounds. -/
theorem useAll (h : e.IsOrdered config stamped) (hconfig : config.objection? = none)
    (usages : List Usage) (hstamped : stamped → ∀ u ∈ usages, u.IsStamped) :
    ∃ e', e.useAll config usages = .ok e' ∧ e'.IsOrdered config stamped := by
  induction usages generalizing e with
  | nil => exact ⟨e, rfl, h⟩
  | cons u rest ih =>
    obtain ⟨e₁, huse, h₁⟩ := h.use hconfig u fun hs => hstamped hs u List.mem_cons_self
    obtain ⟨e', hrest, h'⟩ := ih h₁ fun hs v hv => hstamped hs v (List.mem_cons_of_mem _ hv)
    refine ⟨e', ?_, h'⟩
    rw [Engine.useAll, List.foldlM_cons, huse]
    exact hrest

end Engine.IsOrdered

/-! ## The bounds of an engine -/

/-- What an engine keeps is within the bounds of its settings. -/
structure Engine.IsInBounds (config : Config) (e : Engine) : Prop where
  /-- The store is at work. -/
  atWork : ∃ rows, e.models.store.Keeps rows
  /-- The stored history is the text of lists within the bounds. -/
  history : ∀ cell, e.models.store.cell Store.historyKey = some cell → ∃ h : History,
    cell = .text h.toJson.render ∧ ListsInBounds config.intent.trailCap h.lists
  /-- What the stored history is loaded as is within the bounds. -/
  loaded : ∀ text h, e.models.store.cell Store.historyKey = some (.text text) →
    Store.decoded History.ofJson? text = some h → ListsInBounds config.intent.trailCap h.lists
  /-- The stored arms decode, and all are those of usable segments. -/
  arms : ∀ cell, e.models.store.cell Store.armsKey = some cell → ∃ text arms,
    cell = .text text ∧ Store.decoded Arms.ofJson? text = some arms ∧
      ∀ s ∈ arms.keys, Segment.isUsable s = true
  /-- The eligible segments are usable, each once. -/
  eligible : e.models.bandit.eligible.Nodup ∧
    ∀ s ∈ e.models.bandit.eligible, Segment.isUsable s = true
  /-- A stored window that decodes has no more pages than settings say. -/
  window : ∀ text w, e.models.store.cell Store.windowKey = some (.text text) →
    Store.decoded Window.ofJson? text = some w → w.pages.length ≤ config.page.windowSize
  /-- There are no more events than settings say. -/
  events : ∃ es lastId, e.models.store.KeepsEvents es lastId ∧
    es.length ≤ config.embedding.historySize

namespace Engine.IsOrdered

variable {config : Config} {stamped : Prop} {e : Engine}

/-- What is stored under the key of a model is the text of a value within the bounds. -/
theorem holdsBounded (h : e.IsOrdered config stamped) (k : Kind) :
    k.HoldsBounded config stamped (e.models.store.cell k.key) := by
  obtain ⟨rows, hs, hrows⟩ := h.store.state
  rw [hs.cell]
  exact hrows k

/-- An engine that every run preserves is within the bounds. -/
theorem isInBounds (h : e.IsOrdered config stamped) : e.IsInBounds config where
  atWork :=
    have ⟨rows, hs, _⟩ := h.store.state
    ⟨rows, hs⟩
  history := by
    intro cell hcell
    obtain ⟨v, rfl, hv, _⟩ := h.holdsBounded .intent cell hcell
    exact ⟨v, rfl, hv.listsInBounds⟩
  loaded := by
    intro text v' hcell hdecoded
    obtain ⟨v, heq, hv⟩ := h.holdsBounded .intent _ hcell
    cases heq
    exact (Kind.isBounded_of_decoded hv hdecoded).1.listsInBounds
  arms := by
    intro cell hcell
    obtain ⟨v, rfl, hv⟩ := h.holdsBounded .bandit cell hcell
    obtain ⟨arms, hdecoded, hbound⟩ := Arms.IsBounded.decode_render hv
    exact ⟨_, arms, rfl, hdecoded, hbound.2⟩
  eligible := by
    rw [← h.tidy.eligible]
    exact ⟨Segment.nodup_distinctUsable _, fun _ hs => (Segment.mem_distinctUsable.1 hs).2⟩
  window := by
    intro text w hcell hdecoded
    obtain ⟨v, heq, hv⟩ := h.holdsBounded .page _ hcell
    cases heq
    have hbound : Kind.page.IsBounded config stamped w := Kind.isBounded_of_decoded hv hdecoded
    exact hbound
  events :=
    have ⟨es, lastId, hevents, _, hlength⟩ := h.store.events
    ⟨es, lastId, hevents, hlength⟩

/-- If all times can be stamped, the stored lists are within the bounds in the order in which they
are written. -/
theorem exists_lists (h : e.IsOrdered config stamped) (hstamped : stamped) {text : String}
    (hcell : e.models.store.cell Store.historyKey = some (.text text)) :
    ∃ lists, Store.decoded History.lists? text = some lists ∧
      ListsInBounds config.intent.trailCap lists := by
  obtain ⟨v, heq, hv, htimes⟩ := h.holdsBounded .intent _ hcell
  cases heq
  refine ⟨History.lists v, ?_, hv.listsInBounds⟩
  rw [Store.decoded]
  refine (congrArg (Option.bind · History.lists?)
    (Json.parse?_render (History.isSpelled_toJson v))).trans ?_
  exact History.lists?_toJson (htimes hstamped)

end Engine.IsOrdered

/-- Settings without an objection open an engine on an empty database, and every usage of it, with
any requests and opening it again at any time, leads to an engine within the bounds of its settings.
If all visits are of times that can be stamped, the lists of the stored text are within the bounds
as they are written; in any case they are before they are written and after they are loaded. -/
theorem bounds_after_usage {config : Config} {medium : Medium}
    (hconfig : config.objection? = none) (hmedium : medium ≠ .unusable) (usages : List Usage) :
    ∃ fresh e, (Engine.openOn config (Store.new medium)).result = .ok fresh ∧
      fresh.useAll config usages = .ok e ∧ e.IsInBounds config ∧
      ((∀ u ∈ usages, u.IsStamped) → ∀ text,
        e.models.store.cell Store.historyKey = some (.text text) →
        ∃ lists, Store.decoded History.lists? text = some lists ∧
          ListsInBounds config.intent.trailCap lists) := by
  obtain ⟨fresh, hopened, hfresh⟩ :=
    Engine.IsOrdered.openOn (∀ u ∈ usages, u.IsStamped) hconfig hmedium
  obtain ⟨e, hused, he⟩ := hfresh.useAll hconfig usages id
  exact ⟨fresh, e, hopened, hused, he.isInBounds, fun hstamped _ hcell =>
    he.exists_lists hstamped hcell⟩

/-- An engine in a file is opened again between signals and after opting out. -/
theorem bounds_after_usage_reopened :
    let usages : List Usage := [.request (.setEligible ["shoes", " ", "shoes"]),
      .request (.signal (.feedback ⟨"shoes", .clicked⟩)), .reopen,
      .request (.signal (.visit "https://shoes.example/" ⟨0, 0⟩)), .request .optOut, .reopen]
    ∃ fresh e, (Engine.openOn .default (Store.new .file)).result = .ok fresh ∧
      fresh.useAll .default usages = .ok e ∧ e.IsInBounds .default := by
  intro usages
  have hconfig : Config.default.objection? = none := by decide +kernel
  have hmedium : Medium.file ≠ .unusable := by decide
  obtain ⟨fresh, e, hopened, hused, hbounds, _⟩ := bounds_after_usage hconfig hmedium usages
  exact ⟨fresh, e, hopened, hused, hbounds⟩

end Audience
