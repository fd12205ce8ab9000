import Audience.Proofs.StoreView

/-! # The schema is brought up to date step by step

A database may be new, half way, ahead of the known steps, or have lost some of its tables. A run of
the migrations applies the steps above the highest recorded version in order. It applies all of
them, or stops at one that fails: then the steps before it stay, the one that failed leaves nothing
behind, and the next run goes on with it. Tables and indexes that were there before are kept.

* **`Database.Records d rows`** — the versions that a database records.
* **`Database.KeptIn d e`** — what was in `d` is still in `e`, but for the versions.
* **`Migration.run_cases`** — what one step does, and **`Migration.runAll_cases`**, what steps one
  after another do.
* **`migrate_completes_or_stops`** — what a run of the migrations does to any database. -/

namespace Audience

namespace Database

variable {d e : Database} {rows : List Int}

/-! ## Recorded versions -/

/-- The highest of some versions; without any it is zero. -/
def highest (rows : List Int) : Nat := (rows.max?.getD 0).toNat

/-- A database records these versions, which are numbers of versions. It has the table of versions,
or neither the table nor an index of that name, and then it records none. -/
structure Records (d : Database) (rows : List Int) : Prop where
  table : d.tables.get? versionTable = some (.versions rows) ∨
    d.tables.get? versionTable = none ∧ d.indexes.get? versionTable = none ∧ rows = []
  range : ∀ v ∈ rows, 0 ≤ v ∧ v ≤ versionLimit

/-- The database with the table of versions, which is made if it is missing. -/
def versioned (d : Database) : Database :=
  if d.tables.contains versionTable then d else d.setTable versionTable (.versions [])

/-- The table of versions is there once it has been made. -/
theorem Records.get?_versioned (h : d.Records rows) :
    d.versioned.tables.get? versionTable = some (.versions rows) := by
  rcases h.table with htable | ⟨hnone, -, rfl⟩
  · simp only [versioned, Dict.contains, htable, Option.isSome_some, if_true]
  · simp [versioned, Dict.contains, hnone, setTable]

/-- A database that has the table of versions is left as it is. -/
theorem versioned_of_get? (h : d.tables.get? versionTable = some (.versions rows)) :
    d.versioned = d := by
  simp [versioned, Dict.contains, h]

/-- The recorded versions are read, and the table is made if it is missing. -/
theorem Records.versionRows_eq (h : d.Records rows) :
    versionRows d = ⟨.ok rows, d.versioned, []⟩ := by
  have hmade : createTable versionTable (.versions []) d = ⟨.ok (), d.versioned, []⟩ := by
    rw [createTable, Op.bind_get, versioned]
    rcases h.table with htable | ⟨hnone, hfree, -⟩
    · simp [Dict.contains, htable]
    · simp [Dict.contains, hnone, hfree, Op.set]
  rw [Database.versionRows, Op.bind_ok hmade, Op.bind_ok (table_eq h.get?_versioned)]
  rfl

/-- The current version is the highest recorded one. -/
theorem Records.currentVersion_eq (h : d.Records rows) :
    currentVersion d = ⟨.ok (highest rows), d.versioned, []⟩ := by
  rw [Database.currentVersion, Op.bind_ok h.versionRows_eq, highest]
  cases hmax : rows.max? with
  | none => rfl
  | some v =>
    have hv : 0 ≤ v ∧ v ≤ versionLimit := h.range v (List.max?_mem hmax)
    simp [hv]

/-- No recorded version is above the highest one. -/
theorem le_highest (hrows : ∀ v ∈ rows, 0 ≤ v) {v : Int} (hv : v ∈ rows) : v ≤ highest rows := by
  rw [highest]
  cases hmax : rows.max? with
  | none =>
    rw [List.max?_eq_none_iff.1 hmax] at hv
    cases hv
  | some w =>
    have hle : v ≤ w := (List.max?_eq_some_iff.1 hmax).2 v hv
    have hnonneg : 0 ≤ v := hrows v hv
    simp only [Option.getD_some]
    omega

/-! ## What is kept -/

/-- Every index, and every table but that of the versions, is still there as it was. -/
structure KeptIn (d e : Database) : Prop where
  tables : ∀ name t, name ≠ versionTable → d.tables.get? name = some t →
    e.tables.get? name = some t
  indexes : ∀ name t, d.indexes.get? name = some t → e.indexes.get? name = some t

namespace KeptIn

theorem refl (d : Database) : d.KeptIn d := ⟨fun _ _ _ h => h, fun _ _ h => h⟩

theorem trans {c : Database} (hcd : c.KeptIn d) (hde : d.KeptIn e) : c.KeptIn e where
  tables name t hname h := hde.tables name t hname (hcd.tables name t hname h)
  indexes name t h := hde.indexes name t (hcd.indexes name t h)

/-- The table of versions may change. -/
theorem setTable_versionTable (d : Database) (t : Table) :
    d.KeptIn (d.setTable versionTable t) where
  tables _ _ hname h := (Dict.get?_insert_of_ne _ hname _).trans h
  indexes _ _ h := h

/-- A table may be added under a free name. -/
theorem setTable_of_free {name : String} (hfree : d.tables.get? name = none) (t : Table) :
    d.KeptIn (d.setTable name t) where
  tables other s _ h := by
    have hne : other ≠ name := by
      rintro rfl
      rw [hfree] at h
      cases h
    exact (Dict.get?_insert_of_ne _ hne _).trans h
  indexes _ _ h := h

/-- Making the table of versions keeps the rest. -/
theorem versioned (d : Database) : d.KeptIn d.versioned := by
  rw [Database.versioned]
  split
  · exact refl d
  · exact setTable_versionTable d _

end KeptIn

/-- What the step of a version makes is there. -/
def Has (d : Database) : Nat → Prop
  | 1 => d.tables.contains stateTable = true
  | 2 => d.tables.contains eventTable = true
  | 3 => d.indexes.contains eventIndex = true
  | _ => True

/-- A table is still there. -/
theorem KeptIn.contains {name : String} (h : d.KeptIn e) (hname : name ≠ versionTable)
    (hd : d.tables.contains name = true) : e.tables.contains name = true := by
  obtain ⟨t, ht⟩ := Option.isSome_iff_exists.1 hd
  exact Option.isSome_iff_exists.2 ⟨t, h.tables name t hname ht⟩

/-- What a step has made stays. -/
theorem KeptIn.has (h : d.KeptIn e) {version : Nat} (hd : d.Has version) : e.Has version := by
  unfold Has at hd ⊢
  split at hd
  · exact h.contains (by decide) hd
  · exact h.contains (by decide) hd
  · obtain ⟨t, ht⟩ := Option.isSome_iff_exists.1 hd
    exact Option.isSome_iff_exists.2 ⟨t, h.indexes eventIndex t ht⟩
  · trivial

end Database

/-! ## One step -/

namespace Migration

open Database

variable {d : Database} {rows : List Int} {m : Migration} {steps : List Migration}

/-- A step makes what belongs to its version and keeps everything else, or is refused. -/
def IsAdditive (m : Migration) : Prop :=
  ∀ d, (∃ d', m.apply d = ⟨.ok (), d', []⟩ ∧ d.KeptIn d' ∧
      d'.tables.get? versionTable = d.tables.get? versionTable ∧ d'.Has m.version) ∨
    ∃ e d', m.apply d = ⟨.error (.error e), d', []⟩

/-- A step that makes a table. -/
theorem isAdditive_createTable {version : Nat} {name : String} {fresh : Table}
    (hname : versionTable ≠ name)
    (hhas : ∀ d : Database, d.tables.contains name = true → d.Has version) :
    IsAdditive ⟨version, createTable name fresh⟩ := by
  intro d
  simp only [createTable, Op.bind_get]
  cases hthere : d.tables.contains name with
  | true => exact .inl ⟨d, rfl, .refl d, rfl, hhas d hthere⟩
  | false =>
    have hfree : d.tables.get? name = none := by simpa [Dict.contains] using hthere
    cases hindex : d.indexes.contains name with
    | true => exact .inr ⟨_, d, rfl⟩
    | false =>
      refine .inl ⟨d.setTable name fresh, rfl, .setTable_of_free hfree fresh, ?_, hhas _ ?_⟩
      · exact Dict.get?_insert_of_ne _ hname _
      · simp [Dict.contains, setTable]

/-- The step that makes the index of the events. -/
theorem isAdditive_createEventIndex : IsAdditive ⟨3, createEventIndex⟩ := by
  intro d
  simp only [createEventIndex]
  cases hevents : d.tables.get? eventTable with
  | none => exact .inr ⟨_, d, Op.bind_error (table_error hevents)⟩
  | some t =>
    rw [Op.bind_ok (table_eq hevents), Op.bind_get]
    cases htable : d.tables.contains eventIndex with
    | true => exact .inr ⟨_, d, rfl⟩
    | false =>
      cases hindex : d.indexes.contains eventIndex with
      | true => exact .inl ⟨d, rfl, .refl d, rfl, hindex⟩
      | false =>
        cases t with
        | events rows lastId =>
          refine .inl ⟨{ d with indexes := d.indexes.insert eventIndex eventTable }, rfl,
            ⟨fun _ _ _ h => h, fun name t h => ?_⟩, rfl, ?_⟩
          · have hne : name ≠ eventIndex := by
              rintro rfl
              rw [Dict.contains, h] at hindex
              cases hindex
            exact (Dict.get?_insert_of_ne _ hne _).trans h
          · simp [Has, Dict.contains]
        | versions rows => exact .inr ⟨_, d, rfl⟩
        | clientState rows => exact .inr ⟨_, d, rfl⟩
        | foreign => exact .inr ⟨_, d, rfl⟩

/-- Every step is additive. -/
theorem isAdditive_of_mem_all (h : m ∈ all) : m.IsAdditive := by
  simp only [all, List.mem_cons, List.not_mem_nil, or_false] at h
  rcases h with rfl | rfl | rfl
  · exact isAdditive_createTable (by decide) fun _ h => h
  · exact isAdditive_createTable (by decide) fun _ h => h
  · exact isAdditive_createEventIndex

/-- What steps have done to a database that recorded some versions: what was there is kept, the
versions of the steps are recorded, and what the steps make is there. -/
structure Applied (steps : List Migration) (rows : List Int) (d d' : Database) : Prop where
  kept : d.KeptIn d'
  recorded : d'.tables.get? versionTable
    = some (.versions ((steps.map (fun m => (m.version : Int))).reverse ++ rows))
  made : ∀ m ∈ steps, d'.Has m.version

/-- A version that is not recorded yet is recorded, and the rest is kept. -/
theorem recordVersion_eq {v : Int} (hd : d.tables.get? versionTable = some (.versions rows))
    (hv : v ∉ rows) :
    recordVersion v d = ⟨.ok (), d.setTable versionTable (.versions (v :: rows)), []⟩ := by
  rw [recordVersion, Op.bind_ok (table_eq hd)]
  simp [hv, Op.modify]

/-- A step of a new version is applied and recorded, or fails under its version and leaves
nothing behind. -/
theorem run_cases (hm : m.IsAdditive) (hd : d.tables.get? versionTable = some (.versions rows))
    (hnew : (m.version : Int) ∉ rows) :
    (∃ d' log, m.run d = ⟨.ok (), d', log⟩ ∧ Applied [m] rows d d') ∨
      ∃ reason, m.run d
        = ⟨.error (.error (.storage (.migrationFailed m.version reason))), d, []⟩ := by
  rcases hm d with ⟨d', happly, hkept, hversions, hhas⟩ | ⟨e, d', happly⟩
  · have hrecord := recordVersion_eq (hversions.trans hd) hnew
    have hrecorded := KeptIn.setTable_versionTable d' (.versions ((m.version : Int) :: rows))
    have hrun : m.run d = ⟨.ok (), d'.setTable versionTable (.versions (m.version :: rows)),
        [⟨.info, "applied schema migration", none⟩]⟩ := by
      simp only [run, happly, hrecord]
    refine .inl ⟨_, _, hrun, hkept.trans hrecorded, ?_, ?_⟩
    · simp [setTable]
    · intro m' hm'
      rw [List.mem_singleton.1 hm']
      exact hrecorded.has hhas
  · exact .inr ⟨e.message, by simp only [run, happly]⟩

/-! ## Steps one after another -/

/-- The first step of several counts. -/
theorem runAll_cons_ok {d' d'' : Database} {log log' : List LogLine} {n : Nat}
    (hm : m.run d = ⟨.ok (), d', log⟩) (hrest : runAll steps d' = ⟨.ok n, d'', log'⟩) :
    runAll (m :: steps) d = ⟨.ok (n + 1), d'', log ++ log'⟩ := by
  rw [runAll, Op.bind_ok hm, Op.bind_ok hrest]
  simp

/-- One step and then others. -/
theorem Applied.cons {d' d'' : Database} (hm : Applied [m] rows d d')
    (hrest : Applied steps ((m.version : Int) :: rows) d' d'') :
    Applied (m :: steps) rows d d'' where
  kept := hm.kept.trans hrest.kept
  recorded := by
    rw [hrest.recorded]
    simp
  made m' hm' := by
    rcases List.mem_cons.1 hm' with rfl | hm'
    · exact hrest.kept.has (hm.made m' (List.mem_singleton.2 rfl))
    · exact hrest.made m' hm'

/-- New steps in ascending order are all applied, or those before one that fails are. -/
theorem runAll_cases (hsteps : ∀ m ∈ steps, m.IsAdditive)
    (hascending : steps.Pairwise (fun a b => a.version < b.version))
    (hd : d.tables.get? versionTable = some (.versions rows))
    (hnew : ∀ m ∈ steps, ∀ v ∈ rows, v < (m.version : Int)) :
    (∃ d' log, runAll steps d = ⟨.ok steps.length, d', log⟩ ∧ Applied steps rows d d') ∨
      ∃ before m after d' log reason, steps = before ++ m :: after ∧
        runAll before d = ⟨.ok before.length, d', log⟩ ∧ Applied before rows d d' ∧
        runAll steps d
          = ⟨.error (.error (.storage (.migrationFailed m.version reason))), d', log⟩ := by
  induction steps generalizing d rows with
  | nil => exact .inl ⟨d, [], rfl, .refl d, hd, fun _ h => nomatch h⟩
  | cons m steps ih =>
    have hm := hsteps m (List.mem_cons_self ..)
    have hfresh : (m.version : Int) ∉ rows := by
      intro hmem
      exact Int.lt_irrefl _ (hnew m (List.mem_cons_self ..) _ hmem)
    rcases run_cases hm hd hfresh with ⟨d₁, log₁, hrun, happlied⟩ | ⟨reason, hrun⟩
    · -- the versions after the first step are still below those of the others
      have hlater : ∀ m' ∈ steps, ∀ v ∈ (m.version : Int) :: rows, v < (m'.version : Int) := by
        intro m' hm' v hv
        rcases List.mem_cons.1 hv with rfl | hv
        · exact Int.ofNat_lt.2 (List.rel_of_pairwise_cons hascending hm')
        · exact hnew m' (List.mem_cons_of_mem _ hm') v hv
      have hrecorded : d₁.tables.get? versionTable = some (.versions (m.version :: rows)) := by
        simpa using happlied.recorded
      rcases ih (fun m' hm' => hsteps m' (List.mem_cons_of_mem _ hm')) hascending.of_cons hrecorded
          hlater with ⟨d₂, log₂, hall, hrest⟩ | ⟨before, m', after, d₂, log₂, reason, rfl, hbefore,
          hrest, hstopped⟩
      · exact .inl ⟨d₂, log₁ ++ log₂, runAll_cons_ok hrun hall, happlied.cons hrest⟩
      · refine .inr ⟨m :: before, m', after, d₂, log₁ ++ log₂, reason, rfl,
          runAll_cons_ok hrun hbefore, happlied.cons hrest, ?_⟩
        rw [runAll, Op.bind_ok hrun, Op.bind_error hstopped]
    · refine .inr ⟨[], m, steps, d, [], reason, rfl, rfl, ⟨.refl d, hd, fun _ h => nomatch h⟩, ?_⟩
      rw [runAll, Op.bind_error hrun]

/-! ## The missing steps -/

/-- The steps above a version. -/
def above (v : Nat) : List Migration := all.filter (fun m => decide (v < m.version))

/-- The steps above a version have the numbers that follow it, up to the latest. -/
theorem versions_above (v : Nat) : (above v).map version = List.range' (v + 1) (latest - v) := by
  match v with
  | 0 => rfl
  | 1 => rfl
  | 2 => rfl
  | v + 3 =>
    have hnone : above (v + 3) = [] := by
      rw [above, List.filter_eq_nil_iff]
      simp [all]
    rw [hnone, latest, Nat.sub_eq_zero_of_le (Nat.le_add_left 3 v)]
    rfl

/-- The versions of the steps ascend. -/
theorem pairwise_above (v : Nat) : (above v).Pairwise (fun a b => a.version < b.version) := by
  rw [← List.pairwise_map, versions_above]
  exact List.pairwise_lt_range'

/-- The steps between two versions. -/
def between (v k : Nat) : List Migration :=
  all.filter (fun m => decide (v < m.version) && decide (m.version < k))

/-- The steps from a version on. -/
def startingAt (k : Nat) : List Migration := all.filter (fun m => decide (k ≤ m.version))

/-- The steps before one of those above a version have the numbers in between. -/
theorem eq_between {v : Nat} {before after : List Migration} (h : above v = before ++ m :: after) :
    before = between v m.version ∧ before.map version = List.range' (v + 1) before.length ∧
      m.version = v + 1 + before.length ∧ m.version ≤ latest := by
  have hversions := versions_above v
  rw [h] at hversions
  have hlength : before.length + (after.length + 1) = latest - v := by
    simpa using congrArg List.length hversions
  rw [← hlength, ← List.range'_append_1, List.map_append] at hversions
  obtain ⟨hbefore, hrest⟩ := List.append_inj hversions (by simp)
  have hm : m.version = v + 1 + before.length := by
    rw [List.map_cons, List.range'_succ] at hrest
    exact (List.cons.inj hrest).1
  refine ⟨?_, hbefore, hm, by omega⟩
  have hascending := h ▸ pairwise_above v
  obtain ⟨-, hafter, hcross⟩ := List.pairwise_append.1 hascending
  have hsplit :
      between v m.version = (above v).filter (fun m' => decide (m'.version < m.version)) := by
    rw [between, above, List.filter_filter]
    exact List.filter_congr fun _ _ => Bool.and_comm _ _
  rw [hsplit, h, List.filter_append, List.filter_cons_of_neg (by simp)]
  rw [List.filter_eq_self.2, List.filter_eq_nil_iff.2, List.append_nil]
  · intro m' hm'
    have := List.rel_of_pairwise_cons hafter hm'
    simp only [decide_eq_true_eq]
    omega
  · intro m' hm'
    exact decide_eq_true (hcross m' hm' m (List.mem_cons_self ..))

/-- A version that is recorded and that no other exceeds is the highest one. -/
theorem highest_eq {v : Nat} (hmem : (v : Int) ∈ rows) (hle : ∀ w ∈ rows, w ≤ v) :
    highest rows = v := by
  rw [highest, List.max?_eq_some_iff.2 ⟨hmem, hle⟩]
  rfl

/-- Once the versions that follow the highest are recorded, the last of them is the highest. -/
theorem highest_range' (hrows : ∀ v ∈ rows, 0 ≤ v) (n : Nat) :
    highest (((List.range' (highest rows + 1) n).map (fun v : Nat => (v : Int))).reverse ++ rows)
      = highest rows + n := by
  cases n with
  | zero => rfl
  | succ n =>
    refine highest_eq ?_ ?_
    · simp only [List.mem_append, List.mem_reverse, List.mem_map, List.mem_range'_1]
      exact .inl ⟨highest rows + (n + 1), by omega, rfl⟩
    · intro w hw
      simp only [List.mem_append, List.mem_reverse, List.mem_map, List.mem_range'_1] at hw
      rcases hw with ⟨v, hv, rfl⟩ | hw
      · omega
      · have := le_highest hrows hw
        omega

/-- A database that steps have been applied to records their versions, and the last of them is the
current version. -/
theorem Applied.exists_records (hd : d.Records rows) {d' : Database}
    (hsteps : steps.map version = List.range' (highest rows + 1) steps.length)
    (hlatest : ∀ m ∈ steps, m.version ≤ latest) (happlied : Applied steps rows d.versioned d') :
    ∃ rows', d'.Records rows' ∧ d'.tables.get? versionTable = some (.versions rows') ∧
      highest rows' = highest rows + steps.length := by
  refine ⟨_, ⟨.inl happlied.recorded, ?_⟩, happlied.recorded, ?_⟩
  · intro v hv
    simp only [List.mem_append, List.mem_reverse, List.mem_map] at hv
    rcases hv with ⟨m, hm, rfl⟩ | hv
    · have hle : m.version ≤ 3 := hlatest m hm
      rw [Database.versionLimit]
      omega
    · exact hd.range v hv
  · have hmap : steps.map (fun m => (m.version : Int))
        = (List.range' (highest rows + 1) steps.length).map (fun v : Nat => (v : Int)) := by
      rw [← hsteps, List.map_map]
      rfl
    rw [hmap]
    exact highest_range' (fun v hv => (hd.range v hv).1) _

/-- A step above a version is a known one. -/
theorem mem_all_of_mem_above {v : Nat} (h : m ∈ above v) : m ∈ all := (List.mem_filter.1 h).1

/-- No step is above the latest. -/
theorem version_le_latest (h : m ∈ all) : m.version ≤ latest := by
  simp only [all, List.mem_cons, List.not_mem_nil, or_false] at h
  rcases h with rfl | rfl | rfl <;> decide

end Migration

namespace Database

open Migration

variable {d : Database} {rows : List Int}

/-- The migrations are the steps above the highest recorded version. -/
theorem Records.migrate_eq (h : d.Records rows) :
    migrate d = runAll (above (highest rows)) d.versioned := by
  rw [Database.migrate, Op.bind_ok h.currentVersion_eq]
  rfl

/-- A run applies all steps above version `v`. What they make is there, the current version is that
of the last step, or `v` if that is ahead, and the next run applies nothing and changes nothing. -/
structure Completes (d : Database) (v : Nat) : Prop where
  result : (migrate d).result = .ok (above v).length
  made : ∀ m ∈ above v, (migrate d).state.Has m.version
  version : currentVersion (migrate d).state = ⟨.ok (max v latest), (migrate d).state, []⟩
  again : migrate (migrate d).state = ⟨.ok 0, (migrate d).state, []⟩

/-- A run stops at the step `k` above version `v`. The database is exactly what the steps between
`v` and `k` make of it, and any database that records the same versions goes on with step `k`. -/
structure StopsAt (d : Database) (v k : Nat) : Prop where
  range : v < k ∧ k ≤ latest
  result : ∃ reason, (migrate d).result = .error (.error (.storage (.migrationFailed k reason)))
  committed : ∃ log, runAll (between v k) d.versioned
    = ⟨.ok (between v k).length, (migrate d).state, log⟩
  made : ∀ m ∈ between v k, (migrate d).state.Has m.version
  version : currentVersion (migrate d).state = ⟨.ok (k - 1), (migrate d).state, []⟩
  resumes : ∀ e : Database,
    e.tables.get? versionTable = (migrate d).state.tables.get? versionTable →
      migrate e = runAll (startingAt k) e

/-- A run of all missing steps completes. -/
theorem Records.completes (h : d.Records rows) {d' : Database} {log : List LogLine}
    (hall : migrate d = ⟨.ok (above (highest rows)).length, d', log⟩)
    (happlied : Applied (above (highest rows)) rows d.versioned d') :
    d.Completes (highest rows) := by
  have hlength : (above (highest rows)).length = latest - highest rows := by
    simpa using congrArg List.length (versions_above (highest rows))
  obtain ⟨rows', hrecords, htable, hhighest⟩ := happlied.exists_records h
    (hlength ▸ versions_above _) (fun m hm => version_le_latest (mem_all_of_mem_above hm))
  have hmax : highest rows' = max (highest rows) latest := by omega
  have hnone : above (highest rows') = [] := by
    rw [← List.map_eq_nil_iff, versions_above, hmax, Nat.sub_eq_zero_of_le (Nat.le_max_right ..)]
    rfl
  constructor
  · rw [hall]
  · rw [hall]
    exact happlied.made
  · rw [hall, hrecords.currentVersion_eq, versioned_of_get? htable, hmax]
  · rw [hall, hrecords.migrate_eq, versioned_of_get? htable, hnone]
    rfl

/-- A run whose steps before a failing one have been applied stops at that step. -/
theorem Records.stopsAt (h : d.Records rows) {m : Migration} {before after : List Migration}
    {d' : Database} {log : List LogLine} {reason : String}
    (hsplit : above (highest rows) = before ++ m :: after)
    (hbefore : runAll before d.versioned = ⟨.ok before.length, d', log⟩)
    (happlied : Applied before rows d.versioned d')
    (hstop : migrate d
      = ⟨.error (.error (.storage (.migrationFailed m.version reason))), d', log⟩) :
    d.StopsAt (highest rows) m.version := by
  obtain ⟨hbetween, hversions, hm, hlatest⟩ := eq_between hsplit
  have hbelow : ∀ m' ∈ before, m'.version ≤ latest := by
    intro m' hm'
    have hmem : m' ∈ above (highest rows) := hsplit ▸ List.mem_append_left _ hm'
    exact version_le_latest (mem_all_of_mem_above hmem)
  obtain ⟨rows', hrecords, htable, hhighest⟩ := happlied.exists_records h hversions hbelow
  have hprevious : highest rows' = m.version - 1 := by omega
  have hnext : above (highest rows') = startingAt m.version := by
    refine List.filter_congr fun m' _ => decide_eq_decide.2 ?_
    omega
  constructor
  · omega
  · exact ⟨reason, by rw [hstop]⟩
  · rw [hstop, ← hbetween]
    exact ⟨log, hbefore⟩
  · rw [hstop, ← hbetween]
    exact happlied.made
  · rw [hstop, hrecords.currentVersion_eq, versioned_of_get? htable, hprevious]
  · intro e he
    rw [hstop] at he
    have hrecords' : e.Records rows' := ⟨.inl (he.trans htable), hrecords.range⟩
    rw [hrecords'.migrate_eq, hnext, versioned_of_get? (he.trans htable)]

end Database

open Database Migration in
/-- A run of the migrations on a database that records versions up to `v` completes, or stops at one
of the missing steps. In both cases all that was there is kept. -/
theorem migrate_completes_or_stops (d : Database) (rows : List Int) (h : d.Records rows) :
    d.KeptIn (migrate d).state ∧
      (d.Completes (highest rows) ∨ ∃ k, d.StopsAt (highest rows) k) := by
  have hlow : ∀ m ∈ above (highest rows), ∀ v ∈ rows, v < (m.version : Int) := by
    intro m hm v hv
    have hle := le_highest (fun v hv => (h.range v hv).1) hv
    have hlt : highest rows < m.version := of_decide_eq_true (List.mem_filter.1 hm).2
    omega
  have hadditive : ∀ m ∈ above (highest rows), m.IsAdditive :=
    fun m hm => isAdditive_of_mem_all (mem_all_of_mem_above hm)
  rcases runAll_cases hadditive (pairwise_above _) h.get?_versioned hlow with
    ⟨d', log, hall, happlied⟩ |
      ⟨before, m, after, d', log, reason, hsplit, hbefore, happlied, hstop⟩
  · rw [← h.migrate_eq] at hall
    exact ⟨hall ▸ (KeptIn.versioned d).trans happlied.kept, .inl (h.completes hall happlied)⟩
  · rw [← h.migrate_eq] at hstop
    exact ⟨hstop ▸ (KeptIn.versioned d).trans happlied.kept,
      .inr ⟨m.version, h.stopsAt hsplit hbefore happlied hstop⟩⟩

/-- A database at version two that has lost its table of events. -/
def Database.withoutEvents : Database :=
  (Database.empty.setTable versionTable (.versions [2, 1])).setTable stateTable
    (.clientState (Dict.empty.insert "k" (.text "v")))

open Database Migration in
/-- Without the table of events the last step fails, and what is stored stays. -/
theorem withoutEvents_stops :
    withoutEvents.Records [2, 1] ∧
      (∃ k, withoutEvents.StopsAt 2 k) ∧
      (migrate withoutEvents).state.tables.get? stateTable
        = some (.clientState (Dict.empty.insert "k" (.text "v"))) := by
  have hrecords : withoutEvents.Records [2, 1] := ⟨.inl rfl, by decide⟩
  obtain ⟨hkept, hcompletes | hstops⟩ := migrate_completes_or_stops withoutEvents [2, 1] hrecords
  · -- the step would have to be counted, but it is refused
    have hcounted : (migrate withoutEvents).result = .ok 1 := hcompletes.result
    cases hcounted
  · exact ⟨hrecords, hstops, hkept.tables stateTable _ (by decide) rfl⟩

end Audience
