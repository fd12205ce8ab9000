import Audience.Proofs.Sorting
import Audience.Proofs.StoreView
import Mathlib.Data.List.Nodup

/-! # Which events are retained

Events are inserted in any order of their times, and now and then all but the newest are deleted.
Deleting early does no harm: after the last deletion the rows that remain are the newest of all rows
that have ever been there.

* **`EventStep`** — one access to the events of a store, and **`EventStep.runAll`**, one after
  another; **`EventStep.Does`** — what a step does to the table.
* **`insertedEvents n steps`**, **`insertedRows n steps`** — what steps insert behind row `n`.
* **`newestRows_remaining`** — what a deletion leaves, in the order of events.
* **`rows_after_deletion`** — what any sequence of steps that ends with a deletion leaves. -/

namespace Audience

/-! ## Rows in the order of events -/

namespace EventRow

/-- The order of events is transitive. -/
theorem isNewer_trans (a b c : EventRow) (hab : a.isNewer b = true) (hbc : b.isNewer c = true) :
    a.isNewer c = true := by
  simp only [isNewer, decide_eq_true_eq] at *
  rcases hab with hab | ⟨hab, hid⟩
  · rcases hbc with hbc | ⟨hbc, _⟩
    · exact .inl (String.lt_trans hbc hab)
    · exact .inl (hbc ▸ hab)
  · rcases hbc with hbc | ⟨hbc, hid'⟩
    · exact .inl (hab ▸ hbc)
    · exact .inr ⟨hab.trans hbc, Nat.le_trans hid' hid⟩

/-- Of two rows one is before the other. -/
theorem isNewer_total (a b : EventRow) : (a.isNewer b || b.isNewer a) = true := by
  simp only [isNewer, Bool.or_eq_true, decide_eq_true_eq]
  by_cases hab : b.createdAt < a.createdAt
  · exact .inl (.inl hab)
  by_cases hba : a.createdAt < b.createdAt
  · exact .inr (.inl hba)
  have heq : a.createdAt = b.createdAt :=
    String.le_antisymm (String.not_lt.1 hab) (String.not_lt.1 hba)
  rcases Nat.le_total b.id a.id with hid | hid
  · exact .inl (.inr ⟨heq, hid⟩)
  · exact .inr (.inr ⟨heq.symm, hid⟩)

/-- Two rows that are before each other have the same number. -/
theorem id_eq_of_isNewer {a b : EventRow} (hab : a.isNewer b = true) (hba : b.isNewer a = true) :
    a.id = b.id := by
  simp only [isNewer, decide_eq_true_eq] at *
  rcases hab with hab | ⟨hab, hid⟩
  · rcases hba with hba | ⟨hba, _⟩
    · exact absurd hab (String.lt_asymm hba)
    · exact absurd hab (hba ▸ String.lt_irrefl _)
  · rcases hba with hba | ⟨_, hid'⟩
    · exact absurd hba (hab ▸ String.lt_irrefl _)
    · exact Nat.le_antisymm hid' hid

end EventRow

/-- Rows are numbered when no two have the same number and no number is beyond the last one ever
given. -/
structure Numbered (rows : List EventRow) (lastId : Nat) : Prop where
  distinct : rows.Pairwise (fun a b => a.id ≠ b.id)
  le_last : ∀ r ∈ rows, r.id ≤ lastId

instance (rows : List EventRow) (lastId : Nat) : Decidable (Numbered rows lastId) :=
  decidable_of_iff (rows.Pairwise (fun a b => a.id ≠ b.id) ∧ ∀ r ∈ rows, r.id ≤ lastId)
    ⟨fun h => ⟨h.1, h.2⟩, fun h => ⟨h.1, h.2⟩⟩

namespace Numbered

variable {rows : List EventRow} {lastId : Nat}

/-- Rows with the same number are the same. -/
theorem eq_of_id_eq (h : Numbered rows lastId) {a b : EventRow} (ha : a ∈ rows) (hb : b ∈ rows)
    (hid : a.id = b.id) : a = b := by
  have hnodup : (rows.map EventRow.id).Nodup := List.pairwise_map.2 h.distinct
  exact List.inj_on_of_nodup_map hnodup ha hb hid

/-- Some of numbered rows are numbered. -/
theorem sublist (h : Numbered rows lastId) {rows' : List EventRow} (hsub : rows'.Sublist rows) :
    Numbered rows' lastId :=
  ⟨h.distinct.sublist hsub, fun r hr => h.le_last r (hsub.subset hr)⟩

/-- The next row has the next number. -/
theorem concat (h : Numbered rows lastId) {r : EventRow} (hr : r.id = lastId + 1) :
    Numbered (rows ++ [r]) (lastId + 1) := by
  constructor
  · refine List.pairwise_append.2 ⟨h.distinct, List.pairwise_singleton _ _, fun a ha b hb => ?_⟩
    have hle := h.le_last a ha
    rw [List.mem_singleton.1 hb, hr]
    omega
  · intro a ha
    rcases List.mem_append.1 ha with ha | ha
    · exact Nat.le_succ_of_le (h.le_last a ha)
    · exact Nat.le_of_eq (List.mem_singleton.1 ha ▸ hr)

/-- The order of events does not depend on the order of the table. -/
theorem newestRows_perm (h : Numbered rows lastId) {rows' : List EventRow}
    (hperm : rows'.Perm rows) : newestRows rows' = newestRows rows := by
  refine List.Perm.eq_of_pairwise ?_
    (List.pairwise_mergeSort EventRow.isNewer_trans EventRow.isNewer_total rows')
    (List.pairwise_mergeSort EventRow.isNewer_trans EventRow.isNewer_total rows)
    ((List.mergeSort_perm _ _).trans (hperm.trans (List.mergeSort_perm _ _).symm))
  -- two rows that are equally new have one number, so they are one row
  intro a b ha hb hab hba
  exact h.eq_of_id_eq (hperm.subset (List.mem_mergeSort.1 ha)) (List.mem_mergeSort.1 hb)
    (EventRow.id_eq_of_isNewer hab hba)

/-- A new row comes to its place among the others. -/
theorem newestRows_concat (h : Numbered rows lastId) {r : EventRow} (hr : r.id = lastId + 1) :
    newestRows (rows ++ [r]) = newestRows (r :: rows) :=
  ((h.concat hr).newestRows_perm List.perm_append_comm).symm

end Numbered

/-- The rows that remain are the first ones in the order of events. -/
theorem remaining_perm {rows : List EventRow} {lastId : Nat} (h : Numbered rows lastId)
    (keep : Nat) : (Database.remaining keep rows).Perm
      ((newestRows rows).take (min keep Database.keepLimit)) := by
  rw [Database.remaining]
  generalize min keep Database.keepLimit = n
  have hsorted : (newestRows rows).Perm rows := List.mergeSort_perm _ _
  refine (hsorted.symm.filter _).trans (.of_eq ?_)
  -- the rest of the rows have other numbers than the first ones
  have hfirst : ∀ r ∈ (newestRows rows).take n,
      (((newestRows rows).take n).map EventRow.id).contains r.id = true :=
    fun r hr => List.contains_iff_mem.2 (List.mem_map_of_mem hr)
  have hother : ∀ r ∈ (newestRows rows).drop n,
      ¬(((newestRows rows).take n).map EventRow.id).contains r.id = true := by
    intro r hr hcontains
    obtain ⟨a, ha, hid⟩ := List.mem_map.1 (List.contains_iff_mem.1 hcontains)
    have hdistinct := hsorted.symm.pairwise h.distinct fun hne heq => hne heq.symm
    rw [← List.take_append_drop n (newestRows rows)] at hdistinct
    exact (List.pairwise_append.1 hdistinct).2.2 a ha r hr hid
  have hsplit : ∀ p : EventRow → Bool, (newestRows rows).filter p
      = ((newestRows rows).take n).filter p ++ ((newestRows rows).drop n).filter p := by
    intro p
    rw [← List.filter_append, List.take_append_drop]
  rw [hsplit, List.filter_eq_self.2 hfirst, List.filter_eq_nil_iff.2 hother, List.append_nil]

/-- What a deletion leaves, in the order of events. -/
theorem newestRows_remaining {rows : List EventRow} {lastId : Nat} (h : Numbered rows lastId)
    (keep : Nat) : newestRows (Database.remaining keep rows)
      = (newestRows rows).take (min keep Database.keepLimit) := by
  have hsub : (Database.remaining keep rows).Sublist rows := List.filter_sublist
  rw [← (h.sublist hsub).newestRows_perm (remaining_perm h keep).symm]
  exact List.mergeSort_of_pairwise
    (List.pairwise_mergeSort EventRow.isNewer_trans EventRow.isNewer_total rows).take

/-! ## Steps -/

/-- One access to the events of a store. -/
inductive EventStep where
  /-- An event is inserted. -/
  | insert (e : Event)
  /-- All events but the newest are deleted. -/
  | keepNewest (keep : Nat)

/-- The events that steps insert behind the row with a given number, each with the number of its
row. -/
def insertedEvents : Nat → List EventStep → List (Nat × Event)
  | _, [] => []
  | n, .insert e :: rest => (n + 1, e) :: insertedEvents (n + 1) rest
  | n, .keepNewest _ :: rest => insertedEvents n rest

/-- The row of an event with its number. -/
def numberedRow (p : Nat × Event) : EventRow := p.2.row p.1

/-- The rows that steps insert behind the row with a given number. -/
def insertedRows (n : Nat) (steps : List EventStep) : List EventRow :=
  (insertedEvents n steps).map numberedRow

namespace EventStep

/-- The operation of a step, with the number of rows that a deletion says it has deleted. -/
def operation : EventStep → Op Store (Option Nat)
  | .insert e => do
    Store.events.insert e
    return none
  | .keepNewest keep => do
    return some (← Store.events.keepNewest keep)

/-- Steps one after another, with what each of them returns. -/
def runAll : List EventStep → Op Store (List (Option Nat))
  | [] => return []
  | step :: rest => do
    let reply ← step.operation
    let replies ← runAll rest
    return reply :: replies

variable {s : Store} {rows : List EventRow} {lastId : Nat}

/-- What a step does to the rows of the table and the number of the last one, and what it
returns. -/
inductive Does (rows : List EventRow) (lastId : Nat) :
    EventStep → List EventRow → Nat → Option Nat → Prop
  /-- The row of the event is appended. -/
  | insert (e : Event) :
    Does rows lastId (.insert e) (rows ++ [e.row (lastId + 1)]) (lastId + 1) none
  /-- Rows are deleted, and how many there were is returned. -/
  | keepNewest (keep : Nat) :
    Does rows lastId (.keepNewest keep) (Database.remaining keep rows) lastId
      (some (rows.length - (Database.remaining keep rows).length))

/-- Every step does one of these. -/
theorem does_operation (hsound : s.poisoned = false) (hevents : s.KeepsEvents rows lastId)
    (step : EventStep) : ∃ rows' last reply,
      step.operation s = ⟨.ok reply, s.withEvents rows' last, []⟩ ∧
      Does rows lastId step rows' last reply := by
  cases step with
  | insert e =>
    refine ⟨_, _, _, ?_, .insert e⟩
    rw [operation, Op.bind_ok (hevents.insert hsound e)]
    rfl
  | keepNewest keep =>
    refine ⟨_, _, _, ?_, .keepNewest keep⟩
    rw [operation, Op.bind_ok (hevents.keepNewest hsound keep)]
    rfl

/-- A step that succeeds comes before the others. -/
theorem runAll_cons {step : EventStep} {rest : List EventStep} {s₁ s₂ : Store}
    {reply : Option Nat} {replies : List (Option Nat)}
    (hstep : step.operation s = ⟨.ok reply, s₁, []⟩)
    (hrest : runAll rest s₁ = ⟨.ok replies, s₂, []⟩) :
    runAll (step :: rest) s = ⟨.ok (reply :: replies), s₂, []⟩ := by
  rw [runAll, Op.bind_ok hstep, Op.bind_ok hrest]
  rfl

/-- After a step that succeeds, the others leave behind what they leave behind from there. -/
theorem state_runAll_cons {step : EventStep} {s₁ : Store} {reply : Option Nat}
    (hstep : step.operation s = ⟨.ok reply, s₁, []⟩) (rest : List EventStep) :
    (runAll (step :: rest) s).state = (runAll rest s₁).state := by
  rw [runAll, Op.bind_ok hstep]
  exact Op.state_bind_of_keeps (fun _ _ => rfl) s₁

/-- The step at place `i` has returned how many rows it has deleted. -/
def CountsAt (steps : List EventStep) (s : Store) (replies : List (Option Nat)) (i : Nat) : Prop :=
  ∃ n before after last, replies[i]? = some (some n) ∧
    (runAll (steps.take i) s).state.KeepsEvents before last ∧
    (runAll (steps.take (i + 1)) s).state.KeepsEvents after last ∧
    after.Sublist before ∧ before.length = after.length + n

/-- Every deletion returns how many rows it deletes. -/
theorem countsAt_runAll (hsound : s.poisoned = false) (hevents : s.KeepsEvents rows lastId)
    (steps : List EventStep) : ∃ replies s', runAll steps s = ⟨.ok replies, s', []⟩ ∧
      ∀ i keep, steps[i]? = some (.keepNewest keep) → CountsAt steps s replies i := by
  induction steps generalizing s rows lastId with
  | nil => exact ⟨[], s, rfl, fun i keep hi => nomatch hi⟩
  | cons step rest ih =>
    obtain ⟨rows₁, last₁, reply, hstep, hdoes⟩ := does_operation hsound hevents step
    have hsound₁ : (s.withEvents rows₁ last₁).poisoned = false := hsound
    have hevents₁ := Store.keepsEvents_withEvents s rows₁ last₁
    obtain ⟨replies, s₂, hrest, hcounts⟩ := ih hsound₁ hevents₁
    refine ⟨reply :: replies, s₂, runAll_cons hstep hrest, fun i keep hi => ?_⟩
    cases i with
    | zero =>
      cases hdoes with
      | insert e => cases hi
      | keepNewest keep' =>
        have hsub : (Database.remaining keep' rows).Sublist rows := List.filter_sublist
        have hle := hsub.length_le
        refine ⟨_, rows, _, lastId, rfl, hevents, ?_, hsub, by omega⟩
        rw [List.take_succ_cons, List.take_zero, state_runAll_cons hstep]
        exact hevents₁
    | succ i =>
      obtain ⟨n, before, after, last, hn, hbefore, hafter, hlength⟩ := hcounts i keep hi
      refine ⟨n, before, after, last, hn, ?_, ?_, hlength⟩
      · rw [List.take_succ_cons, state_runAll_cons hstep]
        exact hbefore
      · rw [List.take_succ_cons, state_runAll_cons hstep]
        exact hafter

end EventStep

/-! ## Retention -/

/-- A table retains the newest of all rows that have ever been in it. -/
structure Retains (n : Nat) (rows : List EventRow) (lastId : Nat) (all : List EventRow) : Prop where
  numbered : Numbered all lastId
  sublist : rows.Sublist all
  newest : (newestRows rows).take n = (newestRows all).take n

namespace Retains

variable {n lastId : Nat} {rows all : List EventRow}

/-- A table retains its own rows. -/
theorem refl (h : Numbered rows lastId) : Retains n rows lastId rows := ⟨h, .refl _, rfl⟩

/-- A new row is one more of all rows. -/
theorem concat (h : Retains n rows lastId all) {r : EventRow} (hr : r.id = lastId + 1) :
    Retains n (rows ++ [r]) (lastId + 1) (all ++ [r]) := by
  refine ⟨h.numbered.concat hr, h.sublist.append (.refl _), ?_⟩
  -- a row that was deleted would not come to the front again because of a new one
  rw [(h.numbered.sublist h.sublist).newestRows_concat hr, h.numbered.newestRows_concat hr]
  exact take_mergeSort_cons EventRow.isNewer_trans EventRow.isNewer_total r h.newest

/-- A deletion that keeps as many rows leaves the newest of all rows. -/
theorem newestRows_remaining (h : Retains n rows lastId all) {keep : Nat}
    (hkeep : min keep Database.keepLimit = n) :
    newestRows (Database.remaining keep rows) = (newestRows all).take n := by
  rw [Audience.newestRows_remaining (h.numbered.sublist h.sublist), hkeep, h.newest]

/-- A deletion that keeps enough rows retains the newest of all rows. -/
theorem remaining (h : Retains n rows lastId all) {keep : Nat}
    (hkeep : n ≤ min keep Database.keepLimit) :
    Retains n (Database.remaining keep rows) lastId all := by
  refine ⟨h.numbered, List.filter_sublist.trans h.sublist, ?_⟩
  rw [Audience.newestRows_remaining (h.numbered.sublist h.sublist), List.take_take,
    Nat.min_eq_left hkeep, h.newest]

variable {s : Store}

/-- A step inserts a row or deletes all rows but the newest; either way the newest of all rows are
retained. -/
theorem does (h : Retains n rows lastId all) {step : EventStep} {rows' : List EventRow} {last : Nat}
    {reply : Option Nat} (hdoes : step.Does rows lastId rows' last reply)
    (hkeep : ∀ keep, step = .keepNewest keep → n ≤ min keep Database.keepLimit) :
    ∃ new, Retains n rows' last (all ++ new) ∧
      ∀ rest, insertedRows lastId (step :: rest) = new ++ insertedRows last rest := by
  cases hdoes with
  | insert e => exact ⟨[e.row (lastId + 1)], h.concat rfl, fun _ => rfl⟩
  | keepNewest keep =>
    refine ⟨[], ?_, fun _ => rfl⟩
    rw [List.append_nil]
    exact h.remaining (hkeep keep rfl)

/-- After any steps that all keep enough rows, the table retains the newest of all rows. -/
theorem runAll (h : Retains n rows lastId all) (hsound : s.poisoned = false)
    (hevents : s.KeepsEvents rows lastId) (steps : List EventStep)
    (hkeep : ∀ keep, .keepNewest keep ∈ steps → n ≤ min keep Database.keepLimit) :
    ∃ replies s' rows' last, EventStep.runAll steps s = ⟨.ok replies, s', []⟩ ∧
      s'.poisoned = false ∧ s'.KeepsEvents rows' last ∧
      Retains n rows' last (all ++ insertedRows lastId steps) := by
  induction steps generalizing s rows lastId all with
  | nil =>
    refine ⟨[], s, rows, lastId, rfl, hsound, hevents, ?_⟩
    rw [insertedRows, insertedEvents, List.map_nil, List.append_nil]
    exact h
  | cons step rest ih =>
    obtain ⟨rows₁, last₁, reply, hstep, hdoes⟩ := EventStep.does_operation hsound hevents step
    have hsound₁ : (s.withEvents rows₁ last₁).poisoned = false := hsound
    have hevents₁ := Store.keepsEvents_withEvents s rows₁ last₁
    obtain ⟨new, hretains₁, hnew⟩ :=
      h.does hdoes fun keep heq => hkeep keep (heq ▸ List.mem_cons_self)
    obtain ⟨replies, s₂, rows₂, last₂, hrest, hsound₂, hevents₂, hretains₂⟩ :=
      ih hretains₁ hsound₁ hevents₁ fun keep hmem => hkeep keep (List.mem_cons_of_mem _ hmem)
    rw [List.append_assoc, ← hnew] at hretains₂
    exact ⟨reply :: replies, s₂, rows₂, last₂, EventStep.runAll_cons hstep hrest, hsound₂,
      hevents₂, hretains₂⟩

end Retains

/-- What is left after any steps that end with a deletion, where all deletions keep as many rows:
the newest of the rows at the start and all rows that were ever inserted. The last deletion and
every one before it return how many rows they have deleted. A table that has no more rows than can
be numbered retains exactly as many as it is told. -/
theorem rows_after_deletion {s : Store} {rows : List EventRow} {lastId : Nat}
    (hsound : s.poisoned = false) (hevents : s.KeepsEvents rows lastId)
    (hnumbered : Numbered rows lastId) (keep : Nat) (steps : List EventStep)
    (hkeep : ∀ k, .keepNewest k ∈ steps → k = keep) :
    let all := rows ++ insertedRows lastId steps
    ∃ replies s₁ before s₂ rest deleted last,
      EventStep.runAll steps s = ⟨.ok replies, s₁, []⟩ ∧ s₁.KeepsEvents before last ∧
      (∀ i, steps[i]? = some (.keepNewest keep) → EventStep.CountsAt steps s replies i) ∧
      Store.events.keepNewest keep s₁ = ⟨.ok deleted, s₂, []⟩ ∧ s₂.KeepsEvents rest last ∧
      rest.Sublist before ∧ before.length = rest.length + deleted ∧
      newestRows rest = (newestRows all).take (min keep Database.keepLimit) ∧
      (all.length ≤ Database.keepLimit → newestRows rest = (newestRows all).take keep) := by
  intro all
  obtain ⟨replies, s₁, before, last, hrun, hsound₁, hevents₁, hretains⟩ :=
    (Retains.refl (n := min keep Database.keepLimit) hnumbered).runAll hsound hevents steps
      fun k hk => Nat.le_of_eq (by rw [hkeep k hk])
  have hsub : (Database.remaining keep before).Sublist before := List.filter_sublist
  have hrest := hretains.newestRows_remaining (Eq.refl (min keep Database.keepLimit))
  have hcounts : ∀ i, steps[i]? = some (.keepNewest keep) →
      EventStep.CountsAt steps s replies i := by
    intro i hi
    obtain ⟨replies', s', hrun', hcounts⟩ := EventStep.countsAt_runAll hsound hevents steps
    rw [hrun] at hrun'
    cases hrun'
    exact hcounts i keep hi
  refine ⟨replies, s₁, before, _, Database.remaining keep before, _, last, hrun, hevents₁, hcounts,
    hevents₁.keepNewest hsound₁ keep, Store.keepsEvents_withEvents s₁ _ _, hsub, ?_, hrest, ?_⟩
  · have hle := hsub.length_le
    omega
  · intro hroom
    -- there are no rows beyond the limit
    have hlength : (newestRows all).length = all.length := (List.mergeSort_perm _ _).length_eq
    rw [hrest, List.take_eq_take_iff, hlength]
    omega

/-- Rows and events out of order and of the same time, with a deletion in between. -/
theorem rows_after_deletion_ties :
    let row := fun (id : Nat) (createdAt : String) => EventRow.mk id createdAt "" "" (.blob [])
    let rows := [row 7 "2026-01-02T00:00:00.000000Z", row 3 "2026-01-01T00:00:00.000000Z"]
    let event := fun (seconds : Int) => Event.mk ⟨seconds, 0⟩ "en-US" "" []
    let steps := [.insert (event 0), .keepNewest 2, .insert (event 1767312000), .keepNewest 2,
      .insert (event 1767312000)]
    let all := rows ++ insertedRows 9 steps
    ∃ replies s₁ before s₂ rest deleted last,
      EventStep.runAll steps ((Store.opened .memory).withEvents rows 9) = ⟨.ok replies, s₁, []⟩ ∧
      s₁.KeepsEvents before last ∧
      (∀ i, steps[i]? = some (.keepNewest 2) →
        EventStep.CountsAt steps ((Store.opened .memory).withEvents rows 9) replies i) ∧
      Store.events.keepNewest 2 s₁ = ⟨.ok deleted, s₂, []⟩ ∧
      s₂.KeepsEvents rest last ∧ rest.Sublist before ∧ before.length = rest.length + deleted ∧
      newestRows rest = (newestRows all).take (min 2 Database.keepLimit) ∧
      (all.length ≤ Database.keepLimit → newestRows rest = (newestRows all).take 2) := by
  intro row rows event steps
  exact rows_after_deletion rfl (Store.keepsEvents_withEvents _ _ _) (by decide) 2 steps
    (by simp [steps])

end Audience
