import Audience.Proofs.EventRetention

/-! # Which events survive

Steps insert events and delete all but the newest. Which events are left in the end can be said
without a table: every event keeps the number that it was inserted with, and a deletion leaves those
that few enough others are stamped later than.

* **`StampedLater p q`** — the order of events by their stored time stamps.
* **`newestEvents keep ps`** — what a deletion leaves, and **`survivingEvents ps n steps`**, what
  any steps leave.
* **`remaining_map_numberedRow`** — the table keeps the rows of these events.
* **`EventStep.runAll_survivingEvents`** — what is in the table after any steps. -/

namespace Audience

/-! ## The order of events -/

/-- Whether one event is stamped later than another: the text of its time stamp is greater, or it is
the same and the event was inserted later. -/
def StampedLater (p q : Nat × Event) : Prop :=
  q.2.time.stampMicros < p.2.time.stampMicros ∨
    p.2.time.stampMicros = q.2.time.stampMicros ∧ q.1 < p.1

instance : DecidableRel StampedLater := fun p q =>
  inferInstanceAs (Decidable (q.2.time.stampMicros < p.2.time.stampMicros ∨
    p.2.time.stampMicros = q.2.time.stampMicros ∧ q.1 < p.1))

/-- No two events are stamped later than each other. -/
theorem StampedLater.asymm (p q : Nat × Event) (hpq : StampedLater p q) : ¬StampedLater q p := by
  intro hqp
  rcases hpq with hlt | ⟨heq, hid⟩
  · rcases hqp with hlt' | ⟨heq', _⟩
    · exact String.lt_asymm hlt hlt'
    · rw [heq'] at hlt
      exact String.lt_irrefl _ hlt
  · rcases hqp with hlt' | ⟨_, hid'⟩
    · rw [heq] at hlt'
      exact String.lt_irrefl _ hlt'
    · exact Nat.lt_asymm hid hid'

/-- Events in the order of their rows. -/
def inRowOrder (ps : List (Nat × Event)) : List (Nat × Event) :=
  ps.mergeSort (fun p q => (numberedRow p).isNewer (numberedRow q))

/-- Ordering events only moves them. -/
theorem inRowOrder_perm (ps : List (Nat × Event)) : (inRowOrder ps).Perm ps :=
  List.mergeSort_perm _ _

/-- The rows of events in their order. -/
theorem newestRows_map_numberedRow (ps : List (Nat × Event)) :
    newestRows (ps.map numberedRow) = (inRowOrder ps).map numberedRow := by
  symm
  apply List.map_mergeSort
  intro p _ q _
  rfl

section Order

variable {ps : List (Nat × Event)} {lastId : Nat}

/-- Events in numbered rows have different numbers. -/
theorem Numbered.nodup (h : Numbered (ps.map numberedRow) lastId) :
    (ps.map Prod.fst).Nodup := by
  have hrows := h.distinct
  rw [List.pairwise_map] at hrows
  exact List.pairwise_map.2 hrows

/-- Events are ordered by their time stamps. -/
theorem pairwise_inRowOrder (h : Numbered (ps.map numberedRow) lastId) :
    (inRowOrder ps).Pairwise StampedLater := by
  have hsorted : (inRowOrder ps).Pairwise
      (fun p q => (numberedRow p).isNewer (numberedRow q) = true) := by
    apply List.pairwise_mergeSort
    · intro p q r
      exact EventRow.isNewer_trans (numberedRow p) (numberedRow q) (numberedRow r)
    · intro p q
      exact EventRow.isNewer_total (numberedRow p) (numberedRow q)
  have hdistinct : (inRowOrder ps).Pairwise (fun p q => p.1 ≠ q.1) :=
    (inRowOrder_perm ps).symm.pairwise (List.pairwise_map.1 h.nodup) fun hne heq => hne heq.symm
  refine (hsorted.and hdistinct).imp ?_
  rintro p q ⟨hnewer, hne⟩
  rcases of_decide_eq_true hnewer with hlt | ⟨heq, hid⟩
  · exact .inl hlt
  · exact .inr ⟨heq, Nat.lt_of_le_of_ne hid (Ne.symm hne)⟩

end Order

/-! ## What deletions leave -/

/-- The newest events: those that fewer than `keep` others are stamped later than. -/
def newestEvents (keep : Nat) (ps : List (Nat × Event)) : List (Nat × Event) :=
  ps.filter (fun p => ps.countP (fun q => StampedLater q p) < min keep Database.keepLimit)

/-- The events that steps leave of those that are there and of those that they insert behind the row
with a given number. -/
def survivingEvents : List (Nat × Event) → Nat → List EventStep → List (Nat × Event)
  | ps, _, [] => ps
  | ps, n, .insert e :: rest => survivingEvents (ps ++ [(n + 1, e)]) (n + 1) rest
  | ps, n, .keepNewest keep :: rest => survivingEvents (newestEvents keep ps) n rest

/-- Only events survive that were there or have been inserted. -/
theorem survivingEvents_sublist (ps : List (Nat × Event)) (n : Nat) (steps : List EventStep) :
    (survivingEvents ps n steps).Sublist (ps ++ insertedEvents n steps) := by
  induction steps generalizing ps n with
  | nil => exact List.sublist_append_left ps []
  | cons step rest ih =>
    cases step with
    | insert e =>
      have hrest := ih (ps ++ [(n + 1, e)]) (n + 1)
      rw [List.append_assoc] at hrest
      exact hrest
    | keepNewest keep =>
      have hnewest : (newestEvents keep ps).Sublist ps := List.filter_sublist
      exact (ih (newestEvents keep ps) n).trans (hnewest.append (.refl _))

/-- All events survive if none is deleted. -/
theorem survivingEvents_of_no_deletion (ps : List (Nat × Event)) (n : Nat) {steps : List EventStep}
    (h : ∀ keep, .keepNewest keep ∉ steps) :
    survivingEvents ps n steps = ps ++ insertedEvents n steps := by
  induction steps generalizing ps n with
  | nil => rw [survivingEvents, insertedEvents, List.append_nil]
  | cons step rest ih =>
    have hrest : ∀ keep, .keepNewest keep ∉ rest := fun keep hk =>
      h keep (List.mem_cons_of_mem _ hk)
    cases step with
    | insert e =>
      rw [survivingEvents, ih _ _ hrest, insertedEvents, List.append_assoc]
      rfl
    | keepNewest keep => exact absurd List.mem_cons_self (h keep)

section Rows

variable {ps : List (Nat × Event)} {lastId : Nat}

/-- An event is among the newest exactly if its row is among the first in the order of rows. -/
theorem mem_take_inRowOrder (h : Numbered (ps.map numberedRow) lastId) {p : Nat × Event}
    (hp : p ∈ ps) (n : Nat) :
    p ∈ (inRowOrder ps).take n ↔ ps.countP (fun q => StampedLater q p) < n := by
  have hperm := inRowOrder_perm ps
  rw [mem_take_iff_countP_lt StampedLater.asymm (pairwise_inRowOrder h) (hperm.symm.subset hp) n,
    hperm.countP_eq]

/-- A deletion leaves the rows of the newest events. -/
theorem remaining_map_numberedRow (h : Numbered (ps.map numberedRow) lastId) (keep : Nat) :
    Database.remaining keep (ps.map numberedRow) = (newestEvents keep ps).map numberedRow := by
  simp only [Database.remaining, newestEvents, List.filter_map]
  generalize min keep Database.keepLimit = n
  congr 1
  refine List.filter_congr fun p hp => ?_
  -- events are told apart by their numbers
  have hnumbers : (((newestRows (ps.map numberedRow)).take n).map EventRow.id)
      = ((inRowOrder ps).take n).map Prod.fst := by
    rw [newestRows_map_numberedRow, ← List.map_take, List.map_map]
    rfl
  have hkept : p.1 ∈ ((inRowOrder ps).take n).map Prod.fst ↔ p ∈ (inRowOrder ps).take n := by
    refine ⟨fun hmem => ?_, List.mem_map_of_mem⟩
    obtain ⟨q, hq, hid⟩ := List.mem_map.1 hmem
    have hq' : q ∈ ps := (inRowOrder_perm ps).subset (List.mem_of_mem_take hq)
    rwa [← List.inj_on_of_nodup_map h.nodup hq' hp hid]
  rw [hnumbers, Bool.eq_iff_iff, Function.comp_apply, List.contains_iff_mem, decide_eq_true_eq]
  exact hkept.trans (mem_take_inRowOrder h hp n)

/-- After a step the table holds the rows of the surviving events. -/
theorem EventStep.Does.survivingEvents (h : Numbered (ps.map numberedRow) lastId) {step : EventStep}
    {rows : List EventRow} {last : Nat} {reply : Option Nat}
    (hdoes : step.Does (ps.map numberedRow) lastId rows last reply) :
    ∃ ps', rows = ps'.map numberedRow ∧ Numbered (ps'.map numberedRow) last ∧
      ∀ rest, Audience.survivingEvents ps lastId (step :: rest)
        = Audience.survivingEvents ps' last rest := by
  cases hdoes with
  | insert e =>
    refine ⟨ps ++ [(lastId + 1, e)], ?_, ?_, fun _ => rfl⟩
    · rw [List.map_append]
      rfl
    · rw [List.map_append]
      exact h.concat rfl
  | keepNewest keep =>
    refine ⟨newestEvents keep ps, remaining_map_numberedRow h keep, ?_, fun _ => rfl⟩
    exact h.sublist (List.filter_sublist.map numberedRow)

/-- After any steps the table holds the rows of the surviving events. -/
theorem EventStep.runAll_survivingEvents (ps : List (Nat × Event)) {s : Store}
    (hsound : s.poisoned = false) (hevents : s.KeepsEvents (ps.map numberedRow) lastId)
    (hnumbered : Numbered (ps.map numberedRow) lastId) (steps : List EventStep) :
    let survivors := survivingEvents ps lastId steps
    ∃ replies s' last, EventStep.runAll steps s = ⟨.ok replies, s', []⟩ ∧ s'.poisoned = false ∧
      s'.KeepsEvents (survivors.map numberedRow) last ∧
      Numbered (survivors.map numberedRow) last := by
  induction steps generalizing s ps lastId with
  | nil => exact ⟨[], s, lastId, rfl, hsound, hevents, hnumbered⟩
  | cons step rest ih =>
    obtain ⟨rows, last₁, reply, hstep, hdoes⟩ := EventStep.does_operation hsound hevents step
    obtain ⟨ps₁, rfl, hnumbered₁, hsurvivors⟩ := hdoes.survivingEvents hnumbered
    have hsound₁ : (s.withEvents (ps₁.map numberedRow) last₁).poisoned = false := hsound
    have hevents₁ := Store.keepsEvents_withEvents s (ps₁.map numberedRow) last₁
    obtain ⟨replies, s', last, hrest, hend⟩ := ih ps₁ hsound₁ hevents₁ hnumbered₁
    rw [hsurvivors]
    exact ⟨reply :: replies, s', last, EventStep.runAll_cons hstep hrest, hend⟩

end Rows

end Audience
