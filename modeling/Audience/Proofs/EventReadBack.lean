import Audience.Proofs.EmbeddingBytes
import Audience.Proofs.StampOrder
import Audience.Proofs.SurvivingEvents

/-! # Events that are read back

Events come back from the store with their time in microseconds and with the same embedding, the
latest first. Time stamps outside the years 0 to 9999 are written but not read, and one of them
spoils the whole reading.

* **`EventRow.event_row`** — what the row of an event is read as.
* **`ComesFirst p q`** — the order in which events are read.
* **`Store.ReadsBack s ps`** — what reading gives when these events are in the store.
* **`events_after_steps`** — what is read after any insertions and deletions. -/

namespace Audience

/-! ## Rows -/

/-- An event with its time cut to microseconds. -/
def Event.inMicros (e : Event) : Event := { e with time := e.time.truncateMicros }

/-- The error of a row whose time stamp is not read. -/
def createdAtError : Error := .storage (.malformedState createdAtKey "not a time stamp")

/-- What the row of an event is read as. -/
theorem EventRow.event_row {e : Event} (he : e.time.IsPlain) (id : Nat) :
    (e.row id).event =
      if e.time.hasFourDigitYear then .ok e.inMicros else .error createdAtError := by
  simp only [event, Event.row, Stamp.strict?_stampMicros he]
  cases e.time.hasFourDigitYear with
  | false => rfl
  | true =>
    simp only [if_true, decodeEmbedding?_encodeEmbedding]
    rfl

/-- Rows of events are all read, if their years have four digits. -/
theorem mapM_event_numberedRow {ps : List (Nat × Event)} (hplain : ∀ p ∈ ps, p.2.time.IsPlain)
    (hyears : ∀ p ∈ ps, p.2.time.hasFourDigitYear = true) :
    (ps.map numberedRow).mapM EventRow.event = .ok (ps.map (fun p => p.2.inMicros)) := by
  induction ps with
  | nil => rfl
  | cons p ps ih =>
    have hp : (numberedRow p).event = .ok p.2.inMicros := by
      rw [numberedRow, EventRow.event_row (hplain p List.mem_cons_self),
        if_pos (hyears p List.mem_cons_self)]
    have hps := ih (fun q hq => hplain q (List.mem_cons_of_mem _ hq))
      fun q hq => hyears q (List.mem_cons_of_mem _ hq)
    rw [List.map_cons, List.mapM_cons, hp, hps]
    rfl

/-- One row of another year spoils them all. -/
theorem mapM_event_numberedRow_error {ps : List (Nat × Event)}
    (hplain : ∀ p ∈ ps, p.2.time.IsPlain)
    (hyear : ¬∀ p ∈ ps, p.2.time.hasFourDigitYear = true) :
    (ps.map numberedRow).mapM EventRow.event = .error createdAtError := by
  induction ps with
  | nil => exact absurd (fun _ h => nomatch h) hyear
  | cons p ps ih =>
    have hp := EventRow.event_row (hplain p List.mem_cons_self) p.1
    rw [List.map_cons, List.mapM_cons, numberedRow, hp]
    cases hfour : p.2.time.hasFourDigitYear with
    | false => rfl
    | true =>
      have hps := ih (fun q hq => hplain q (List.mem_cons_of_mem _ hq)) fun hall =>
        hyear (List.forall_mem_cons.2 ⟨hfour, hall⟩)
      rw [hps]
      rfl

/-! ## Order -/

/-- Whether one event comes before another when events are read: the later one in microseconds, and
of the same microsecond the one inserted later. -/
def ComesFirst (p q : Nat × Event) : Prop :=
  q.2.time.truncateMicros.lt p.2.time.truncateMicros = true ∨
    p.2.time.truncateMicros = q.2.time.truncateMicros ∧ q.1 < p.1

/-- No two events come before each other. -/
theorem ComesFirst.asymm {p q : Nat × Event} (hpq : ComesFirst p q) : ¬ComesFirst q p := by
  intro hqp
  rcases hpq with hlt | ⟨heq, hid⟩
  · rcases hqp with hlt' | ⟨heq', _⟩
    · exact Instant.lt_asymm hlt hlt'
    · exact Instant.lt_irrefl _ (heq' ▸ hlt)
  · rcases hqp with hlt' | ⟨_, hid'⟩
    · exact Instant.lt_irrefl _ (heq ▸ hlt')
    · exact Nat.lt_asymm hid hid'

/-- Events of years with four digits are stamped in the order of time. -/
theorem StampedLater.comesFirst {p q : Nat × Event} (h : StampedLater p q)
    (hp : p.2.time.IsPlain) (hq : q.2.time.IsPlain)
    (hpyear : p.2.time.hasFourDigitYear = true) (hqyear : q.2.time.hasFourDigitYear = true) :
    ComesFirst p q := by
  rcases h with hlt | ⟨heq, hid⟩
  · exact .inl ((Instant.stampMicros_lt_iff hq hp hqyear hpyear).1 hlt)
  · exact .inr ⟨(Instant.stampMicros_eq_iff hp hq hpyear hqyear).1 heq, hid⟩

/-- Rows of years with four digits are in the order of time. -/
theorem pairwise_comesFirst {ps : List (Nat × Event)} {lastId : Nat}
    (hplain : ∀ p ∈ ps, p.2.time.IsPlain)
    (hyears : ∀ p ∈ ps, p.2.time.hasFourDigitYear = true)
    (hnumbered : Numbered (ps.map numberedRow) lastId) : (inRowOrder ps).Pairwise ComesFirst := by
  refine (pairwise_inRowOrder hnumbered).imp_of_mem fun {p q} hp hq hlater => ?_
  have hp := (inRowOrder_perm ps).subset hp
  have hq := (inRowOrder_perm ps).subset hq
  exact hlater.comesFirst (hplain p hp) (hplain q hq) (hyears p hp) (hyears q hq)

/-! ## Steps -/

/-- Steps insert events in them. -/
theorem mem_of_mem_insertedEvents {n : Nat} {steps : List EventStep} {p : Nat × Event}
    (hp : p ∈ insertedEvents n steps) : .insert p.2 ∈ steps := by
  induction steps generalizing n with
  | nil => cases hp
  | cons step rest ih =>
    cases step with
    | insert e =>
      rcases List.mem_cons.1 hp with rfl | hp
      · exact List.mem_cons_self
      · exact List.mem_cons_of_mem _ (ih hp)
    | keepNewest keep => exact List.mem_cons_of_mem _ (ih hp)

/-! ## Reading -/

section Reading

variable {s : Store} {ps : List (Nat × Event)} {lastId : Nat}

/-- Reading goes through the rows in the order of events. -/
theorem Store.KeepsEvents.all {es : List EventRow} (h : s.KeepsEvents es lastId)
    (hsound : s.poisoned = false) :
    Store.events.all s = ⟨((newestRows es).mapM EventRow.event).mapError .error, s, []⟩ :=
  Store.guarded_eq hsound (Database.allEvents_eq h)

/-- Events of years with four digits are all read. -/
theorem Store.KeepsEvents.all_ok (h : s.KeepsEvents (ps.map numberedRow) lastId)
    (hsound : s.poisoned = false) (hplain : ∀ p ∈ ps, p.2.time.IsPlain)
    (hyears : ∀ p ∈ ps, p.2.time.hasFourDigitYear = true) :
    Store.events.all s = ⟨.ok ((inRowOrder ps).map (fun p => p.2.inMicros)), s, []⟩ := by
  have hsub := (inRowOrder_perm ps).subset
  rw [h.all hsound, newestRows_map_numberedRow,
    mapM_event_numberedRow (fun p hp => hplain p (hsub hp)) (fun p hp => hyears p (hsub hp))]
  rfl

/-- One event of another year spoils the reading. -/
theorem Store.KeepsEvents.all_error (h : s.KeepsEvents (ps.map numberedRow) lastId)
    (hsound : s.poisoned = false) (hplain : ∀ p ∈ ps, p.2.time.IsPlain)
    (hyear : ¬∀ p ∈ ps, p.2.time.hasFourDigitYear = true) :
    Store.events.all s = ⟨.error (.error createdAtError), s, []⟩ := by
  have hperm := inRowOrder_perm ps
  rw [h.all hsound, newestRows_map_numberedRow,
    mapM_event_numberedRow_error (fun p hp => hplain p (hperm.subset hp))
      (fun hall => hyear fun p hp => hall p (hperm.symm.subset hp))]
  rfl

/-- What reading gives when these events, with their numbers, are in the store. -/
structure Store.ReadsBack (s : Store) (ps : List (Nat × Event)) : Prop where
  /-- Reading succeeds exactly when all years have four digits. -/
  ok_iff : (∃ found, Store.events.all s = ⟨.ok found, s, []⟩) ↔
    ∀ p ∈ ps, p.2.time.hasFourDigitYear = true
  /-- Then the events are read in their order, with their times in microseconds. -/
  found : (∀ p ∈ ps, p.2.time.hasFourDigitYear = true) →
    ∃ order : List (Nat × Event), order.Perm ps ∧ order.Pairwise ComesFirst ∧
      Store.events.all s = ⟨.ok (order.map (fun p => p.2.inMicros)), s, []⟩
  /-- The texts of time stamps are then in the order of time. -/
  stamps : (∀ p ∈ ps, p.2.time.hasFourDigitYear = true) → ∀ p ∈ ps, ∀ q ∈ ps,
    (p.2.time.stampMicros < q.2.time.stampMicros ↔
      p.2.time.truncateMicros.lt q.2.time.truncateMicros = true)
  /-- Otherwise a malformed time stamp is reported. -/
  error : (¬∀ p ∈ ps, p.2.time.hasFourDigitYear = true) →
    Store.events.all s = ⟨.error (.error createdAtError), s, []⟩

/-- The events of a store are read back. -/
theorem Store.KeepsEvents.readsBack (h : s.KeepsEvents (ps.map numberedRow) lastId)
    (hsound : s.poisoned = false) (hplain : ∀ p ∈ ps, p.2.time.IsPlain)
    (hnumbered : Numbered (ps.map numberedRow) lastId) : s.ReadsBack ps := by
  constructor
  case ok_iff =>
    constructor
    · rintro ⟨found, hfound⟩
      apply Decidable.byContradiction
      intro hyear
      rw [h.all_error hsound hplain hyear] at hfound
      cases hfound
    · intro hyears
      exact ⟨_, h.all_ok hsound hplain hyears⟩
  case found =>
    intro hyears
    exact ⟨inRowOrder ps, inRowOrder_perm ps, pairwise_comesFirst hplain hyears hnumbered,
      h.all_ok hsound hplain hyears⟩
  case stamps =>
    intro hyears p hp q hq
    exact Instant.stampMicros_lt_iff (hplain p hp) (hplain q hq) (hyears p hp) (hyears q hq)
  case error => exact h.all_error hsound hplain

end Reading

/-- What is read after any insertions and deletions in a table that was empty: exactly the surviving
events are in it, and they are read back. All inserted events survive if none is deleted. -/
theorem events_after_steps {s : Store} {lastId : Nat} (hsound : s.poisoned = false)
    (hevents : s.KeepsEvents [] lastId) (steps : List EventStep)
    (hplain : ∀ e, .insert e ∈ steps → e.time.IsPlain) :
    let survivors := survivingEvents [] lastId steps
    ∃ replies s' last,
      EventStep.runAll steps s = ⟨.ok replies, s', []⟩ ∧
      survivors.Sublist (insertedEvents lastId steps) ∧
      ((∀ keep, .keepNewest keep ∉ steps) → survivors = insertedEvents lastId steps) ∧
      s'.KeepsEvents (survivors.map numberedRow) last ∧ s'.ReadsBack survivors := by
  intro survivors
  have hempty : Numbered [] lastId := ⟨.nil, fun _ hr => nomatch hr⟩
  obtain ⟨replies, s', last, hrun, hsound', hevents', hnumbered⟩ :=
    EventStep.runAll_survivingEvents [] hsound hevents hempty steps
  have hsub : survivors.Sublist (insertedEvents lastId steps) :=
    survivingEvents_sublist [] lastId steps
  have hsurvivors : ∀ p ∈ survivors, p.2.time.IsPlain := fun p hp =>
    hplain p.2 (mem_of_mem_insertedEvents (hsub.subset hp))
  exact ⟨replies, s', last, hrun, hsub, survivingEvents_of_no_deletion [] lastId, hevents',
    hevents'.readsBack hsound' hsurvivors hnumbered⟩

/-- Two events of one microsecond and one of the year 10000. A deletion that keeps three leaves them
all, and then none can be read; one that keeps two leaves the first two, and the one inserted later
is read first. -/
theorem events_after_steps_ties :
    let event := fun (seconds : Int) (nanos : Nat) =>
      Event.mk ⟨seconds, nanos⟩ "de-DE" "text" [⟨0x7FC00001⟩, ⟨0x80000000⟩]
    let first := event 1767312000 999999999
    let second := event 1767312000 999999001
    let third := event 253402300800 0
    let steps := fun keep => [.insert first, .insert second, .insert third, .keepNewest keep]
    (∃ replies s' last,
      EventStep.runAll (steps 3) (Store.opened .memory) = ⟨.ok replies, s', []⟩ ∧
      s'.KeepsEvents ([(1, first), (2, second), (3, third)].map numberedRow) last ∧
      Store.events.all s' = ⟨.error (.error createdAtError), s', []⟩) ∧
    ∃ replies s' last,
      EventStep.runAll (steps 2) (Store.opened .memory) = ⟨.ok replies, s', []⟩ ∧
      s'.KeepsEvents ([(1, first), (2, second)].map numberedRow) last ∧
      Store.events.all s' = ⟨.ok [second.inMicros, first.inMicros], s', []⟩ := by
  intro event first second third steps
  have hplain : ∀ keep e, .insert e ∈ steps keep → e.time.IsPlain := by
    intro keep e he
    simp only [steps, List.mem_cons, EventStep.insert.injEq, List.not_mem_nil, or_false,
      reduceCtorEq] at he
    rcases he with rfl | rfl | rfl
    · exact ⟨by decide, by decide⟩
    · exact ⟨by decide, by decide⟩
    · exact ⟨by decide, by decide⟩
  have hempty : (Store.opened .memory).KeepsEvents [] 0 := Store.keepsEvents_opened (by decide)
  constructor
  · have hsurvivors : survivingEvents [] 0 (steps 3)
        = [(1, first), (2, second), (3, third)] := by decide +kernel
    obtain ⟨replies, s', last, hrun, _, _, hkeeps, hreads⟩ :=
      events_after_steps rfl hempty (steps 3) (hplain 3)
    rw [hsurvivors] at hkeeps hreads
    exact ⟨replies, s', last, hrun, hkeeps, hreads.error (by decide +kernel)⟩
  · have hsurvivors : survivingEvents [] 0 (steps 2) = [(1, first), (2, second)] := by
      decide +kernel
    obtain ⟨replies, s', last, hrun, _, _, hkeeps, hreads⟩ :=
      events_after_steps rfl hempty (steps 2) (hplain 2)
    rw [hsurvivors] at hkeeps hreads
    obtain ⟨order, hperm, horder, hall⟩ := hreads.found (by decide +kernel)
    -- there is only one order in which the two events can be read
    have hlater : [(2, second), (1, first)].Pairwise ComesFirst :=
      List.pairwise_pair.2 (.inr ⟨by decide, by decide⟩)
    have heq : order = [(2, second), (1, first)] :=
      (hperm.trans (.swap _ _ [])).eq_of_pairwise (fun p q _ _ hpq hqp => absurd hqp hpq.asymm)
        horder hlater
    rw [heq] at hall
    exact ⟨replies, s', last, hrun, hkeeps, hall⟩

end Audience
