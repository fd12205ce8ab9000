import Audience.Proofs.StoreView

/-! # Stores that differ in part

Operations of one model leave alone what the others have stored. Two stores are compared by naming
the keys and the tables in which they may differ.

* **`Store.SameBut keys tables s t`** — stores that differ under some keys and in some tables only.
* **`Store.SameBut.insert`**, **`Store.SameBut.purge`** — nothing that is done with events reaches
  the client state. -/

namespace Audience

namespace Store

variable {s t : Store}

/-- Nothing differs between two stores but what is stored under some keys and in some tables. -/
structure SameBut (keys tables : List String) (s t : Store) : Prop where
  poisoned : t.poisoned = s.poisoned
  medium : t.medium = s.medium
  indexes : t.database.indexes = s.database.indexes
  table : ∀ name, name ≠ Database.stateTable → name ∉ tables →
    t.database.tables.get? name = s.database.tables.get? name
  state : t.database.tables.get? Database.stateTable = s.database.tables.get? Database.stateTable ∨
    ∃ rows rows', s.database.tables.get? Database.stateTable = some (.clientState rows) ∧
      t.database.tables.get? Database.stateTable = some (.clientState rows') ∧
      ∀ key, key ∉ keys → rows'.get? key = rows.get? key

namespace SameBut

variable {keys keys' tables tables' : List String} {u : Store}

/-- Nothing differs between a store and itself. -/
theorem refl (keys tables : List String) (s : Store) : SameBut keys tables s s :=
  ⟨rfl, rfl, rfl, fun _ _ _ => rfl, .inl rfl⟩

/-- More keys and tables may differ. -/
theorem mono (h : SameBut keys tables s t) (hkeys : keys ⊆ keys') (htables : tables ⊆ tables') :
    SameBut keys' tables' s t := by
  refine { h with table := fun name hname hother => ?_, state := h.state.imp id ?_ }
  · exact h.table name hname fun hmem => hother (htables hmem)
  · rintro ⟨rows, rows', hs, ht, hcells⟩
    exact ⟨rows, rows', hs, ht, fun key hkey => hcells key fun hmem => hkey (hkeys hmem)⟩

/-- What does not differ twice does not differ. -/
theorem trans (hst : SameBut keys tables s t) (htu : SameBut keys tables t u) :
    SameBut keys tables s u := by
  refine ⟨htu.poisoned.trans hst.poisoned, htu.medium.trans hst.medium,
    htu.indexes.trans hst.indexes, fun name hname hother =>
      (htu.table name hname hother).trans (hst.table name hname hother), ?_⟩
  obtain htu | ⟨rows', rows'', ht, hu, hcells'⟩ := htu.state
  · rw [htu]
    exact hst.state
  · obtain hst | ⟨rows, rows₁, hs, ht₁, hcells⟩ := hst.state
    · exact .inr ⟨rows', rows'', hst.symm.trans ht, hu, hcells'⟩
    · obtain rfl : rows₁ = rows' := by
        rw [ht, Option.some.injEq, Table.clientState.injEq] at ht₁
        exact ht₁.symm
      exact .inr ⟨rows, rows'', hs, hu, fun key hkey => (hcells' key hkey).trans (hcells key hkey)⟩

/-! ## The same client state -/

/-- Where no key differs, the client state is the same. -/
theorem stateTable (h : SameBut [] tables s t) :
    t.database.tables.get? Database.stateTable = s.database.tables.get? Database.stateTable := by
  obtain hsame | ⟨rows, rows', hs, ht, hcells⟩ := h.state
  · exact hsame
  · rw [hs, ht, Dict.ext_get? fun key => hcells key List.not_mem_nil]

/-- Where no key differs, the cells are the same. -/
theorem cell (h : SameBut [] tables s t) (key : String) : t.cell key = s.cell key := by
  rw [Store.cell, Store.cell, h.stateTable]

/-- Where no key differs, the rows are the same. -/
theorem keeps {rows : Dict Cell} (h : SameBut [] tables s t) (hs : s.Keeps rows) : t.Keeps rows :=
  ⟨h.poisoned.trans hs.sound, h.stateTable.trans hs.table⟩

/-- Stores that differ nowhere are the same. -/
theorem eq (h : SameBut [] [] s t) : t = s := by
  have htables : t.database.tables = s.database.tables := by
    apply Dict.ext_get?
    intro name
    by_cases hname : name = Database.stateTable
    · rw [hname]
      exact h.stateTable
    · exact h.table name hname List.not_mem_nil
  obtain ⟨⟨tables, indexes⟩, poisoned, medium⟩ := t
  obtain ⟨rfl, rfl, rfl, -, -⟩ := h
  cases htables
  rfl

/-! ## Replacing a cell or the events -/

/-- An insertion under a key leaves the rest alone. -/
theorem withRows {rows : Dict Cell} (hs : s.Keeps rows) (key : String) (cell : Cell) :
    SameBut [key] [] s (s.withRows (rows.insert key cell)) := by
  refine ⟨rfl, rfl, rfl, fun name hname _ => Dict.get?_insert_of_ne _ hname _, .inr ?_⟩
  refine ⟨rows, rows.insert key cell, hs.table, Dict.get?_insert_self _ _ _, fun other hother => ?_⟩
  exact Dict.get?_insert_of_ne _ (fun heq => hother (List.mem_singleton.2 heq)) _

/-- Other events leave the rest alone. -/
theorem withEvents (s : Store) (es : List EventRow) (lastId : Nat) :
    SameBut [] [Database.eventTable] s (s.withEvents es lastId) := by
  refine ⟨rfl, rfl, rfl, fun name _ hother => ?_, .inl (Dict.get?_insert_of_ne _ (by decide) _)⟩
  exact Dict.get?_insert_of_ne _ (fun heq => hother (List.mem_singleton.2 heq)) _

/-- What puts other events into their table leaves the rest alone, also where there is no such
table. -/
theorem ofEventRows {α : Type} {f : List EventRow × Nat → Op Database α}
    (hf : ∀ r d, ∃ es lastId,
      (f r d).state = d.setTable Database.eventTable (.events es lastId)) (s : Store) :
    SameBut [] [Database.eventTable] s (guarded (Database.eventRows >>= f) s).state := by
  cases hpoisoned : s.poisoned with
  | true =>
    simp only [guarded, hpoisoned, if_true]
    exact refl _ _ s
  | false =>
    by_cases h : ∃ es lastId, s.KeepsEvents es lastId
    · obtain ⟨es, lastId, h⟩ := h
      obtain ⟨es', lastId', hstate⟩ := hf (es, lastId) s.database
      have hbind := Op.bind_ok (f := f) (Database.eventRows_eq h)
      rw [guarded_eq hpoisoned (hbind.trans rfl), hstate]
      exact withEvents s es' lastId'
    · obtain ⟨e, herror⟩ := Database.eventRows_error fun es lastId htable =>
        h ⟨es, lastId, htable⟩
      rw [guarded_eq hpoisoned (Op.bind_error herror)]
      exact refl _ _ s

/-- Inserting an event leaves the rest alone. -/
theorem insert (event : Event) (s : Store) :
    SameBut [] [Database.eventTable] s (events.insert event s).state :=
  ofEventRows (fun _ _ => ⟨_, _, rfl⟩) s

/-- Purging events leaves the rest alone. -/
theorem purge (config : EmbeddingConfig) (s : Store) :
    SameBut [] [Database.eventTable] s (EmbeddingModel.purge events config s).state := by
  rw [state_purge]
  exact ofEventRows (fun _ _ => ⟨_, _, rfl⟩) s

end SameBut

end Store

end Audience
