import Audience.Models
import Audience.Proofs.StoreView

/-! # Values that models keep

Three of the models keep one value each in the client state. All that they do to it is to load it,
to change it and to save it again.

* **`Kind`** — the models that keep a value in the client state.
* **`Kind.valueOf k c`** — the value that a stored cell is taken for.
* **`Edit`** — a change of such a value, **`Edit.apply`**, what it makes of a stored cell, and
  **`Edit.update`**, the operation.
* **`Edit.update_cases`** — what an update leaves behind. -/

namespace Audience

/-! ## Kinds of stored values -/

/-- The models that keep a value in the client state. -/
inductive Kind where
  | intent
  | page
  | bandit
  deriving DecidableEq, Repr

namespace Kind

/-- The values that a model keeps. -/
def Value : Kind → Type
  | .intent => History
  | .page => Window
  | .bandit => Arms

/-- The key of the value. -/
def key : Kind → String
  | .intent => Store.historyKey
  | .page => Store.windowKey
  | .bandit => Store.armsKey

/-- Reads a value. -/
def ofJson? : (k : Kind) → Json → Option k.Value
  | .intent => History.ofJson?
  | .page => Window.ofJson?
  | .bandit => Arms.ofJson?

/-- A value as stored. -/
def toJson : (k : Kind) → k.Value → Json
  | .intent => History.toJson
  | .page => Window.toJson
  | .bandit => Arms.toJson

/-- The value that a missing one counts as. -/
def fresh : (k : Kind) → k.Value
  | .intent => History.empty
  | .page => Window.empty
  | .bandit => (Dict.empty : Arms)

/-- What is said about a value that does not decode. -/
def warning : Kind → String
  | .intent => "stored purchase intent history is malformed, starting empty"
  | .page => "stored page probabilities are malformed, starting empty"
  | .bandit => "stored bandit arms are malformed, starting empty"

/-- Access to the value. -/
def access (k : Kind) : Access Store k.Value := Store.access k.key k.ofJson? k.toJson k.fresh

/-- Loads the value; one that does not decode counts as fresh. -/
def load (k : Kind) : Op Store k.Value := k.access.load.orFresh k.fresh k.warning

/-- Saves a value. -/
def save (k : Kind) (v : k.Value) : Op Store Unit := k.access.save v

/-- Loading by the rows. -/
theorem load_eq {s : Store} {rows : Dict Cell} (h : s.Keeps rows) (k : Kind) :
    k.load s = ⟨Store.settled k.ofJson? k.fresh (rows.get? k.key), s,
      Store.settledLog k.ofJson? k.warning (rows.get? k.key)⟩ :=
  h.loadOrFresh k.key k.ofJson? k.toJson k.fresh k.warning

/-- Saving by the rows. -/
theorem save_eq {s : Store} {rows : Dict Cell} (h : s.Keeps rows) (k : Kind) (v : k.Value) :
    k.save v s = ⟨.ok (), s.withRows (rows.insert k.key (.text (k.toJson v).render)), []⟩ :=
  h.save k.key k.ofJson? k.toJson k.fresh v

/-- Different models have different keys. -/
theorem key_injective {j k : Kind} (h : j.key = k.key) : j = k := by
  cases j <;> cases k <;> first | rfl | exact absurd h (by decide)

/-- Clearing takes the values of the models out. -/
theorem get?_clearedRows (rows : Dict Cell) (k : Kind) :
    (Store.clearedRows rows).get? k.key = none := by
  rw [Store.clearedRows]
  simp only [Dict.get?_erase]
  cases k <;> simp [key]

end Kind

/-! ## Loading and saving -/

/-- The value that a cell is taken for. -/
def Kind.valueOf (k : Kind) : Option Cell → k.Value
  | some (.text text) => (Store.decoded k.ofJson? text).getD k.fresh
  | _ => k.fresh

namespace Kind

variable {s : Store} {rows : Dict Cell}

/-- Loading leaves the store as it was, and loads the value of the cell of a store that keeps
rows. -/
theorem load_cases (k : Kind) (s : Store) : (k.load s).state = s ∧
    ∀ v, (k.load s).result = .ok v →
      (∃ rows, s.Keeps rows) ∧ v = k.valueOf (s.cell k.key) := by
  by_cases h : ∃ rows, s.Keeps rows
  · obtain ⟨rows, h⟩ := h
    rw [load_eq h]
    refine ⟨rfl, fun v hv => ⟨⟨rows, h⟩, ?_⟩⟩
    rw [h.cell]
    cases hcell : rows.get? k.key with
    | none =>
      rw [hcell] at hv
      exact (Except.ok.inj hv).symm
    | some cell =>
      rw [hcell] at hv
      cases cell with
      | text text => exact (Except.ok.inj hv).symm
      | blob bytes => cases hv
  · obtain ⟨e, hload⟩ := Store.loadOrFresh_of_not_keeps k.key k.ofJson? k.toJson k.fresh
      (fun rows hs => h ⟨rows, hs⟩) k.warning
    rw [load, access, hload]
    exact ⟨rfl, fun v hv => nomatch hv⟩

/-- What holds of fresh values and of decoded ones holds of what is loaded. -/
theorem property_of_load {k : Kind} {P : k.Value → Prop} (hfresh : P k.fresh)
    (hdecoded : ∀ text v, Store.decoded k.ofJson? text = some v → P v) {s : Store} {v : k.Value}
    (h : (k.load s).result = .ok v) : P v := by
  obtain ⟨-, rfl⟩ := (k.load_cases s).2 v h
  cases s.cell k.key with
  | none => exact hfresh
  | some cell =>
    cases cell with
    | blob bytes => exact hfresh
    | text text =>
      -- a text that does not decode counts as a fresh value
      rw [valueOf]
      cases hvalue : Store.decoded k.ofJson? text with
      | none => exact hfresh
      | some v => exact hdecoded text v hvalue

/-- Loading leaves the store as it was. -/
theorem load_keeps (k : Kind) (s : Store) : k.load s = ⟨(k.load s).result, s, (k.load s).log⟩ :=
  Outcome.eq_mk rfl (k.load_cases s).1

/-- Saving replaces the cell of the key and no other one. -/
theorem cell_save (h : s.Keeps rows) (k : Kind) (v : k.Value) (key : String) :
    (k.save v s).state.cell key =
      if key = k.key then some (.text (k.toJson v).render) else s.cell key := by
  rw [save_eq h, (h.withRows _).cell, Dict.get?_insert, h.cell]

/-- A store that keeps rows keeps rows after saving. -/
theorem keeps_save (h : s.Keeps rows) (k : Kind) (v : k.Value) :
    ∃ rows', (k.save v s).state.Keeps rows' := by
  rw [save_eq h]
  exact ⟨_, h.withRows _⟩

end Kind

/-! ## Updates -/

/-- A change of the value of a model. -/
structure Edit where
  kind : Kind
  change : kind.Value → kind.Value

/-- What an edit makes of a stored cell. -/
def Edit.apply (x : Edit) (c : Option Cell) : Option Cell :=
  some (.text (x.kind.toJson (x.change (x.kind.valueOf c))).render)

/-- Loads the value, changes it and saves it. -/
def Edit.update (x : Edit) : Op Store Unit := do
  let v ← x.kind.load
  x.kind.save (x.change v)

/-- Updating a value is never cut off. -/
theorem Edit.neverCrashes_update (x : Edit) : x.update.NeverCrashes :=
  .bind (.orFresh (Store.neverCrashes_load _ _ _ _) _ _) fun _ => Store.neverCrashes_save _ _ _ _ _

namespace Kind

variable {k : Kind} {s : Store} {rows : Dict Cell}

/-- An update whose value is loaded puts the changed value under the key. -/
theorem update_of_load {v : k.Value} (hs : s.Keeps rows) (hload : (k.load s).result = .ok v)
    (f : k.Value → k.Value) : ((Edit.mk k f).update s).result = .ok () ∧
      ((Edit.mk k f).update s).state
        = s.withRows (rows.insert k.key (.text (k.toJson (f v)).render)) := by
  have hout := k.load_keeps s
  rw [hload] at hout
  rw [Edit.update, Op.bind_ok hout, save_eq hs]
  exact ⟨rfl, rfl⟩

/-- An update whose value cannot be loaded leaves the store as it was. -/
theorem update_of_load_error {e : Failure} (hload : (k.load s).result = .error e)
    (f : k.Value → k.Value) : ((Edit.mk k f).update s).result = .error e ∧
      ((Edit.mk k f).update s).state = s := by
  have hout := k.load_keeps s
  rw [hload] at hout
  rw [Edit.update, Op.bind_error hout]
  exact ⟨rfl, rfl⟩

end Kind

/-- An update leaves the store as it was, or puts the changed value under the key of its model. -/
theorem Edit.update_cases (x : Edit) (s : Store) : (x.update s).state = s ∨
    ∃ rows, s.Keeps rows ∧ (x.update s).state = s.withRows (rows.insert x.kind.key
      (.text (x.kind.toJson (x.change (x.kind.valueOf (rows.get? x.kind.key)))).render)) := by
  cases hload : (x.kind.load s).result with
  | error e => exact .inl (Kind.update_of_load_error hload x.change).2
  | ok v =>
    obtain ⟨⟨rows, hs⟩, hv⟩ := (x.kind.load_cases s).2 v hload
    rw [hs.cell] at hv
    subst hv
    exact .inr ⟨rows, hs, (Kind.update_of_load hs hload x.change).2⟩

end Audience
