/-! # Dictionaries

A dictionary keeps its entries in strictly ascending order of their keys, so two dictionaries with
the same lookups are equal. Keys are compared by code points.

* **`Dict.insert d k v`** — adds an entry or replaces the value of its key.
* **`Dict.get? d k`** — the value of a key.
* **`Dict.erase d k`** — the dictionary without a key.
* **`Dict.ofList es`** — the entries of a list, where the last value of a repeated key wins. -/

namespace Audience

/-- Strictly ascending keys. -/
def Ascending {α : Type} (es : List (String × α)) : Prop := es.Pairwise (fun a b => a.1 < b.1)

/-- A finite map from texts, with its entries in strictly ascending order of keys. -/
structure Dict (α : Type) where
  entries : List (String × α)
  ascending : Ascending entries

namespace Dict

variable {α β : Type}

/-- Puts an entry at its place in an ascending list, over the entry of the same key if there is
one. -/
def put (k : String) (v : α) : List (String × α) → List (String × α)
  | [] => [(k, v)]
  | (k', v') :: rest =>
    if k < k' then (k, v) :: (k', v') :: rest
    else if k = k' then (k, v) :: rest
    else (k', v') :: put k v rest

/-- Every entry after `put` is the new one or an old one. -/
theorem mem_put {k : String} {v : α} {e : String × α} {es : List (String × α)}
    (h : e ∈ put k v es) : e = (k, v) ∨ e ∈ es := by
  induction es with
  | nil => simpa [put] using h
  | cons hd tl ih =>
    obtain ⟨k', v'⟩ := hd
    rw [put] at h
    split at h
    · simpa using h
    · split at h
      · rcases List.mem_cons.1 h with h | h
        · exact .inl h
        · exact .inr (List.mem_cons_of_mem _ h)
      · rcases List.mem_cons.1 h with h | h
        · exact .inr (h ▸ List.mem_cons_self)
        · exact (ih h).imp id (List.mem_cons_of_mem _)

/-- `put` keeps the keys ascending. -/
theorem ascending_put (k : String) (v : α) {es : List (String × α)} (h : Ascending es) :
    Ascending (put k v es) := by
  induction es with
  | nil => exact List.pairwise_singleton _ _
  | cons hd tl ih =>
    obtain ⟨k', v'⟩ := hd
    have htl := List.pairwise_cons.1 h
    rw [put]
    split
    · rename_i hlt
      refine List.pairwise_cons.2 ⟨fun e he => ?_, h⟩
      rcases List.mem_cons.1 he with rfl | he
      · exact hlt
      · exact String.lt_trans hlt (htl.1 e he)
    · split
      · rename_i hlt heq
        exact List.pairwise_cons.2 ⟨fun e he => heq ▸ htl.1 e he, htl.2⟩
      · rename_i hlt hne
        refine List.pairwise_cons.2 ⟨fun e he => ?_, ih htl.2⟩
        rcases mem_put he with rfl | he
        · exact Decidable.byContradiction fun hge =>
            hne (String.le_antisymm (String.not_lt.1 hge) (String.not_lt.1 hlt))
        · exact htl.1 e he

/-- The dictionary without entries. -/
def empty : Dict α := ⟨[], List.Pairwise.nil⟩

instance : Inhabited (Dict α) := ⟨empty⟩

/-- Adds an entry, or replaces the value of its key. -/
def insert (d : Dict α) (k : String) (v : α) : Dict α :=
  ⟨put k v d.entries, ascending_put k v d.ascending⟩

/-- The value of a key. -/
def get? (d : Dict α) (k : String) : Option α := d.entries.lookup k

/-- Whether a key has a value. -/
def contains (d : Dict α) (k : String) : Bool := (d.get? k).isSome

/-- The dictionary without a key. -/
def erase (d : Dict α) (k : String) : Dict α :=
  ⟨d.entries.filter (fun e => e.1 != k), d.ascending.filter _⟩

/-- The entries of a list; of a repeated key the last value stays. -/
def ofList (es : List (String × α)) : Dict α := es.foldl (fun d e => d.insert e.1 e.2) empty

/-- The keys in ascending order. -/
def keys (d : Dict α) : List String := d.entries.map (fun e => e.1)

/-- The values in the order of their keys. -/
def values (d : Dict α) : List α := d.entries.map (fun e => e.2)

/-- The number of entries. -/
def size (d : Dict α) : Nat := d.entries.length

/-- Whether there are no entries. -/
def isEmpty (d : Dict α) : Bool := d.entries.isEmpty

/-- Applies a function to every value. -/
def mapValues (f : α → β) (d : Dict α) : Dict β :=
  ⟨d.entries.map (Prod.map id f), List.pairwise_map.2 d.ascending⟩

/-- Keeps the entries whose value passes a test. -/
def filterValues (p : α → Bool) (d : Dict α) : Dict α :=
  ⟨d.entries.filter (fun e => p e.2), d.ascending.filter _⟩

/-- Applies a function that may give nothing to every value, and keeps what it gives. -/
def filterMapValues (f : α → Option β) (d : Dict α) : Dict β :=
  ⟨d.entries.filterMap (fun e => (f e.2).map (fun v => (e.1, v))), by
    refine d.ascending.filterMap _ fun a a' h b hb b' hb' => ?_
    simp only [Option.map_eq_some_iff] at hb hb'
    obtain ⟨_, _, rfl⟩ := hb
    obtain ⟨_, _, rfl⟩ := hb'
    exact h⟩

/-! ## Lookups -/

/-- Dictionaries with the same entries are equal. -/
@[ext] theorem ext {d e : Dict α} (h : d.entries = e.entries) : d = e := by
  cases d; cases e; simp_all

/-- The empty dictionary has no entries. -/
@[simp] theorem entries_empty : (empty : Dict α).entries = [] := rfl

/-- No key of the empty dictionary has a value. -/
@[simp] theorem get?_empty (k : String) : (empty : Dict α).get? k = none := rfl

/-- After `put` the key has the new value. -/
theorem lookup_put_self (k : String) (v : α) (es : List (String × α)) :
    (put k v es).lookup k = some v := by
  induction es with
  | nil => simp [put]
  | cons hd tl ih =>
    obtain ⟨k', v'⟩ := hd
    rw [put]
    split
    · simp
    · split
      · simp
      · rename_i hne
        simp [List.lookup_cons, beq_eq_false_iff_ne.2 hne, ih]

/-- `put` keeps the value of every other key. -/
theorem lookup_put_ne {k k' : String} (h : k' ≠ k) (v : α) (es : List (String × α)) :
    (put k v es).lookup k' = es.lookup k' := by
  induction es with
  | nil => simp [put, List.lookup_cons, beq_eq_false_iff_ne.2 h]
  | cons hd tl ih =>
    obtain ⟨k₀, v₀⟩ := hd
    rw [put]
    split
    · simp [List.lookup_cons, beq_eq_false_iff_ne.2 h]
    · split
      · rename_i heq
        subst heq
        simp [List.lookup_cons, beq_eq_false_iff_ne.2 h]
      · simp [List.lookup_cons, ih]

/-- An inserted key has its new value. -/
@[simp] theorem get?_insert_self (d : Dict α) (k : String) (v : α) :
    (d.insert k v).get? k = some v := lookup_put_self k v d.entries

/-- An insertion keeps the value of every other key. -/
theorem get?_insert_of_ne (d : Dict α) {k k' : String} (h : k' ≠ k) (v : α) :
    (d.insert k v).get? k' = d.get? k' := lookup_put_ne h v d.entries

/-- The lookups after an insertion. -/
theorem get?_insert (d : Dict α) (k k' : String) (v : α) :
    (d.insert k v).get? k' = if k' = k then some v else d.get? k' := by
  by_cases h : k' = k
  · subst h; simp
  · rw [if_neg h, get?_insert_of_ne d h v]

end Dict

end Audience
