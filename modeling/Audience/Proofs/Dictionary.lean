import Audience.Dict

/-! # Facts about dictionaries

A dictionary is determined by its lookups, and building one from the entries of a dictionary gives
that dictionary back.

* **`Dict.get?_eq_some_iff`** — the lookups of a dictionary are its entries.
* **`Dict.ext_get?`** — dictionaries with the same lookups are equal.
* **`Dict.ofList_entries`** — a dictionary is made of its entries.
* **`Dict.get?_ofList_eq_some_iff`** — the lookups of a dictionary that is made of a list.
* **`Dict.get?_erase`** — the lookups after a key has been taken out. -/

namespace Audience.Dict

variable {α β : Type}

/-- A lookup in an ascending list finds exactly the entry of its key. -/
theorem lookup_eq_some_iff {es : List (String × α)} (h : Ascending es) {k : String} {v : α} :
    es.lookup k = some v ↔ (k, v) ∈ es := by
  induction es with
  | nil => simp
  | cons e es ih =>
    obtain ⟨k', v'⟩ := e
    obtain ⟨hlt, hes⟩ := List.pairwise_cons.1 h
    rw [List.lookup_cons, List.mem_cons, Prod.mk.injEq]
    by_cases hk : k = k'
    · subst hk
      -- the key stands at the head, so it stands nowhere else
      have hnot : (k, v) ∉ es := fun hmem => String.lt_irrefl k (hlt _ hmem)
      simp only [beq_self_eq_true, Option.some.injEq, true_and, hnot, or_false]
      exact eq_comm
    · simp only [beq_eq_false_iff_ne.2 hk, hk, false_and, false_or]
      exact ih hes

/-- The value of a key is the one of its entry. -/
theorem get?_eq_some_iff {d : Dict α} {k : String} {v : α} :
    d.get? k = some v ↔ (k, v) ∈ d.entries := lookup_eq_some_iff d.ascending

/-- The keys are what has a value. -/
theorem mem_keys_iff {d : Dict α} {k : String} : k ∈ d.keys ↔ ∃ v, d.get? k = some v := by
  simp [keys, get?_eq_some_iff]

/-- No entry of an ascending list is there twice. -/
theorem nodup_of_ascending {es : List (String × α)} (h : Ascending es) : es.Nodup := by
  refine h.imp fun hlt heq => ?_
  subst heq
  exact String.lt_irrefl _ hlt

/-- Dictionaries with the same lookups are equal. -/
theorem ext_get? {d e : Dict α} (h : ∀ k, d.get? k = e.get? k) : d = e := by
  apply ext
  have hperm : d.entries.Perm e.entries := by
    rw [List.perm_ext_iff_of_nodup (nodup_of_ascending d.ascending)
      (nodup_of_ascending e.ascending)]
    rintro ⟨k, v⟩
    rw [← get?_eq_some_iff, ← get?_eq_some_iff, h]
  -- both lists are in the one ascending order of their entries
  refine hperm.eq_of_pairwise ?_ d.ascending e.ascending
  intro a b _ _ hab hba
  exact absurd hba (String.lt_asymm hab)

/-- Of two insertions under one key the later one counts. -/
@[simp] theorem insert_insert (d : Dict α) (k : String) (v w : α) :
    (d.insert k v).insert k w = d.insert k w := by
  apply ext_get?
  intro k'
  simp only [get?_insert]
  split <;> rfl

/-- Putting a key behind all others appends its entry. -/
theorem put_of_lt {k : String} {v : α} {es : List (String × α)} (h : ∀ e ∈ es, e.1 < k) :
    put k v es = es ++ [(k, v)] := by
  induction es with
  | nil => rfl
  | cons e es ih =>
    obtain ⟨k', v'⟩ := e
    have hk : k' < k := h (k', v') List.mem_cons_self
    rw [put, if_neg (String.lt_asymm hk), if_neg, ih fun e he => h e (List.mem_cons_of_mem _ he),
      List.cons_append]
    rintro rfl
    exact String.lt_irrefl k hk

/-- Inserting ascending entries behind those of a dictionary appends them. -/
theorem entries_foldl_insert (d : Dict α) {es : List (String × α)}
    (h : Ascending (d.entries ++ es)) :
    (es.foldl (fun d e => d.insert e.1 e.2) d).entries = d.entries ++ es := by
  induction es generalizing d with
  | nil => rw [List.foldl_nil, List.append_nil]
  | cons e es ih =>
    -- the next key is greater than all before it, so its entry goes to the end
    have hlt : ∀ e' ∈ d.entries, e'.1 < e.1 := fun e' he' =>
      (List.pairwise_append.1 h).2.2 e' he' e List.mem_cons_self
    have hinsert : (d.insert e.1 e.2).entries = d.entries ++ [e] := put_of_lt hlt
    have hassoc : d.entries ++ e :: es = (d.insert e.1 e.2).entries ++ es := by
      rw [hinsert, List.append_assoc, List.singleton_append]
    rw [List.foldl_cons, ih _ (hassoc ▸ h), ← hassoc]

/-- A dictionary is made of its entries. -/
@[simp] theorem ofList_entries (d : Dict α) : ofList d.entries = d := by
  apply ext
  exact entries_foldl_insert empty d.ascending

/-- A dictionary made of a list is looked up from the end of the list. -/
theorem get?_ofList (es : List (String × α)) (k : String) :
    (ofList es).get? k = es.reverse.lookup k := by
  have hfold : ∀ (es : List (String × α)) (d : Dict α),
      (es.foldl (fun d e => d.insert e.1 e.2) d).get? k
        = (es.reverse.lookup k).or (d.get? k) := by
    intro es
    induction es with
    | nil => exact fun d => rfl
    | cons e es ih =>
      intro d
      rw [List.foldl_cons, ih, List.reverse_cons, List.lookup_append, Option.or_assoc, get?_insert,
        List.lookup_cons]
      by_cases hk : k = e.1
      · simp [hk]
      · simp [hk, beq_eq_false_iff_ne.2 hk]
  exact (hfold es empty).trans Option.or_none

/-- A key of a list has the value of its last place there. -/
theorem get?_ofList_eq_some_iff {es : List (String × α)} {k : String} {v : α} :
    (ofList es).get? k = some v ↔
      ∃ before after, es = before ++ (k, v) :: after ∧ ∀ e ∈ after, e.1 ≠ k := by
  rw [get?_ofList, List.lookup_eq_some_iff]
  constructor
  · rintro ⟨after, before, hes, hafter⟩
    refine ⟨before.reverse, after.reverse, ?_, fun e he => ?_⟩
    · rw [← List.reverse_inj, hes]
      simp
    · exact (bne_iff_ne.1 (hafter e (List.mem_reverse.1 he))).symm
  · rintro ⟨before, after, rfl, hafter⟩
    refine ⟨after.reverse, before.reverse, by simp, fun e he => ?_⟩
    exact bne_iff_ne.2 (hafter e (List.mem_reverse.1 he)).symm

/-- Every entry of a dictionary made of a list is one of the list. -/
theorem mem_of_mem_ofList {es : List (String × α)} {e : String × α}
    (h : e ∈ (ofList es).entries) : e ∈ es := by
  obtain ⟨before, after, hes, -⟩ := get?_ofList_eq_some_iff.1 (get?_eq_some_iff.2 h)
  rw [hes]
  exact List.mem_append_right _ List.mem_cons_self

/-- The lookups after a key has been taken out. -/
theorem get?_erase (d : Dict α) (k k' : String) :
    (d.erase k).get? k' = if k' = k then none else d.get? k' := by
  have hfilter : ∀ es : List (String × α), (es.filter (fun e => e.1 != k)).lookup k'
      = if k' = k then none else es.lookup k' := by
    intro es
    induction es with
    | nil => simp
    | cons e es ih =>
      obtain ⟨k₀, v⟩ := e
      by_cases hk : k₀ = k
      · subst hk
        -- the head is taken out; a lookup of another key passes it by anyway
        rw [List.filter_cons_of_neg (by simp), ih, List.lookup_cons]
        by_cases hk' : k' = k₀
        · rw [if_pos hk', if_pos hk']
        · simp only [if_neg hk', beq_eq_false_iff_ne.2 hk']
      · rw [List.filter_cons_of_pos (by simp [hk]), List.lookup_cons, List.lookup_cons, ih]
        by_cases hk' : k' = k
        · have hne : (k' == k₀) = false := beq_eq_false_iff_ne.2 fun h => hk (h ▸ hk')
          simp only [hne, if_pos hk']
        · simp only [if_neg hk']
  exact hfilter d.entries

/-- An insertion makes up for a key that has been taken out. -/
theorem insert_erase (d : Dict α) (k : String) (v : α) :
    (d.erase k).insert k v = d.insert k v := by
  apply ext_get?
  intro k'
  rw [get?_insert, get?_insert, get?_erase]
  split <;> rfl

/-- The lookups after a function has been applied to every value. -/
theorem get?_mapValues (f : α → β) (d : Dict α) (k : String) :
    (d.mapValues f).get? k = (d.get? k).map f := by
  have hmap : ∀ es : List (String × α), (es.map (Prod.map id f)).lookup k
      = (es.lookup k).map f := by
    intro es
    induction es with
    | nil => rfl
    | cons e es ih =>
      obtain ⟨k', v⟩ := e
      rw [List.map_cons, Prod.map_apply, id_eq, List.lookup_cons, List.lookup_cons, ih]
      cases k == k' <;> rfl
  exact hmap d.entries

/-- Applying a function to every value keeps the keys. -/
@[simp] theorem keys_mapValues (f : α → β) (d : Dict α) : (d.mapValues f).keys = d.keys := by
  simp [keys, mapValues]

/-- Every key after an insertion is the new one or an old one. -/
theorem mem_keys_insert {d : Dict α} {k k' : String} {v : α} (h : k' ∈ (d.insert k v).keys) :
    k' = k ∨ k' ∈ d.keys := by
  obtain ⟨e, he, rfl⟩ := List.mem_map.1 h
  rcases mem_put he with rfl | he
  · exact .inl rfl
  · exact .inr (List.mem_map_of_mem he)

/-- The lookups after a function that may give nothing has been applied to every value. -/
theorem get?_filterMapValues (f : α → Option β) (d : Dict α) (k : String) :
    (d.filterMapValues f).get? k = (d.get? k).bind f := by
  refine Option.ext fun w => ?_
  rw [get?_eq_some_iff, Option.bind_eq_some_iff, filterMapValues]
  simp only [List.mem_filterMap, Option.map_eq_some_iff, Prod.mk.injEq, get?_eq_some_iff]
  constructor
  · rintro ⟨⟨_, v⟩, hmem, _, hw, rfl, rfl⟩
    exact ⟨v, hmem, hw⟩
  · rintro ⟨v, hmem, hw⟩
    exact ⟨(k, v), hmem, w, hw, rfl, rfl⟩

/-- What is kept of the values was made of one of them. -/
theorem exists_of_get?_filterMapValues {f : α → Option β} {d : Dict α} {k : String} {w : β}
    (h : (d.filterMapValues f).get? k = some w) : ∃ v, d.get? k = some v ∧ f v = some w := by
  rw [get?_filterMapValues] at h
  exact Option.bind_eq_some_iff.1 h

end Audience.Dict
