import Mathlib.Data.List.Forall2
import Mathlib.Data.List.Perm.Basic

/-! # Lists and results

What holds of lists and of results whatever is in them.

* **`mapM_eq_some_iff`** — items that are read together are read one by one.
* **`foldl_zipWith_eq`** — vectors are put together position by position.
* **`getElem?_set_cases`**, **`flatMap_set_perm`** — what is in a list, and what it gives, after one
  of its elements has been replaced.
* **`not_mem_of_mem_splitOn`** — the parts of a list that is split.
* **`exists_of_map_eq_ok`**, **`eq_ok_of_toOption`** — the value of a result. -/

namespace Audience

variable {α β γ : Type}

/-! ## Reading all items of a list -/

section MapM

variable {f : α → Option β} {as : List α} {bs : List β}

/-- Items are read together exactly if each of them is read. -/
theorem mapM_eq_some_iff :
    as.mapM f = some bs ↔ List.Forall₂ (fun a b => f a = some b) as bs := by
  induction as generalizing bs with
  | nil => rw [List.mapM_nil, List.forall₂_nil_left_iff, Option.pure_def, Option.some_inj, eq_comm]
  | cons a as ih =>
    rw [List.mapM_cons, List.forall₂_cons_left_iff]
    simp only [Option.bind_eq_bind, Option.bind_eq_some_iff, Option.pure_def, Option.some.injEq, ih]
    constructor
    · rintro ⟨b, hb, bs', hbs', rfl⟩
      exact ⟨b, bs', hb, hbs', rfl⟩
    · rintro ⟨b, bs', hb, hbs', rfl⟩
      exact ⟨b, hb, bs', hbs', rfl⟩

/-- Mapping by a function that gives something for every item. -/
theorem mapM_map_some {g : γ → α} {k : γ → β} {cs : List γ} (h : ∀ c ∈ cs, f (g c) = some (k c)) :
    (cs.map g).mapM f = some (cs.map k) := by
  rw [mapM_eq_some_iff, List.forall₂_map_left_iff, List.forall₂_map_right_iff, List.forall₂_same]
  exact h

/-- As many items are read as there are. -/
theorem length_of_mapM (h : as.mapM f = some bs) : bs.length = as.length :=
  (mapM_eq_some_iff.1 h).length_eq.symm

/-- Everything that is read of items is read of one of them. -/
theorem exists_of_mem_mapM (h : as.mapM f = some bs) {b : β} (hb : b ∈ bs) :
    ∃ a ∈ as, f a = some b := by
  obtain ⟨i, hi, rfl⟩ := List.getElem_of_mem hb
  have hlt : i < as.length := length_of_mapM h ▸ hi
  exact ⟨as[i], List.getElem_mem hlt, (mapM_eq_some_iff.1 h).get hlt hi⟩

/-- Where all items of a list are read, each of them is. -/
theorem exists_of_mapM (h : as.mapM f = some bs) {a : α} (ha : a ∈ as) : ∃ b, f a = some b := by
  obtain ⟨i, hi, rfl⟩ := List.getElem_of_mem ha
  have hlt : i < bs.length := (length_of_mapM h).symm ▸ hi
  exact ⟨bs[i], (mapM_eq_some_iff.1 h).get hi hlt⟩

/-- Items that can all be read can be read together. -/
theorem exists_mapM (h : ∀ a ∈ as, ∃ b, f a = some b) : ∃ bs, as.mapM f = some bs := by
  induction as with
  | nil => exact ⟨[], rfl⟩
  | cons a as ih =>
    obtain ⟨b, hb⟩ := h a List.mem_cons_self
    obtain ⟨bs, hbs⟩ := ih fun a' ha' => h a' (List.mem_cons_of_mem _ ha')
    exact ⟨b :: bs, mapM_eq_some_iff.2 (.cons hb (mapM_eq_some_iff.1 hbs))⟩

end MapM

/-! ## Vectors -/

/-- Vectors of one length are put together position by position. -/
theorem foldl_zipWith_eq {f : α → β → α} {n : Nat} {vs : List (List β)}
    (hvs : ∀ v ∈ vs, v.length = n) {start : List α} (hstart : start.length = n) (a : α) (b : β) :
    vs.foldl (List.zipWith f) start
      = (List.range n).map (fun i => vs.foldl (fun x v => f x (v.getD i b)) (start.getD i a)) := by
  induction vs generalizing start with
  | nil =>
    refine List.ext_getElem (by simp [hstart]) fun i hi _ => ?_
    have hi : i < start.length := hi
    simp [List.getElem?_eq_getElem hi]
  | cons v vs ih =>
    have hv : v.length = n := hvs v List.mem_cons_self
    have hnext : (List.zipWith f start v).length = n := by
      rw [List.length_zipWith, hstart, hv, Nat.min_self]
    rw [List.foldl_cons, ih (fun w hw => hvs w (List.mem_cons_of_mem _ hw)) hnext]
    refine List.map_congr_left fun i hi => ?_
    have hi : i < n := List.mem_range.1 hi
    have hhead : (List.zipWith f start v).getD i a = f (start.getD i a) (v.getD i b) := by
      simp [hstart, hv, hi]
    rw [hhead, List.foldl_cons]

/-! ## Replacing and splitting -/

/-- After one element has been replaced, each is the new one or an old one. -/
theorem getElem?_set_cases {as : List α} {i j : Nat} {a b : α} (h : (as.set i a)[j]? = some b) :
    (j = i ∧ b = a) ∨ (j ≠ i ∧ as[j]? = some b) := by
  rw [List.getElem?_set] at h
  by_cases hij : i = j
  · rw [if_pos hij] at h
    split at h
    · exact .inl ⟨hij.symm, (Option.some.inj h).symm⟩
    · cases h
  · rw [if_neg hij] at h
    exact .inr ⟨Ne.symm hij, h⟩

/-- One element is replaced by one that gives less. -/
theorem flatMap_set_perm {g : α → List β} {as : List α} {i : Nat} {a a' : α} {new : List β}
    (ha : as[i]? = some a) (hg : g a = new ++ g a') :
    (as.flatMap g).Perm (new ++ (as.set i a').flatMap g) := by
  induction as generalizing i with
  | nil => cases ha
  | cons b as ih =>
    cases i with
    | zero =>
      cases ha
      rw [List.set_cons_zero, List.flatMap_cons, List.flatMap_cons, hg, List.append_assoc]
    | succ i =>
      rw [List.set_cons_succ, List.flatMap_cons, List.flatMap_cons]
      exact ((List.perm_append_left_iff (g b)).2 (ih ha)).trans (List.perm_append_comm_assoc _ _ _)

/-- The parts between the separators of a list hold none of these. -/
theorem not_mem_of_mem_splitOn [DecidableEq α] {sep : α} {xs part : List α}
    (h : part ∈ xs.splitOn sep) : sep ∉ part := by
  induction xs generalizing part with
  | nil =>
    rw [List.splitOn_nil, List.mem_singleton] at h
    exact h ▸ List.not_mem_nil
  | cons x xs ih =>
    rw [List.splitOn_cons_eq_if_modifyHead] at h
    split at h
    case isTrue _ =>
      rcases List.mem_cons.1 h with rfl | h
      · exact List.not_mem_nil
      · exact ih h
    case isFalse hx =>
      -- the first part gets longer by one element, which is no separator
      obtain ⟨first, rest, hsplit⟩ := List.exists_cons_of_ne_nil (List.splitOn_ne_nil sep xs)
      rw [hsplit] at h ih
      rcases List.mem_cons.1 h with rfl | h
      · rw [List.mem_cons, not_or]
        exact ⟨fun heq => hx (beq_iff_eq.2 heq.symm), ih List.mem_cons_self⟩
      · exact ih (List.mem_cons_of_mem first h)

/-! ## Results -/

section Results

variable {ε : Type}

/-- Where something is made of a value, there is a value. -/
theorem exists_of_map_eq_ok {x : Except ε α} {f : α → β} {b : β} (h : x.map f = .ok b) :
    ∃ a, x = .ok a ∧ f a = b := by
  cases x with
  | error e => cases h
  | ok a =>
    cases h
    exact ⟨a, rfl, rfl⟩

/-- A value that is left of a result is the result. -/
theorem eq_ok_of_toOption {r : Except ε α} {a : α} (h : r.toOption = some a) : r = .ok a := by
  cases r with
  | ok b =>
    cases h
    rfl
  | error e => cases h

end Results

end Audience
