/-! # Sorting and cutting off

Sorting one more item puts it at its place among the sorted others, so the first items of a sorted
list can be kept up to date item by item.

* **`mergeSort_cons_eq`** — sorting one more item.
* **`take_insert_take`** — items that are cut off early would be cut off anyway.
* **`pairwise_mergeSort_ties`** — items that are tied keep their order.
* **`mem_take_iff_countP_lt`** — the first items of an ordered list by how many are before them. -/

namespace Audience

variable {α : Type} {le : α → α → Bool}

/-- What is cut off before an item is put at its place would be cut off afterwards. -/
theorem take_insert_take (p : α → Bool) (a : α) (n : Nat) (xs : List α) :
    ((xs.take n).takeWhile p ++ a :: (xs.take n).dropWhile p).take n
      = (xs.takeWhile p ++ a :: xs.dropWhile p).take n := by
  induction xs generalizing n with
  | nil => rw [List.take_nil]
  | cons x xs ih =>
    cases n with
    | zero => rfl
    | succ n =>
      rw [List.take_succ_cons]
      by_cases hx : p x = true
      · simp only [List.takeWhile_cons_of_pos hx, List.dropWhile_cons_of_pos hx, List.cons_append,
          List.take_succ_cons, ih]
      · simp only [List.takeWhile_cons_of_neg hx, List.dropWhile_cons_of_neg hx, List.nil_append,
          List.take_succ_cons]
        -- the item comes first, and one more of the others is cut off
        cases n with
        | zero => rfl
        | succ n =>
          rw [List.take_succ_cons, List.take_succ_cons, List.take_take,
            Nat.min_eq_left (Nat.le_succ n)]

/-- Sorting one more item puts it behind those that have to be before it. -/
theorem mergeSort_cons_eq (htrans : ∀ a b c, le a b = true → le b c = true → le a c = true)
    (htotal : ∀ a b, (le a b || le b a) = true) (a : α) (l : List α) :
    (a :: l).mergeSort le = (l.mergeSort le).takeWhile (fun b => !le a b)
      ++ a :: (l.mergeSort le).dropWhile (fun b => !le a b) := by
  obtain ⟨before, after, hsorted, hrest, hbefore⟩ := List.mergeSort_cons htrans htotal a l
  have hafter : ∀ b ∈ after, (!le a b) ≠ true := by
    intro b hb
    have hall := List.pairwise_mergeSort htrans htotal (a :: l)
    rw [hsorted] at hall
    have hle := (List.pairwise_cons.1 (List.pairwise_append.1 hall).2.1).1 b hb
    simp [hle]
  rw [hsorted, hrest, List.takeWhile_append_of_pos hbefore, List.dropWhile_append_of_pos hbefore]
  cases after with
  | nil => simp
  | cons b after =>
    have hb := hafter b List.mem_cons_self
    rw [List.takeWhile_cons_of_neg (p := fun x => !le a x) hb,
      List.dropWhile_cons_of_neg (p := fun x => !le a x) hb, List.append_nil]

/-- The first items after sorting depend on one more item and the first items before. -/
theorem take_mergeSort_cons (htrans : ∀ a b c, le a b = true → le b c = true → le a c = true)
    (htotal : ∀ a b, (le a b || le b a) = true) (a : α) {l l' : List α} {n : Nat}
    (h : (l.mergeSort le).take n = (l'.mergeSort le).take n) :
    ((a :: l).mergeSort le).take n = ((a :: l').mergeSort le).take n := by
  rw [mergeSort_cons_eq htrans htotal, mergeSort_cons_eq htrans htotal, ← take_insert_take, h,
    take_insert_take]

/-- Sorting keeps the order of items of which either may stand before the other. -/
theorem pairwise_mergeSort_ties {R : α → α → Prop}
    (htrans : ∀ a b c, le a b = true → le b c = true → le a c = true)
    (htotal : ∀ a b, (le a b || le b a) = true) {l : List α} (h : l.Pairwise R) :
    (l.mergeSort le).Pairwise (fun a b => le a b = true ∧ (le b a = true → R a b)) := by
  induction l with
  | nil => simp
  | cons a l ih =>
    obtain ⟨ha, hl⟩ := List.pairwise_cons.1 h
    obtain ⟨before, after, hsorted, hrest, hbefore⟩ := List.mergeSort_cons htrans htotal a l
    have hall := List.pairwise_mergeSort htrans htotal (a :: l)
    rw [hsorted] at hall ⊢
    have hothers := ih hl
    rw [hrest] at hothers
    obtain ⟨hfirst, hlast, hacross⟩ := List.pairwise_append.1 hothers
    obtain ⟨-, hafter, hsplit⟩ := List.pairwise_append.1 hall
    refine List.pairwise_append.2 ⟨hfirst, List.pairwise_cons.2 ⟨?_, hlast⟩, ?_⟩
    · -- the first item was in front of all others
      intro b hb
      refine ⟨(List.pairwise_cons.1 hafter).1 b hb, fun _ => ha b ?_⟩
      have hmem : b ∈ l.mergeSort le := hrest ▸ List.mem_append_right before hb
      exact List.mem_mergeSort.1 hmem
    · intro b hb c hc
      rcases List.mem_cons.1 hc with rfl | hc
      · refine ⟨hsplit b hb c List.mem_cons_self, fun hle => ?_⟩
        have hnot := hbefore b hb
        rw [hle] at hnot
        cases hnot
      · exact hacross b hb c hc

/-- An item of an ordered list is among the first `n` exactly if fewer than `n` are before it. -/
theorem mem_take_iff_countP_lt {R : α → α → Prop} [DecidableRel R]
    (hasymm : ∀ a b, R a b → ¬R b a) {l : List α} (h : l.Pairwise R) {a : α} (ha : a ∈ l)
    (n : Nat) : a ∈ l.take n ↔ l.countP (fun b => R b a) < n := by
  induction l generalizing n with
  | nil => cases ha
  | cons x l ih =>
    obtain ⟨hx, hl⟩ := List.pairwise_cons.1 h
    cases n with
    | zero => simp
    | succ n =>
      rw [List.take_succ_cons, List.mem_cons, List.countP_cons]
      rcases List.mem_cons.1 ha with rfl | ha
      · -- nothing is before the first item
        have hself : ¬R a a := fun h => hasymm a a h h
        have hnone : l.countP (fun b => decide (R b a)) = 0 :=
          List.countP_eq_zero.2 fun b hb => by simpa using hasymm a b (hx b hb)
        simp [hself, hnone]
      · have hfirst : R x a := hx a ha
        have hne : a ≠ x := by
          rintro rfl
          exact hasymm a a hfirst hfirst
        simp [hne, hfirst, ih hl ha]

end Audience
