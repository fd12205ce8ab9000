import Audience.Bandit.Draw
import Mathlib.Data.List.Nodup
import Mathlib.Data.List.Perm.Basic

/-! # Drawing different indices

Whatever words a generator serves, a sample that comes to an end has as many indices as were asked
for, all of them below the length and no two the same. Each of the three ways to sample has its own
reason. Drawing from growing ranges takes the end of the range where an index was drawn before, and
no earlier range reaches that far; shuffling in place only exchanges items; and an index that is
drawn anew until it differs does differ.

* **`Draw.Gives d P`** — what a draw gives has a property, whenever it comes to an end.
* **`Draw.AreIndices bound count is`** — so many different indices below a bound.
* **`Draw.gives_floyd`**, **`Draw.gives_inPlace`**, **`Draw.gives_rejection`** — the three ways.
* **`Draw.gives_sample`** — the indices of a sample. -/

namespace Audience.Draw

variable {α β : Type}

/-! ## What a draw gives -/

/-- What a draw gives has a property, whenever the draw comes to an end. -/
def Gives (d : Draw α) (P : α → Prop) : Prop := ∀ g a g', d g = some (a, g') → P a

/-- A value that is given without drawing. -/
theorem Gives.pure {P : α → Prop} {a : α} (h : P a) : Gives (Pure.pure a) P := by
  intro g b g' hb
  cases hb
  exact h

/-- One draw after another. -/
theorem Gives.bind {d : Draw α} {f : α → Draw β} {P : α → Prop} {Q : β → Prop} (hd : Gives d P)
    (hf : ∀ a, P a → Gives (f a) Q) : Gives (d >>= f) Q := by
  intro g b g' hb
  obtain ⟨⟨a, g₁⟩, ha, hb⟩ := Option.bind_eq_some_iff.1 hb
  exact hf a (hd g a g₁ ha) g₁ b g' hb

/-- After a value, the next draw runs on the generator that is left. -/
theorem bind_eq {d : Draw α} {f : α → Draw β} {g g' : Rng} {a : α} (h : d g = some (a, g')) :
    (d >>= f) g = f a g' := by
  change Option.bind (d g) _ = _
  rw [h]
  rfl

/-- A property that every step keeps is kept by all of them. -/
theorem Gives.foldlM {P : α → Prop} {step : α → β → Draw α}
    (hstep : ∀ a b, P a → Gives (step a b) P) (bs : List β) {init : α} (hinit : P init) :
    Gives (bs.foldlM step init) P := by
  induction bs generalizing init with
  | nil => exact .pure hinit
  | cons b bs ih =>
    rw [List.foldlM_cons]
    exact (hstep init b hinit).bind fun a ha => ih ha

/-- A property that grows with the number of steps, over numbers in a row. -/
theorem Gives.foldlM_range' {P : Nat → α → Prop} {step : α → Nat → Draw α} {start count : Nat}
    (hstep : ∀ k a, k < count → P k a → Gives (step a (start + k)) (P (k + 1))) {init : α}
    (hinit : P 0 init) : Gives ((List.range' start count).foldlM step init) (P count) := by
  induction count generalizing start init P with
  | zero => exact .pure hinit
  | succ n ih =>
    rw [List.range'_succ, List.foldlM_cons]
    refine (hstep 0 init n.succ_pos hinit).bind fun a ha => ?_
    -- the steps that are left are counted from the second one on
    refine ih (P := fun k => P (k + 1)) (fun k a hk hP => ?_) ha
    rw [show start + 1 + k = start + (k + 1) by omega]
    exact hstep (k + 1) a (Nat.succ_lt_succ hk) hP

/-! ## Numbers -/

/-- A value that is accepted at the end has been accepted, and has what every value has. -/
theorem Gives.attempts {d : Draw α} {P : α → Prop} (hd : Gives d P) (accepts : α → Bool) (n : Nat) :
    Gives (Draw.attempts d accepts n) (fun a => P a ∧ accepts a = true) := by
  induction n with
  | zero =>
    intro g a g' h
    cases h
  | succ n ih =>
    refine hd.bind fun a ha => ?_
    split
    next haccepts => exact .pure ⟨ha, haccepts⟩
    next => exact ih

/-- So it is however often the draw is repeated. -/
theorem Gives.retry {d : Draw α} {P : α → Prop} (hd : Gives d P) (accepts : α → Bool) :
    Gives (Draw.retry d accepts) (fun a => P a ∧ accepts a = true) :=
  fun g => hd.attempts accepts g.reach g

/-- A value that is accepted at once is not drawn anew. -/
theorem retry_of_accepts {d : Draw α} {accepts : α → Bool} {g g' : Rng} {a : α}
    (h : d g = some (a, g')) (haccepts : accepts a = true) : retry d accepts g = some (a, g') := by
  obtain ⟨n, hn⟩ := Nat.exists_eq_add_one.2 (show 0 < g.reach by rw [Rng.reach]; omega)
  rw [retry, hn, attempts, bind_eq h, if_pos haccepts]
  rfl

/-- A word that is fair is not passed over. -/
theorem below_of_fair {words limit range : Nat} {g : Rng}
    (h : g.next.1.toNat % words * range % words < limit) :
    below words limit range g
      = some (g.next.1.toNat % words * range / words, g.next.2) := by
  have hproduct : product words range g = some (g.next.1.toNat % words * range, g.next.2) := rfl
  rw [below, bind_eq (retry_of_accepts hproduct (decide_eq_true h))]
  rfl

/-- The product of a word with a range is less than that of all words. -/
theorem gives_product {words : Nat} (hwords : 0 < words) {range : Nat} (hrange : 0 < range) :
    Gives (product words range) (· < words * range) := by
  refine Gives.bind (P := fun _ => True) (fun _ _ _ _ => trivial) fun w _ => .pure ?_
  exact Nat.mul_lt_mul_of_pos_right (Nat.mod_lt _ hwords) hrange

/-- The number that a word picks is below the range, whichever word it is. -/
theorem gives_below {words : Nat} (hwords : 0 < words) (limit : Nat) {range : Nat}
    (hrange : 0 < range) : Gives (below words limit range) (· < range) := by
  refine ((gives_product hwords hrange).retry _).bind fun n hn => .pure ?_
  exact Nat.div_lt_of_lt_mul hn.1

/-- A number between two bounds is between them. -/
theorem gives_between {lo hi : Nat} (h : lo ≤ hi) :
    Gives (between lo hi) (fun n => lo ≤ n ∧ n ≤ hi) := by
  refine (gives_below (by decide) _ (Nat.succ_pos (hi - lo))).bind fun n hn => .pure ?_
  omega

/-! ## Indices -/

/-- So many different indices below a bound. -/
structure AreIndices (bound count : Nat) (is : List Nat) : Prop where
  nodup : is.Nodup
  lt : ∀ i ∈ is, i < bound
  length : is.length = count

namespace AreIndices

variable {bound count : Nat} {is js : List Nat}

/-- No indices. -/
theorem nil (bound : Nat) : AreIndices bound 0 [] :=
  ⟨List.nodup_nil, fun _ h => absurd h List.not_mem_nil, rfl⟩

/-- The order of indices does not matter. -/
theorem perm (h : AreIndices bound count is) (hperm : js.Perm is) : AreIndices bound count js :=
  ⟨hperm.nodup_iff.2 h.nodup, fun i hi => h.lt i (hperm.subset hi), hperm.length_eq.trans h.length⟩

/-- One more index that is not among the others. -/
theorem cons (h : AreIndices bound count is) {i : Nat} (hi : i < bound) (hnew : i ∉ is) :
    AreIndices bound (count + 1) (i :: is) := by
  refine ⟨List.nodup_cons.2 ⟨hnew, h.nodup⟩, ?_, by rw [List.length_cons, h.length]⟩
  rintro j (_ | ⟨_, hj⟩)
  · exact hi
  · exact h.lt j hj

/-- Indices below a bound are below a greater one. -/
theorem mono (h : AreIndices bound count is) {bound' : Nat} (hbound : bound ≤ bound') :
    AreIndices bound' count is :=
  ⟨h.nodup, fun i hi => Nat.lt_of_lt_of_le (h.lt i hi) hbound, h.length⟩

/-- Some of the indices. -/
theorem take (h : AreIndices bound count is) {n : Nat} (hn : n ≤ count) :
    AreIndices bound n (is.take n) := by
  refine ⟨h.nodup.sublist (List.take_sublist n is), ?_, ?_⟩
  · intro i hi
    exact h.lt i (List.mem_of_mem_take hi)
  · rw [List.length_take, h.length, Nat.min_eq_left hn]

/-- All indices below a bound. -/
theorem range (bound : Nat) : AreIndices bound bound (List.range bound) :=
  ⟨List.nodup_range, fun _ hi => List.mem_range.1 hi, List.length_range⟩

/-- An index up to the bound is new, or the bound itself is: it was not reached before. -/
theorem cons_bound (h : AreIndices bound count is) {t : Nat} (ht : t ≤ bound) :
    AreIndices (bound + 1) (count + 1) ((if t ∈ is then bound else t) :: is) := by
  have hbound : bound ∉ is := fun hmem => Nat.lt_irrefl bound (h.lt bound hmem)
  split
  next => exact (h.mono bound.le_succ).cons bound.lt_succ_self hbound
  next hnew => exact (h.mono bound.le_succ).cons (Nat.lt_succ_of_le ht) hnew

end AreIndices

/-! ## Growing ranges -/

/-- An index is placed before an equal one, or at the end; but for the order it is added. -/
theorem placeBefore_perm (t j : Nat) (xs : List Nat) :
    (placeBefore t j xs).Perm ((if t ∈ xs then j else t) :: xs) := by
  induction xs with
  | nil => simp [placeBefore]
  | cons x xs ih =>
    rw [placeBefore]
    by_cases hx : x = t
    · simp [hx]
    · have hmem : t ∈ x :: xs ↔ t ∈ xs := by simp [Ne.symm hx]
      simp only [hx, if_false, hmem]
      exact (ih.cons x).trans (List.Perm.swap _ _ _)

/-- A few indices stay different when one more is put among them. -/
theorem gives_floydStep {j count : Nat} {drawn : List Nat} (h : AreIndices j count drawn) :
    Gives (floydStep drawn j) (AreIndices (j + 1) (count + 1)) := by
  refine (gives_between j.zero_le).bind fun t ht => .pure ?_
  exact (h.cons_bound ht.2).perm (placeBefore_perm t j drawn)

/-- Many indices stay different when one more is put behind them. -/
theorem gives_floydPush {j count : Nat} {drawn : List Nat} (h : AreIndices j count drawn) :
    Gives (floydPush drawn j) (AreIndices (j + 1) (count + 1)) := by
  refine (gives_between j.zero_le).bind fun t ht => .pure ?_
  simp only [List.contains_iff_mem]
  exact (h.cons_bound ht.2).perm (List.perm_append_singleton _ _)

/-- Exchanging items keeps all of them. -/
theorem exchange_perm (xs : List Nat) (i j : Nat) : (exchange xs i j).Perm xs := by
  rw [exchange]
  split
  next a b ha hb =>
    obtain ⟨hi, rfl⟩ := List.getElem?_eq_some_iff.1 ha
    obtain ⟨hj, rfl⟩ := List.getElem?_eq_some_iff.1 hb
    exact List.set_set_perm hi hj
  next => exact .refl xs

/-- Drawing from growing ranges gives different indices. -/
theorem gives_floyd {length amount : Nat} (h : amount ≤ length) :
    Gives (floyd length amount) (AreIndices length amount) := by
  -- after some ranges there is one index for each, and all are below the end of the next range
  have hrun {step : List Nat → Nat → Draw (List Nat)}
      (hstep : ∀ {j count drawn}, AreIndices j count drawn →
        Gives (step drawn j) (AreIndices (j + 1) (count + 1))) :
      Gives ((List.range' (length - amount) amount).foldlM step []) (AreIndices length amount) := by
    have hall := Gives.foldlM_range' (P := fun k => AreIndices (length - amount + k) k)
      (fun k drawn (_ : k < amount) hdrawn => hstep hdrawn) (.nil _)
    rwa [Nat.sub_add_cancel h] at hall
  rw [floyd]
  split
  · exact hrun gives_floydStep
  · refine (hrun gives_floydPush).bind fun drawn hdrawn => ?_
    refine Gives.foldlM (fun xs i hxs => ?_) _ hdrawn
    exact Gives.bind (P := fun _ => True) (fun _ _ _ _ => trivial) fun k _ =>
      .pure (hxs.perm (exchange_perm xs i k))

/-! ## Shuffling in place -/

/-- Exchanging items of an array keeps all of them. -/
theorem swapIfInBounds_perm (xs : Array Nat) (i j : Nat) :
    (xs.swapIfInBounds i j).toList.Perm xs.toList := by
  rw [Array.swapIfInBounds_def]
  split
  · split
    · exact Array.perm_iff_toList_perm.1 (Array.swap_perm _ _)
    · exact .refl _
  · exact .refl _

/-- Shuffling all indices gives different ones. -/
theorem gives_inPlace {length amount : Nat} (h : amount ≤ length) :
    Gives (inPlace length amount) (AreIndices length amount) := by
  have hshuffled : Gives ((List.range amount).foldlM (inPlaceStep length) (Array.range length))
      (fun xs => AreIndices length length xs.toList) := by
    refine Gives.foldlM (fun xs i hxs => ?_) _ ?_
    · exact Gives.bind (P := fun _ => True) (fun _ _ _ _ => trivial) fun k _ =>
        .pure (hxs.perm (swapIfInBounds_perm xs i k))
    · rw [Array.toList_range]
      exact .range length
  exact hshuffled.bind fun xs hxs => .pure (hxs.take h)

/-! ## Drawing anew -/

/-- An index that is drawn until it differs from others is one that differs. -/
theorem gives_newIndex {words length : Nat} (hwords : 0 < words) (hlength : 0 < length)
    (drawn : List Nat) : Gives (newIndex words length drawn) (fun i => i < length ∧ i ∉ drawn) := by
  intro g i g' hi
  obtain ⟨hlt, hnew⟩ := (gives_below hwords _ hlength).retry _ g i g' hi
  refine ⟨hlt, fun hmem => ?_⟩
  simp [hmem] at hnew

/-- Drawing anew gives different indices. -/
theorem gives_rejection {length amount : Nat} (h : amount ≤ length) :
    Gives (rejection length amount) (AreIndices length amount) := by
  rw [rejection, List.range_eq_range']
  generalize hwords : (if length < wordRange then wordRange else longWordRange) = words
  have hpos : 0 < words := by
    subst hwords
    split <;> decide
  refine Gives.foldlM_range' (P := AreIndices length) (fun k drawn hk hdrawn => ?_) (.nil length)
  refine (gives_newIndex hpos (by omega) drawn).bind fun i hi => .pure ?_
  exact (hdrawn.cons hi.1 hi.2).perm (List.perm_append_singleton _ _)

/-! ## Samples -/

/-- A sample has as many indices as were asked for, all below the length and no two the same. -/
theorem gives_sample {length amount : Nat} (h : amount ≤ length) :
    Gives (sample length amount) (AreIndices length amount) := by
  rw [sample]
  cases way length amount with
  | floyd => exact gives_floyd h
  | inPlace => exact gives_inPlace h
  | rejection => exact gives_rejection h

end Audience.Draw
