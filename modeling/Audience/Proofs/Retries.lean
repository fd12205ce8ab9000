import Audience.Proofs.Draws
import Mathlib.Data.Finset.Card
import Mathlib.Logic.Function.Iterate
import Mathlib.Order.Interval.Finset.Nat
import Mathlib.Order.Lattice.Nat

/-! # Drawing anew comes to an end if it can

A draw is repeated no more often than generators can follow one another before one comes again.
Nothing is lost by that: the draws after this would be the same once more. So drawing until a value
is accepted has a result exactly if some number of draws is enough.

* **`Rng.after g k`** — the generator after so many words.
* **`Rng.exists_after_eq`** — generators come again.
* **`Draw.Follows d`** — a draw leaves a generator that comes after the one that it was given.
* **`Draw.attemptsNeeded d accepts g`** — how many draws are enough.
* **`Draw.isSome_retry_iff`** — a value that can be accepted is found.
* **`Draw.isSome_below_iff`**, **`Draw.isSome_newIndex_iff`** — when the two searches of a sample
  come to an end. -/

namespace Audience

/-! ## Generators -/

namespace Rng

/-- The generator after so many words. -/
def after (g : Rng) (k : Nat) : Rng := (fun g => g.next.2)^[k] g

/-- Words after words. -/
theorem after_after (g : Rng) (j k : Nat) : (g.after j).after k = g.after (j + k) := by
  rw [after, after, after, Nat.add_comm, Function.iterate_add_apply]

/-- The state after a number of words that were made from it. -/
theorem after_of_words_eq_nil (state : UInt64) (k : Nat) :
    (Rng.mk [] state).after k = ⟨[], state + UInt64.ofNat k * 0x9E3779B97F4A7C15⟩ := by
  induction k with
  | zero => simp [after]
  | succ k ih =>
    rw [← after_after, ih, after, Function.iterate_one, next]
    rw [UInt64.ofNat_add, UInt64.add_mul, ← UInt64.add_assoc]
    rfl

/-- Once its words have been served, a generator only has a state. -/
theorem after_length (g : Rng) : g.after g.words.length = ⟨[], g.state⟩ := by
  obtain ⟨words, state⟩ := g
  induction words with
  | nil => rfl
  | cons w ws ih =>
    rw [List.length_cons, Nat.add_comm, ← after_after]
    exact ih

/-- No more generators come after one than it can reach. -/
theorem exists_after_eq (g : Rng) (j : Nat) : ∃ i < g.reach, g.after i = g.after j := by
  by_cases hj : j < g.words.length
  · exact ⟨j, by rw [reach]; omega, rfl⟩
  · -- the states after the words repeat
    obtain ⟨k, rfl⟩ := Nat.exists_eq_add_of_le (Nat.le_of_not_lt hj)
    refine ⟨g.words.length + k % 2 ^ 64, ?_, ?_⟩
    · rw [reach]
      omega
    · rw [← after_after, ← after_after, after_length, after_of_words_eq_nil,
        after_of_words_eq_nil, UInt64.ofNat_mod_size]

end Rng

namespace Draw

variable {α β : Type} {d : Draw α} {accepts : α → Bool} {g g' : Rng}

/-! ## Draws that follow a generator -/

/-- A draw leaves a generator that comes after the one that it was given. -/
def Follows (d : Draw α) : Prop := ∀ g a g', d g = some (a, g') → ∃ k, g' = g.after k

namespace Follows

/-- A value that is given without drawing. -/
theorem pure (a : α) : Follows (Pure.pure a) := by
  intro g b g' h
  cases h
  exact ⟨0, rfl⟩

/-- One draw after another. -/
theorem bind {f : α → Draw β} (hd : Follows d) (hf : ∀ a, Follows (f a)) : Follows (d >>= f) := by
  intro g b g' h
  obtain ⟨⟨a, g₁⟩, ha, hb⟩ := Option.bind_eq_some_iff.1 h
  obtain ⟨j, rfl⟩ := hd g a g₁ ha
  obtain ⟨k, rfl⟩ := hf a _ b g' hb
  exact ⟨j + k, g.after_after j k⟩

/-- The next word. -/
theorem word : Follows Draw.word := by
  intro g w g' h
  have hnext : g.next.2 = g' := congrArg Prod.snd (Option.some.inj h)
  exact ⟨1, hnext.symm⟩

/-- Repeated draws. -/
theorem attempts (hd : Follows d) (accepts : α → Bool) (n : Nat) :
    Follows (Draw.attempts d accepts n) := by
  induction n with
  | zero =>
    intro g a g' h
    cases h
  | succ n ih =>
    refine hd.bind fun a => ?_
    split
    · exact .pure a
    · exact ih

/-- A number below a range. -/
theorem below (words limit range : Nat) : Follows (Draw.below words limit range) := by
  have hproduct : Follows (product words range) := word.bind fun w => .pure _
  exact bind (fun g => hproduct.attempts _ g.reach g) fun n => .pure _

end Follows

/-! ## How many draws are needed -/

/-- The first draw decides whether others follow. -/
theorem attempts_succ (d : Draw α) (accepts : α → Bool) (n : Nat) (g : Rng) :
    attempts d accepts (n + 1) g = (d g).bind fun r =>
      if accepts r.1 = true then some r else attempts d accepts n r.2 := by
  refine congrArg (Option.bind (d g)) (funext fun r => ?_)
  obtain ⟨a, g'⟩ := r
  by_cases ha : accepts a = true
  · simp only [ha, if_true]
    rfl
  · simp only [ha]
    rfl

/-- A value that is not accepted is one draw lost. -/
theorem attempts_succ_of_not_accepts {r : α × Rng} (h : d g = some r) (hr : ¬accepts r.1 = true)
    (n : Nat) : attempts d accepts (n + 1) g = attempts d accepts n r.2 := by
  rw [attempts_succ, h, Option.bind_some, if_neg hr]

/-- A value that is accepted takes one draw. -/
theorem attempts_succ_of_accepts {r : α × Rng} (h : d g = some r) (hr : accepts r.1 = true)
    (n : Nat) : attempts d accepts (n + 1) g = some r := by
  rw [attempts_succ, h, Option.bind_some, if_pos hr]

/-- Repeated draws have a result only if the first one has. -/
theorem exists_of_isSome_attempts {n : Nat} (h : (attempts d accepts (n + 1) g).isSome = true) :
    ∃ r, d g = some r := by
  cases hd : d g with
  | none =>
    rw [attempts_succ, hd] at h
    cases h
  | some r => exact ⟨r, rfl⟩

/-- More draws do not hurt. -/
theorem isSome_attempts_mono {m n : Nat} (h : (attempts d accepts m g).isSome = true)
    (hmn : m ≤ n) : (attempts d accepts n g).isSome = true := by
  induction n generalizing m g with
  | zero => rwa [Nat.le_zero.1 hmn] at h
  | succ n ih =>
    cases m with
    | zero => cases h
    | succ m =>
      obtain ⟨r, hr⟩ := exists_of_isSome_attempts h
      by_cases haccepts : accepts r.1 = true
      · rw [attempts_succ_of_accepts hr haccepts]
        rfl
      · rw [attempts_succ_of_not_accepts hr haccepts] at h ⊢
        exact ih h (Nat.le_of_succ_le_succ hmn)

/-- How many draws are needed until a value is accepted; zero if none ever is. -/
noncomputable def attemptsNeeded (d : Draw α) (accepts : α → Bool) (g : Rng) : Nat :=
  sInf {n | (attempts d accepts n g).isSome = true}

/-- So many draws are enough, if any number is. -/
theorem isSome_attemptsNeeded (h : ∃ n, (attempts d accepts n g).isSome = true) :
    (attempts d accepts (attemptsNeeded d accepts g) g).isSome = true :=
  Nat.sInf_mem h

/-- No fewer draws are enough. -/
theorem attemptsNeeded_le {n : Nat} (h : (attempts d accepts n g).isSome = true) :
    attemptsNeeded d accepts g ≤ n :=
  Nat.sInf_le h

/-- Where more than one draw is needed, one fewer is needed after the first. -/
theorem exists_attemptsNeeded_eq {n : Nat} (hd : Follows d)
    (h : attemptsNeeded d accepts g = n + 2) :
    ∃ k, attemptsNeeded d accepts (g.after k) = n + 1 := by
  have henough := isSome_attemptsNeeded (Nat.nonempty_of_sInf_eq_succ h)
  rw [h] at henough
  obtain ⟨r, hr⟩ := exists_of_isSome_attempts henough
  obtain ⟨k, hk⟩ := hd g r.1 r.2 hr
  -- the first value is not accepted, or one draw would be enough
  have hnot : ¬accepts r.1 = true := by
    intro haccepts
    have hone : attemptsNeeded d accepts g ≤ 1 := attemptsNeeded_le (by
      rw [attempts_succ_of_accepts hr haccepts]
      rfl)
    omega
  rw [attempts_succ_of_not_accepts hr hnot] at henough
  refine ⟨k, Nat.le_antisymm ?_ ?_⟩
  · rw [← hk]
    exact attemptsNeeded_le henough
  · have hleast := isSome_attemptsNeeded ⟨_, henough⟩
    rw [← attempts_succ_of_not_accepts hr hnot, hk] at hleast
    have hle := attemptsNeeded_le hleast
    omega

/-- Any smaller number of draws is needed later on. -/
theorem exists_after_of_le {m n : Nat} (hd : Follows d) (hm : 0 < m) (hmn : m ≤ n)
    (h : attemptsNeeded d accepts g = n) : ∃ k, attemptsNeeded d accepts (g.after k) = m := by
  induction n generalizing g with
  | zero => omega
  | succ n ih =>
    by_cases heq : m = n + 1
    · exact ⟨0, h.trans heq.symm⟩
    · obtain ⟨n', rfl⟩ : ∃ n', n = n' + 1 := ⟨n - 1, by omega⟩
      obtain ⟨j, hj⟩ := exists_attemptsNeeded_eq hd h
      obtain ⟨k, hk⟩ := ih (by omega) hj
      exact ⟨j + k, by rw [← g.after_after, hk]⟩

/-- No more draws are needed than there are generators to draw from: each of them needs another
number. -/
theorem attemptsNeeded_le_reach (hd : Follows d) (accepts : α → Bool) (g : Rng) :
    attemptsNeeded d accepts g ≤ g.reach := by
  have hneeded : Finset.Icc 1 (attemptsNeeded d accepts g)
      ⊆ (Finset.range g.reach).image (fun i => attemptsNeeded d accepts (g.after i)) := by
    intro m hm
    obtain ⟨hpos, hle⟩ := Finset.mem_Icc.1 hm
    obtain ⟨k, hk⟩ := exists_after_of_le hd hpos hle rfl
    obtain ⟨i, hi, hafter⟩ := g.exists_after_eq k
    exact Finset.mem_image.2 ⟨i, Finset.mem_range.2 hi, by rw [hafter, hk]⟩
  calc attemptsNeeded d accepts g
      = (Finset.Icc 1 (attemptsNeeded d accepts g)).card := by rw [Nat.card_Icc]; omega
    _ ≤ ((Finset.range g.reach).image fun i => attemptsNeeded d accepts (g.after i)).card :=
        Finset.card_le_card hneeded
    _ ≤ (Finset.range g.reach).card := Finset.card_image_le
    _ = g.reach := Finset.card_range _

/-- Drawing until a value is accepted has a result exactly if some number of draws is enough. -/
theorem isSome_retry_iff (hd : Follows d) (accepts : α → Bool) (g : Rng) :
    (retry d accepts g).isSome = true ↔ ∃ n, (attempts d accepts n g).isSome = true := by
  refine ⟨fun h => ⟨g.reach, h⟩, fun h => ?_⟩
  exact isSome_attempts_mono (isSome_attemptsNeeded h) (attemptsNeeded_le_reach hd accepts g)

/-! ## The searches of a sample -/

variable {words limit range : Nat}

/-- So many words are enough if one of them is fair. -/
theorem isSome_attempts_product_iff {n : Nat} :
    (attempts (product words range) (fun p => p % words < limit) n g).isSome = true ↔
      ∃ k < n, (g.after k).next.1.toNat % words * range % words < limit := by
  induction n generalizing g with
  | zero => simp [attempts]
  | succ n ih =>
    have hfirst : product words range g = some (g.next.1.toNat % words * range, g.next.2) := rfl
    by_cases hfair : g.next.1.toNat % words * range % words < limit
    · rw [attempts_succ_of_accepts hfirst (decide_eq_true hfair)]
      exact iff_of_true rfl ⟨0, n.succ_pos, hfair⟩
    · rw [attempts_succ_of_not_accepts hfirst (by simpa using hfair)]
      refine ih.trans ⟨?_, ?_⟩
      · rintro ⟨k, hk, hword⟩
        exact ⟨k + 1, Nat.succ_lt_succ hk, hword⟩
      · rintro ⟨k, hk, hword⟩
        cases k with
        | zero => exact absurd hword hfair
        | succ k => exact ⟨k, Nat.lt_of_succ_lt_succ hk, hword⟩

/-- A number below a range is found exactly if one of the words to come is fair. -/
theorem isSome_below_iff : (below words limit range g).isSome = true ↔
    ∃ k, (g.after k).next.1.toNat % words * range % words < limit := by
  have hproduct : Follows (product words range) := Follows.word.bind fun w => .pure _
  have hbelow : (below words limit range g).isSome
      = (retry (product words range) (fun p => p % words < limit) g).isSome := by
    change (Option.bind _ _).isSome = _
    cases retry (product words range) (fun p => p % words < limit) g <;> rfl
  rw [hbelow, isSome_retry_iff hproduct]
  constructor
  · rintro ⟨n, hn⟩
    obtain ⟨k, -, hk⟩ := isSome_attempts_product_iff.1 hn
    exact ⟨k, hk⟩
  · rintro ⟨k, hk⟩
    exact ⟨k + 1, isSome_attempts_product_iff.2 ⟨k, k.lt_succ_self, hk⟩⟩

/-- A new index is found exactly if it is among so many that are drawn. -/
theorem isSome_newIndex_iff {length : Nat} {drawn : List Nat} :
    (newIndex words length drawn g).isSome = true ↔
      ∃ n, (attempts (below words (words - words % length) length)
        (fun i => !drawn.contains i) n g).isSome = true :=
  isSome_retry_iff (.below _ _ _) _ g

end Draw

end Audience
