import Audience.Proofs.Contributions
import Audience.Proofs.Draws
import Audience.Proofs.FirstAppearances
import Mathlib.Data.Finset.Card

/-! # What the bandit chooses

The bandit chooses as many segments as it may, as long as there are enough that are eligible, and
never one twice. It does so for every generator, whether it explores or exploits: exploring picks
different places of the list of eligible segments, exploiting puts that list in another order and
takes the first of it.

* **`IsChoice eligible count picked`** — so many different segments of a list, or all of them.
* **`explore_positions`** — exploring picks different places.
* **`IsChoice.of_explore`**, **`IsChoice.exploit`** — what either chooses.
* **`chosen_segments`** — what is chosen once the eligible segments have been set. -/

namespace Audience

/-! ## Eligible segments -/

namespace Segment

/-- There are as many as there are different usable ones. -/
theorem length_distinctUsable (ss : List Segment) :
    (distinctUsable ss).length = (ss.filter isUsable).toFinset.card := by
  rw [← List.toFinset_card_of_nodup (nodup_distinctUsable ss)]
  congr 1
  ext s
  rw [List.mem_toFinset, List.mem_toFinset, mem_distinctUsable, List.mem_filter]

end Segment

/-! ## Choices -/

/-- Different segments of a list: so many of them, or as many as there are. -/
structure IsChoice (eligible : List Segment) (count : Nat) (picked : List Segment) : Prop where
  nodup : picked.Nodup
  mem : ∀ s ∈ picked, s ∈ eligible
  length : picked.length = min count eligible.length

/-- The first segments of a list in another order are a choice. -/
theorem IsChoice.of_perm {eligible ordered : List Segment} (hnodup : eligible.Nodup)
    (hperm : ordered.Perm eligible) (count : Nat) :
    IsChoice eligible count (ordered.take count) := by
  refine ⟨(hperm.nodup_iff.2 hnodup).sublist (List.take_sublist count ordered), ?_, ?_⟩
  · intro s hs
    exact hperm.subset (List.mem_of_mem_take hs)
  · rw [List.length_take, hperm.length_eq]

/-- Exploiting chooses segments. -/
theorem IsChoice.exploit {eligible : List Segment} (hnodup : eligible.Nodup) (arms : Arms)
    (count : Nat) : IsChoice eligible count (exploit eligible arms count) := by
  rw [Audience.exploit, List.map_take]
  refine .of_perm hnodup ?_ count
  have hvalued : (eligible.map fun s => (s, arms.valueOf s)).map Prod.fst = eligible := by
    rw [List.map_map]
    exact List.map_id' eligible
  exact ((List.mergeSort_perm _ _).map Prod.fst).trans (.of_eq hvalued)

/-- Exploring picks different places of a list, as many as it may. -/
theorem explore_positions {eligible picked : List Segment} {count : Nat} {g g' : Rng}
    (h : explore eligible count g = some (picked, g')) :
    ∃ positions, Draw.sample eligible.length (min count eligible.length) g = some (positions, g') ∧
      Draw.AreIndices eligible.length (min count eligible.length) positions ∧
      picked.map some = positions.map (fun i => eligible[i]?) := by
  obtain ⟨⟨positions, g₁⟩, hsample, hpicked⟩ := Option.bind_eq_some_iff.1 h
  cases hpicked
  have hindices := Draw.gives_sample (Nat.min_le_right _ _) g positions g' hsample
  refine ⟨positions, hsample, hindices, ?_⟩
  -- every place is inside of the list, so none is left out
  rw [List.map_filterMap_some_eq_filter_map_isSome, List.filter_eq_self]
  intro o ho
  obtain ⟨i, hi, rfl⟩ := List.mem_map.1 ho
  simpa using hindices.lt i hi

/-- Exploring chooses segments. -/
theorem IsChoice.of_explore {eligible picked : List Segment} {count : Nat} {g g' : Rng}
    (hnodup : eligible.Nodup) (h : explore eligible count g = some (picked, g')) :
    IsChoice eligible count picked := by
  obtain ⟨positions, -, hindices, hpicked⟩ := explore_positions h
  refine ⟨?_, ?_, ?_⟩
  · -- different places of a list without repetitions hold different segments
    refine List.Nodup.of_map some ?_
    rw [hpicked]
    refine List.Nodup.map_on ?_ hindices.nodup
    intro i hi j hj hsame
    exact (List.getElem?_inj (hindices.lt i hi) hnodup).1 hsame
  · intro s hs
    have hmem : some s ∈ positions.map (fun i => eligible[i]?) := hpicked ▸ List.mem_map_of_mem hs
    obtain ⟨i, -, hi⟩ := List.mem_map.1 hmem
    exact List.mem_of_getElem? hi
  · have hlength := congrArg List.length hpicked
    rwa [List.length_map, List.length_map, hindices.length] at hlength

/-! ## Choosing -/

/-- A model whose eligible segments are all different chooses some of them. -/
theorem BanditModel.exists_choice {σ : Type} {access : Access σ Arms} {m : BanditModel}
    {epsilon : Double} {g : Rng} {s : σ} (hnodup : m.eligible.Nodup)
    (hends : ∀ g', shouldExplore epsilon g = some (true, g') →
      (explore m.eligible m.config.maxSegments g').isSome = true)
    (hloads : ∀ g', shouldExplore epsilon g = some (false, g') →
      (arms access s).result.isOk = true) :
    ∃ picked, (select access m epsilon g s).result = .ok picked ∧
      IsChoice m.eligible m.config.maxSegments picked := by
  rw [result_select]
  -- one word tells whether to explore
  obtain ⟨explores, g', hword⟩ : ∃ explores g', shouldExplore epsilon g = some (explores, g') :=
    ⟨_, _, rfl⟩
  rw [hword]
  cases explores with
  | true =>
    obtain ⟨⟨picked, g''⟩, hpicked⟩ := Option.isSome_iff_exists.1 (hends g' hword)
    simp only [hpicked]
    exact ⟨picked, rfl, .of_explore hnodup hpicked⟩
  | false =>
    have hloaded := hloads g' hword
    rw [arms, Op.result_orFresh] at hloaded
    simp only
    cases hknown : Op.freshened .empty (access.load s).result with
    | error e =>
      rw [hknown] at hloaded
      cases hloaded
    | ok known => exact ⟨_, rfl, .exploit hnodup known _⟩

/-- Exploring comes to an end if sampling does. -/
theorem isSome_explore {eligible : List Segment} {count : Nat} {g : Rng}
    (h : (Draw.sample eligible.length (min count eligible.length) g).isSome = true) :
    (explore eligible count g).isSome = true := by
  obtain ⟨⟨positions, g'⟩, hsample⟩ := Option.isSome_iff_exists.1 h
  refine Option.isSome_iff_exists.2 ⟨(positions.filterMap (fun i => eligible[i]?), g'), ?_⟩
  exact Option.bind_eq_some_iff.2 ⟨(positions, g'), hsample, rfl⟩

/-- Once the eligible segments have been set, the bandit chooses as many different usable ones of
them as it may, or all of them if there are fewer. This holds for every generator from which the
indices can be sampled, whether the bandit explores or exploits; what it exploits has to be loaded.
Exploring any list picks different places of it. -/
theorem chosen_segments {σ : Type} (access : Access σ Arms) (m : BanditModel)
    (segments : List Segment) (epsilon : Double) (g : Rng) (s : σ)
    (hends : ∀ g', shouldExplore epsilon g = some (true, g') →
      let eligible := (BanditModel.setEligible segments m).state.eligible
      (Draw.sample eligible.length (min m.config.maxSegments eligible.length) g').isSome = true)
    (hloads : ∀ g', shouldExplore epsilon g = some (false, g') →
      (BanditModel.arms access s).result.isOk = true) :
    (∃ picked, (BanditModel.select access (BanditModel.setEligible segments m).state epsilon g
        s).result = .ok picked ∧
      picked.Nodup ∧ (∀ x ∈ picked, x ∈ segments ∧ Segment.isUsable x = true) ∧
      picked.length
        = min m.config.maxSegments (segments.filter Segment.isUsable).toFinset.card) ∧
    ∀ (eligible picked : List Segment) (count : Nat) (g g' : Rng),
      explore eligible count g = some (picked, g') →
      ∃ positions, Draw.AreIndices eligible.length (min count eligible.length) positions ∧
        picked.map some = positions.map (fun i => eligible[i]?) := by
  constructor
  · have hnodup : (BanditModel.setEligible segments m).state.eligible.Nodup :=
      Segment.nodup_distinctUsable segments
    obtain ⟨picked, hresult, hchoice⟩ := BanditModel.exists_choice hnodup
      (fun g' hword => isSome_explore (hends g' hword)) hloads
    refine ⟨picked, hresult, hchoice.nodup, ?_, ?_⟩
    · intro x hx
      exact Segment.mem_distinctUsable.1 (hchoice.mem x hx)
    · rw [hchoice.length, ← Segment.length_distinctUsable]
      rfl
  · intro eligible picked count g g' h
    obtain ⟨positions, -, hindices, hpicked⟩ := explore_positions h
    exact ⟨positions, hindices, hpicked⟩

/-- Two of three eligible segments are explored, and the second draw meets the first one again:
the last segment is taken instead of it. -/
theorem chosen_segments_collision :
    let m : BanditModel := .new { Config.default.bandit with maxSegments := 2 }
    let g : Rng := ⟨[0, 0, 0], 0⟩
    let segments := ["shoes", " ", "hats", "shoes", "bags"]
    ∃ picked, (BanditModel.select Store.arms (BanditModel.setEligible segments m).state .one g
        (Store.opened .memory)).result = .ok picked ∧
      picked.Nodup ∧ (∀ x ∈ picked, x ∈ segments ∧ Segment.isUsable x = true) ∧
      picked.length = 2 := by
  intro m g segments
  have hexplores : shouldExplore .one g = some (true, ⟨[0, 0], 0⟩) := by decide +kernel
  -- the least word picks the least index
  have hbetween (j : Nat) (ws : List UInt64) :
      Draw.between 0 j ⟨0 :: ws, 0⟩ = some (0, ⟨ws, 0⟩) := by
    have hlimit : 0 < Draw.shiftedLimit (j - 0 + 1) := Nat.mul_pos (Nat.succ_pos _) (twoTo_pos _)
    have hbelow : Draw.below Draw.wordRange (Draw.shiftedLimit (j - 0 + 1)) (j - 0 + 1)
        ⟨0 :: ws, 0⟩ = some (0, ⟨ws, 0⟩) := by
      rw [Draw.below_of_fair (by simpa [Rng.next] using hlimit)]
      simp [Rng.next]
    rw [Draw.between, Draw.bind_eq hbelow]
    rfl
  have hsample : Draw.sample 3 2 ⟨[0, 0], 0⟩ = some ([2, 0], ⟨[], 0⟩) := by
    have hfirst : Draw.floydStep [] 1 ⟨[0, 0], 0⟩ = some ([0], ⟨[0], 0⟩) := by
      rw [Draw.floydStep, Draw.bind_eq (hbetween 1 [0])]
      rfl
    have hsecond : Draw.floydStep [0] 2 ⟨[0], 0⟩ = some ([2, 0], ⟨[], 0⟩) := by
      rw [Draw.floydStep, Draw.bind_eq (hbetween 2 [])]
      rfl
    change ([1, 2].foldlM Draw.floydStep [] : Draw (List Nat)) _ = _
    rw [List.foldlM_cons, Draw.bind_eq hfirst, List.foldlM_cons, Draw.bind_eq hsecond]
    rfl
  refine (chosen_segments Store.arms m segments .one g (Store.opened .memory) ?_ ?_).1
  · intro g' hword
    cases hexplores.symm.trans hword
    exact congrArg Option.isSome hsample
  · intro g' hword
    cases hexplores.symm.trans hword

end Audience
