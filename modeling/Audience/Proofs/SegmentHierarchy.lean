import Audience.Proofs.FirstAppearances
import Audience.Proofs.Lists
import Mathlib.Data.List.TakeWhile

/-! # The hierarchy of segments

Components are what stands between the hyphens of a segment, and they may be empty. The parent of a
segment and whether it has a child are read off its text without splitting it, and both agree with
the components, wherever the hyphens are. The parents of a list are there in order of first
appearance, and they are their own parents.

* **`IsParts s ps`** — the components of a segment, said without splitting it.
* **`isParts_parts`** — splitting gives components.
* **`IsParts.parent_eq`**, **`IsParts.isParent_iff`** — the parent and having no child, by
  components.
* **`parents_parents`** — parents of parents.
* **`hierarchy_of_segments`** — how all of these agree. -/

namespace Audience

namespace Segment

/-! ## Components -/

/-- Whether a list holds the components of a segment: joined by hyphens they are the segment, and no
component has a hyphen. -/
structure IsParts (s : Segment) (ps : List String) : Prop where
  ne_nil : ps ≠ []
  joined : "-".intercalate ps = s
  flat : ∀ p ∈ ps, separator ∉ p.toList

/-- Splitting a segment gives its components. -/
theorem isParts_parts (s : Segment) : IsParts s (parts s) where
  ne_nil := mt List.map_eq_nil_iff.1 (List.splitOn_ne_nil separator s.toList)
  joined := by
    have hchars : (parts s).map String.toList = s.toList.splitOn separator := by
      simp [parts, Function.comp_def]
    rw [← String.toList_inj, String.toList_intercalate, hchars]
    exact List.intercalate_splitOn separator
  flat := by
    intro p hp
    obtain ⟨part, hpart, rfl⟩ := List.mem_map.1 hp
    rw [String.toList_ofList]
    exact not_mem_of_mem_splitOn hpart

section Components

variable {s : Segment} {p : String} {ps : List String}

/-- The first component is the segment if there is no other one, and ends at a hyphen otherwise. -/
theorem IsParts.first_cases (h : IsParts s (p :: ps)) :
    ps = [] ∧ s = p ∨ ps ≠ [] ∧ ∃ rest, s.toList = p.toList ++ separator :: rest := by
  cases ps with
  | nil => exact .inl ⟨rfl, h.joined.symm.trans String.intercalate_singleton⟩
  | cons q ps =>
    refine .inr ⟨List.cons_ne_nil q ps, ("-".intercalate (q :: ps)).toList, ?_⟩
    rw [← h.joined, String.toList_intercalate, String.toList_intercalate]
    exact (List.intercalate_cons_cons).trans (List.append_assoc _ _ _)

/-- The parent is the first component. -/
theorem IsParts.parent_eq (h : IsParts s (p :: ps)) : parent s = p := by
  have hflat : ∀ c ∈ p.toList, (c != separator) = true := by
    intro c hc
    rw [bne_iff_ne]
    rintro rfl
    exact h.flat p List.mem_cons_self hc
  have hchars : s.toList.takeWhile (fun c => c != separator) = p.toList := by
    rcases h.first_cases with ⟨-, rfl⟩ | ⟨-, rest, hrest⟩
    · exact List.takeWhile_eq_self_iff.2 hflat
    · rw [hrest, List.takeWhile_append_of_pos hflat]
      simp
  rw [parent, hchars, String.ofList_toList]

/-- A segment has no child exactly if it has one component. -/
theorem IsParts.isParent_iff (h : IsParts s ps) : isParent s = true ↔ ps.length = 1 := by
  obtain ⟨p, ps, rfl⟩ := List.exists_cons_of_ne_nil h.ne_nil
  rw [isParent, Bool.not_eq_true', ← Bool.not_eq_true, List.contains_iff_mem, List.length_cons,
    Nat.add_eq_right, List.length_eq_zero_iff]
  rcases h.first_cases with ⟨hnone, rfl⟩ | ⟨hmore, rest, hrest⟩
  · exact iff_of_true (h.flat _ List.mem_cons_self) hnone
  · refine iff_of_false (fun hflat => hflat ?_) hmore
    rw [hrest]
    exact List.mem_append_right _ List.mem_cons_self

end Components

/-- The parent is the first of the components into which a segment is split. -/
theorem head?_parts (s : Segment) : (parts s).head? = some (parent s) := by
  have hparts := isParts_parts s
  obtain ⟨p, ps, hsplit⟩ := List.exists_cons_of_ne_nil hparts.ne_nil
  rw [hsplit] at hparts ⊢
  rw [hparts.parent_eq, List.head?_cons]

/-- A parent is its own parent. -/
theorem parent_parent (s : Segment) : parent (parent s) = parent s := by
  have hflat : separator ∉ (parent s).toList :=
    (isParts_parts s).flat _ (List.mem_of_mem_head? (head?_parts s))
  have honly : IsParts (parent s) [parent s] :=
    ⟨List.cons_ne_nil _ _, String.intercalate_singleton, by simpa using hflat⟩
  exact honly.parent_eq

/-! ## Parents of a list -/

/-- The parents of the segments of a list are there in order of first appearance. -/
theorem isFirsts_parents (ss : List Segment) : IsFirsts (ss.map parent) (parents ss) :=
  isFirsts_iff.2 rfl

/-- The parents of a list are those of its segments. -/
theorem mem_parents {ss : List Segment} {p : Segment} :
    p ∈ parents ss ↔ ∃ s ∈ ss, parent s = p := by
  rw [(isFirsts_parents ss).mem_iff, List.mem_map]

/-- Parents of parents are the same, in the same order. -/
theorem parents_parents (ss : List Segment) : parents (parents ss) = parents ss := by
  have hown : (parents ss).map parent = parents ss := by
    refine (List.map_congr_left fun p hp => ?_).trans (List.map_id _)
    obtain ⟨s, -, rfl⟩ := mem_parents.1 hp
    exact parent_parent s
  rw [parents, hown]
  exact (isFirsts_iff.1 (isFirsts_self (isFirsts_parents ss).nodup)).symm

end Segment

/-- The components of a segment give the segment when they are joined by hyphens, and none of them
has a hyphen. The first one is the parent, and a segment has no child exactly if it has no other
component. The parents of a list of segments are those of its segments, each once, in the order in
which they first appear. Taking parents again changes nothing. -/
theorem hierarchy_of_segments (s : Segment) (ss : List Segment) :
    ("-".intercalate s.parts = s ∧ (∀ p ∈ s.parts, '-' ∉ p.toList) ∧
      s.parts.head? = some s.parent ∧ (s.isParent = true ↔ s.parts.length = 1)) ∧
    (Segment.parents ss).Nodup ∧
    (∀ p, p ∈ Segment.parents ss ↔ ∃ x ∈ ss, Segment.parent x = p) ∧
    (Segment.parents ss).Pairwise (fun p q =>
      (ss.map Segment.parent).idxOf p < (ss.map Segment.parent).idxOf q) ∧
    Segment.parents (Segment.parents ss) = Segment.parents ss := by
  have hparts := Segment.isParts_parts s
  have hfirsts := Segment.isFirsts_parents ss
  exact ⟨⟨hparts.joined, hparts.flat, Segment.head?_parts s, hparts.isParent_iff⟩,
    hfirsts.nodup, fun _ => Segment.mem_parents, hfirsts.ordered, Segment.parents_parents ss⟩

/-- A segment with hyphens at both ends and two in a row, and segments of which two begin with a
hyphen or are empty, so that their parent is the empty one. -/
theorem hierarchy_of_segments_travel :
    let s : Segment := "-travel--hotels-"
    let ss := ["travel-hotels", "-suv", "automotive-sedan", "travel", "", "automotive"]
    "-".intercalate s.parts = s ∧ "hotels" ∈ s.parts ∧ '-' ∉ "hotels".toList ∧ s.parent = "" ∧
      s.parts.length = 5 ∧ Segment.isParent s = false ∧
      Segment.parents ss = ["travel", "", "automotive"] ∧
      Segment.parents (Segment.parents ss) = Segment.parents ss := by
  intro s ss
  obtain ⟨⟨hjoined, hflat, hparent, hlength⟩, -, -, -, hagain⟩ := hierarchy_of_segments s ss
  have hhotels : "hotels" ∈ s.parts := by decide
  have hfive : s.parts.length = 5 := by decide
  refine ⟨hjoined, hhotels, hflat _ hhotels, ?_, hfive, ?_, by decide, hagain⟩
  · exact Option.some.inj (hparent.symm.trans (by decide))
  · rw [← Bool.not_eq_true, hlength, hfive]
    decide

end Audience
