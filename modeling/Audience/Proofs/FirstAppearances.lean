import Audience.Segment
import Mathlib.Data.List.Basic
import Mathlib.Data.List.Nodup
import Mathlib.Data.List.Perm.Basic

/-! # Segments in order of first appearance

Repetitions go when the segments of a list are added one after another to those that are there.
What comes out holds the same segments, each once, where they first appear. There is only one such
list, so a list in which nothing repeats stays as it is.

* **`IsFirsts ss firsts`** — the segments of a list in order of first appearance.
* **`IsFirsts.add`**, **`IsFirsts.addAll`** — one segment more, and all segments of a list.
* **`isFirsts_iff`** — what comes out is the only list of this kind.
* **`mem_distinctUsable`**, **`distinctUsable_distinctUsable`** — the same for usable segments. -/

namespace Audience

namespace Segment

/-- Whether a list holds the segments of another list in order of first appearance. -/
structure IsFirsts (ss firsts : List Segment) : Prop where
  mem_iff : ∀ s, s ∈ firsts ↔ s ∈ ss
  ordered : firsts.Pairwise (fun s t => ss.idxOf s < ss.idxOf t)

variable {ss firsts : List Segment}

/-! ## Adding segments -/

/-- An empty list has no first appearances. -/
theorem IsFirsts.nil : IsFirsts [] [] := ⟨fun _ => Iff.rfl, List.Pairwise.nil⟩

/-- No segment appears first at two places. -/
theorem IsFirsts.nodup (h : IsFirsts ss firsts) : firsts.Nodup := by
  refine h.ordered.imp ?_
  rintro s _ hlt rfl
  exact Nat.lt_irrefl _ hlt

/-- What has appeared first before still does so in a longer list. -/
theorem IsFirsts.ordered_append (h : IsFirsts ss firsts) (more : List Segment) :
    firsts.Pairwise (fun s t => (ss ++ more).idxOf s < (ss ++ more).idxOf t) := by
  refine h.ordered.imp_of_mem ?_
  intro s t hs ht hlt
  rwa [List.idxOf_append_of_mem ((h.mem_iff s).1 hs), List.idxOf_append_of_mem ((h.mem_iff t).1 ht)]

/-- One more segment appears first at the end, unless it is there already. -/
theorem IsFirsts.add (h : IsFirsts ss firsts) (s : Segment) :
    IsFirsts (ss ++ [s]) (addNew firsts s) := by
  rw [addNew]
  split
  case isTrue hseen =>
    rw [List.contains_iff_mem, h.mem_iff] at hseen
    refine ⟨fun t => ?_, h.ordered_append [s]⟩
    rw [h.mem_iff, List.mem_append, List.mem_singleton]
    exact ⟨.inl, fun ht => ht.elim id (· ▸ hseen)⟩
  case isFalse hnew =>
    rw [List.contains_iff_mem, h.mem_iff] at hnew
    refine ⟨fun t => ?_, ?_⟩
    · rw [List.mem_append, List.mem_append, h.mem_iff]
    · refine List.pairwise_append.2 ⟨h.ordered_append [s], List.pairwise_singleton _ s, ?_⟩
      intro t ht u hu
      rw [List.mem_singleton.1 hu, List.idxOf_append_of_mem ((h.mem_iff t).1 ht),
        List.idxOf_append_of_notMem hnew]
      exact Nat.lt_add_right _ (List.idxOf_lt_length_iff.2 ((h.mem_iff t).1 ht))

/-- Adding the segments of a list one after another goes on with those that appear first. -/
theorem IsFirsts.addAll (h : IsFirsts ss firsts) (more : List Segment) :
    IsFirsts (ss ++ more) (more.foldl addNew firsts) := by
  induction more generalizing ss firsts with
  | nil => rwa [List.append_nil]
  | cons s more ih =>
    rw [List.append_cons]
    exact ih (h.add s)

/-- There is one list only of the segments in order of first appearance. -/
theorem IsFirsts.unique {others : List Segment} (h : IsFirsts ss firsts)
    (hothers : IsFirsts ss others) : firsts = others := by
  refine List.Perm.eq_of_pairwise ?_ h.ordered hothers.ordered ?_
  · intro s t _ _ hlt hgt
    exact absurd hlt (Nat.lt_asymm hgt)
  · refine (List.perm_ext_iff_of_nodup h.nodup hothers.nodup).2 fun s => ?_
    rw [h.mem_iff, hothers.mem_iff]

/-- Adding the segments of a list to none gives its segments in order of first appearance. -/
theorem isFirsts_iff : IsFirsts ss firsts ↔ firsts = ss.foldl addNew [] := by
  have hadded : IsFirsts ss (ss.foldl addNew []) := IsFirsts.nil.addAll ss
  constructor
  · exact fun h => h.unique hadded
  · rintro rfl
    exact hadded

/-- Where nothing repeats, each segment appears first. -/
theorem isFirsts_self (h : ss.Nodup) : IsFirsts ss ss := by
  refine ⟨fun _ => Iff.rfl, List.pairwise_iff_getElem.2 ?_⟩
  intro i j hi hj hlt
  rwa [h.idxOf_getElem i hi, h.idxOf_getElem j hj]

/-! ## Usable segments -/

/-- The usable segments of a list are there in order of first appearance. -/
theorem isFirsts_distinctUsable (ss : List Segment) :
    IsFirsts (ss.filter isUsable) (distinctUsable ss) := isFirsts_iff.2 rfl

/-- Each of the usable segments of a list is there once. -/
theorem nodup_distinctUsable (ss : List Segment) : (distinctUsable ss).Nodup :=
  (isFirsts_distinctUsable ss).nodup

/-- The usable segments of a list are all there. -/
theorem mem_distinctUsable {s : Segment} :
    s ∈ distinctUsable ss ↔ s ∈ ss ∧ isUsable s = true := by
  rw [(isFirsts_distinctUsable ss).mem_iff, List.mem_filter]

/-- Segments that are usable and each there once stay as they are. -/
theorem distinctUsable_distinctUsable (ss : List Segment) :
    distinctUsable (distinctUsable ss) = distinctUsable ss := by
  have husable : (distinctUsable ss).filter isUsable = distinctUsable ss :=
    List.filter_eq_self.2 fun _ hs => (mem_distinctUsable.1 hs).2
  rw [distinctUsable, husable]
  exact (isFirsts_iff.1 (isFirsts_self (nodup_distinctUsable ss))).symm

end Segment

end Audience
