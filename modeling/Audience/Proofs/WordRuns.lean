import Audience.Text.Token

/-! # The runs of a text

A text consists of gaps and of runs of alphanumeric characters in turn, in one way only. Tokens are
made of one run each, so a text can be cut at any character of a gap without any effect on them.

* **`IsRuns cs runs`** — the runs are the maximal ones of a text, in order.
* **`isRuns_iff`** — exactly the runs into which a text is split are its maximal ones.
* **`IsRuns.flatten_eq`** — the runs in one row are the alphanumeric characters of the text.
* **`wordRuns_intercalate`** — texts that are joined by blanks keep their runs.
* **`tokens_of_runs`** — tokens depend on their run alone. -/

namespace Audience

/-- Whether a text consists of gaps and of these runs in turn. A run ends where the text does or at
a character of a gap, so no run can be longer. -/
inductive IsRuns : List Char → List (List Char) → Prop
  /-- A gap has no runs. -/
  | gap {gap : List Char} (hgap : ∀ c ∈ gap, isAlphanumeric c = false) : IsRuns gap []
  /-- A run stands between a gap, which may be empty, and the rest. -/
  | run {gap run rest : List Char} {runs : List (List Char)}
      (hgap : ∀ c ∈ gap, isAlphanumeric c = false) (hsome : run ≠ [])
      (hrun : ∀ c ∈ run, isAlphanumeric c = true)
      (hend : ∀ c ∈ rest.head?, isAlphanumeric c = false) (h : IsRuns rest runs) :
      IsRuns (gap ++ run ++ rest) (run :: runs)

/-! ## Runs at the start of a text -/

/-- A gap at the start has no runs. -/
theorem wordRuns_gap_append {gap : List Char} (h : ∀ c ∈ gap, isAlphanumeric c = false)
    (cs : List Char) : wordRuns (gap ++ cs) = wordRuns cs := by
  induction gap with
  | nil => rfl
  | cons c gap ih =>
    obtain ⟨hc, hgap⟩ := List.forall_mem_cons.1 h
    have hcut := wordRuns_append_cons [] (gap ++ cs) hc
    rw [wordRuns_nil, List.nil_append, List.nil_append] at hcut
    rw [List.cons_append, hcut, ih hgap]

/-- Alphanumeric characters alone are one run. -/
theorem wordRuns_eq_singleton {run : List Char} (hsome : run ≠ [])
    (hrun : ∀ c ∈ run, isAlphanumeric c = true) : wordRuns run = [run] := by
  rw [wordRuns, List.splitOnP_eq_singleton fun c hc => by rw [hrun c hc]; rfl]
  simp [hsome]

/-- A run at the start ends at the first character of a gap. -/
theorem wordRuns_run_append {run rest : List Char} (hsome : run ≠ [])
    (hrun : ∀ c ∈ run, isAlphanumeric c = true)
    (hend : ∀ c ∈ rest.head?, isAlphanumeric c = false) :
    wordRuns (run ++ rest) = run :: wordRuns rest := by
  cases rest with
  | nil => simpa using wordRuns_eq_singleton hsome hrun
  | cons c rest =>
    have hc : isAlphanumeric c = false := hend c rfl
    have hgap : ∀ d ∈ [c], isAlphanumeric d = false := by simpa using hc
    have hskip : wordRuns (c :: rest) = wordRuns rest := wordRuns_gap_append hgap rest
    rw [wordRuns_append_cons run rest hc, wordRuns_eq_singleton hsome hrun, hskip,
      List.singleton_append]

/-! ## The runs of a text -/

/-- Maximal runs are those into which a text is split. -/
theorem IsRuns.eq {cs : List Char} {runs : List (List Char)} (h : IsRuns cs runs) :
    runs = wordRuns cs := by
  induction h with
  | gap hgap => simpa using (wordRuns_gap_append hgap []).symm
  | run hgap hsome hrun hend _ ih =>
    rw [List.append_assoc, wordRuns_gap_append hgap, wordRuns_run_append hsome hrun hend, ← ih]

/-- Every text has its maximal runs. -/
theorem exists_isRuns (cs : List Char) : ∃ runs, IsRuns cs runs := by
  induction cs with
  | nil => exact ⟨[], .gap fun c hc => absurd hc List.not_mem_nil⟩
  | cons c cs ih =>
    obtain ⟨runs, hruns⟩ := ih
    cases hc : isAlphanumeric c with
    | false =>
      -- the gap at the start gets longer
      cases hruns with
      | gap hgap => exact ⟨[], .gap (List.forall_mem_cons.2 ⟨hc, hgap⟩)⟩
      | run hgap hsome hrun hend h =>
        exact ⟨_, .run (List.forall_mem_cons.2 ⟨hc, hgap⟩) hsome hrun hend h⟩
    | true =>
      have hnone : ∀ d ∈ ([] : List Char), isAlphanumeric d = false := by simp
      have hone : ∀ d ∈ [c], isAlphanumeric d = true := by simpa using hc
      cases hruns with
      | gap hgap =>
        refine ⟨[[c]], .run hnone (List.cons_ne_nil c []) hone ?_ (.gap hgap)⟩
        exact fun d hd => hgap d (List.mem_of_mem_head? hd)
      | @run gap run rest runs hgap hsome hrun hend h =>
        cases gap with
        | nil =>
          -- the run at the start gets longer
          exact ⟨(c :: run) :: runs, .run hnone (List.cons_ne_nil c run)
            (List.forall_mem_cons.2 ⟨hc, hrun⟩) hend h⟩
        | cons g gap =>
          refine ⟨[c] :: run :: runs, .run hnone (List.cons_ne_nil c []) hone ?_
            (.run hgap hsome hrun hend h)⟩
          intro d hd
          exact hgap d (Option.some.inj hd ▸ List.mem_cons_self)

/-- A text is split into its maximal runs. -/
theorem isRuns_wordRuns (cs : List Char) : IsRuns cs (wordRuns cs) := by
  obtain ⟨runs, hruns⟩ := exists_isRuns cs
  rwa [← hruns.eq]

/-- Exactly the runs into which a text is split are its maximal ones. -/
theorem isRuns_iff {cs : List Char} {runs : List (List Char)} :
    IsRuns cs runs ↔ runs = wordRuns cs := by
  constructor
  · exact IsRuns.eq
  · rintro rfl
    exact isRuns_wordRuns cs

/-- A maximal run is not empty, and all its characters are alphanumeric. -/
theorem IsRuns.of_mem {cs run : List Char} {runs : List (List Char)} (h : IsRuns cs runs)
    (hmem : run ∈ runs) : run ≠ [] ∧ ∀ c ∈ run, isAlphanumeric c = true := by
  induction h with
  | gap _ => exact absurd hmem List.not_mem_nil
  | run _ hsome hrun _ _ ih =>
    rcases List.mem_cons.1 hmem with rfl | hmem
    · exact ⟨hsome, hrun⟩
    · exact ih hmem

/-- The maximal runs in one row are the alphanumeric characters of the text. -/
theorem IsRuns.flatten_eq {cs : List Char} {runs : List (List Char)} (h : IsRuns cs runs) :
    runs.flatten = cs.filter isAlphanumeric := by
  induction h with
  | gap hgap => simpa using hgap
  | @run gap run rest _ hgap _ hrun _ _ ih =>
    have hnone : gap.filter isAlphanumeric = [] := by simpa using hgap
    have hall : run.filter isAlphanumeric = run := List.filter_eq_self.2 hrun
    rw [List.flatten_cons, ih, List.filter_append, List.filter_append, hnone, hall,
      List.nil_append]

/-- A run is not empty, and all its characters are alphanumeric. -/
theorem of_mem_wordRuns {cs run : List Char} (h : run ∈ wordRuns cs) :
    run ≠ [] ∧ ∀ c ∈ run, isAlphanumeric c = true :=
  (isRuns_wordRuns cs).of_mem h

/-- The characters in the runs are the alphanumeric ones of the text. -/
theorem exists_mem_wordRuns_iff {cs : List Char} {c : Char} :
    (∃ run ∈ wordRuns cs, c ∈ run) ↔ c ∈ cs ∧ isAlphanumeric c = true := by
  rw [← List.mem_flatten, (isRuns_wordRuns cs).flatten_eq, List.mem_filter]

/-- Texts that are joined by blanks keep their runs. -/
theorem wordRuns_intercalate (texts : List (List Char)) :
    wordRuns ([' '].intercalate texts) = texts.flatMap wordRuns := by
  induction texts with
  | nil => rfl
  | cons text texts ih =>
    cases texts with
    | nil => simp
    | cons next rest =>
      rw [List.intercalate_cons_cons, List.append_assoc, List.singleton_append,
        wordRuns_append_cons _ _ isAlphanumeric_space, ih]
      rfl

/-- Words of alphanumeric characters that are joined by blanks are split apart again. -/
theorem wordRuns_joined {words : List (List Char)}
    (h : ∀ word ∈ words, word ≠ [] ∧ ∀ c ∈ word, isAlphanumeric c = true) :
    wordRuns ([' '].intercalate words) = words := by
  rw [wordRuns_intercalate]
  induction words with
  | nil => rfl
  | cons word words ih =>
    obtain ⟨⟨hsome, hword⟩, hwords⟩ := List.forall_mem_cons.1 h
    rw [List.flatMap_cons, wordRuns_eq_singleton hsome hword, ih hwords, List.singleton_append]

/-! ## Tokens -/

/-- The token of a run is its lowercase form. -/
def tokenOf (run : List Char) : String := String.ofList (lowercase run)

/-- Tokens are those of the runs, in order. -/
theorem tokenize_eq (text : String) : tokenize text = (wordRuns text.toList).map tokenOf := rfl

/-- Texts that are joined by blanks keep their tokens. -/
theorem tokenize_intercalate (texts : List String) :
    tokenize (" ".intercalate texts) = texts.flatMap tokenize := by
  have hblank : " ".toList = [' '] := rfl
  rw [tokenize_eq, String.toList_intercalate, hblank, wordRuns_intercalate, List.flatMap_map,
    List.map_flatMap]
  rfl

/-- Tokens depend on their run alone. A text can be cut at any character that is not alphanumeric:
its tokens are those before the cut and those after it. Alphanumeric characters alone are one token,
their lowercase form. In general a text has its maximal runs, no others, and its tokens are the
lowercase forms of these in order. -/
theorem tokens_of_runs :
    (∀ (a b : String) (c : Char), isAlphanumeric c = false →
      tokenize (a ++ c.toString ++ b) = tokenize a ++ tokenize b) ∧
    (∀ run : String, run ≠ "" → (∀ c ∈ run.toList, isAlphanumeric c = true) →
      tokenize run = [String.ofList (lowercase run.toList)]) ∧
    ∀ text : String, ∃ runs, (∀ others, IsRuns text.toList others ↔ others = runs) ∧
      tokenize text = runs.map tokenOf := by
  refine ⟨?cut, ?single, ?runs⟩
  case cut =>
    intro a b c hc
    have htext : (a ++ c.toString ++ b).toList = a.toList ++ c :: b.toList := by simp
    rw [tokenize_eq, htext, wordRuns_append_cons _ _ hc, List.map_append]
    rfl
  case single =>
    intro run hsome hrun
    have hchars : run.toList ≠ [] := mt String.toList_eq_nil_iff.1 hsome
    rw [tokenize_eq, wordRuns_eq_singleton hchars hrun]
    rfl
  case runs => exact fun text => ⟨wordRuns text.toList, fun _ => isRuns_iff, rfl⟩

/-- A sigma that ends one run and begins the next one, which it makes up alone. -/
theorem tokens_of_runs_sigma :
    tokenize ("ΑΣ" ++ '.'.toString ++ "Σ") = tokenize "ΑΣ" ++ tokenize "Σ" ∧
      tokenize "ΑΣ" = ["ας"] ∧ tokenize "Σ" = ["σ"] := by
  obtain ⟨hcut, hsingle, -⟩ := tokens_of_runs
  refine ⟨hcut "ΑΣ" "Σ" '.' (by decide), ?_, ?_⟩
  · have hletters : "ΑΣ".toList.all isAlphanumeric = true := by decide
    rw [hsingle "ΑΣ" (by decide) (List.all_eq_true.1 hletters)]
    decide
  · have hletters : "Σ".toList.all isAlphanumeric = true := by decide
    rw [hsingle "Σ" (by decide) (List.all_eq_true.1 hletters)]
    decide

end Audience
