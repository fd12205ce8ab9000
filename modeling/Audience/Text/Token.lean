import Audience.Text.Alphanumeric
import Audience.Text.Lowercase

/-! # Tokens of a page text

A token is a maximal run of alphanumeric characters in lowercase. Tokens keep their order and their
repetitions.

* **`wordRuns cs`** — the maximal alphanumeric runs.
* **`tokenize text`** — the tokens of a text. -/

namespace Audience

/-- The maximal runs of alphanumeric characters, in order. -/
def wordRuns (cs : List Char) : List (List Char) :=
  (cs.splitOnP (fun c => !isAlphanumeric c)).filter (fun run => !run.isEmpty)

/-- The lowercase alphanumeric runs of a text, in order, with repetitions. -/
def tokenize (text : String) : List String :=
  (wordRuns text.toList).map (fun run => String.ofList (lowercase run))

/-- The empty text has no runs. -/
@[simp] theorem wordRuns_nil : wordRuns [] = [] := rfl

/-- A character outside every word separates the runs before it from those after it. -/
theorem wordRuns_append_cons (as bs : List Char) {c : Char} (h : isAlphanumeric c = false) :
    wordRuns (as ++ c :: bs) = wordRuns as ++ wordRuns bs := by
  unfold wordRuns
  rw [List.splitOnP_append_cons as bs (by simp [h]), List.filter_append]

end Audience
