import Audience.Proofs.SettledCharacters
import Audience.Proofs.WordRuns
import Mathlib.Data.List.Basic

/-! # Tokens that are read again

Tokens that are joined by blanks are a text again. What is read from it are the runs of the tokens,
since lowercase is taken only once. These are the tokens themselves, except that the lowercase form
of the dotted capital I holds a combining dot, which is not alphanumeric and cuts its token.

* **`runsOf text`** — the runs of a text as they are.
* **`exists_isLowered_of_mem`** — what a token is made of.
* **`tokens_of_joined_tokens`** — what is read from tokens that are joined.
* **`tokens_of_istanbul`** — a token that is cut. -/

namespace Audience

/-- The runs of a text as they are. -/
def runsOf (text : String) : List String := (wordRuns text.toList).map String.ofList

/-- The tokens of a text whose letters are settled are its runs. -/
theorem tokenize_eq_runsOf {text : String}
    (h : ∀ c ∈ text.toList, isAlphanumeric c = true → IsSettled c) :
    tokenize text = runsOf text := by
  refine List.map_congr_left fun run hrun => ?_
  have hsettled : ∀ c ∈ run, IsSettled c := by
    intro c hc
    obtain ⟨htext, hletter⟩ := exists_mem_wordRuns_iff.1 ⟨run, hrun, hc⟩
    exact h c htext hletter
  rw [lowercase, lowercaseFrom_of_isSettled hsettled]

/-- A text of alphanumeric characters is its only run. -/
theorem runsOf_eq_singleton {text : String} (hsome : text ≠ "")
    (h : ∀ c ∈ text.toList, isAlphanumeric c = true) : runsOf text = [text] := by
  rw [runsOf, wordRuns_eq_singleton (mt String.toList_eq_nil_iff.1 hsome) h, List.map_singleton,
    String.ofList_toList]

/-- The characters of a run are alphanumeric. -/
theorem isAlphanumeric_of_mem_runsOf {text run : String} (h : run ∈ runsOf text) :
    ∀ c ∈ run.toList, isAlphanumeric c = true := by
  obtain ⟨cs, hcs, rfl⟩ := List.mem_map.1 h
  rw [String.toList_ofList]
  exact (of_mem_wordRuns hcs).2

/-! ## What a token is made of -/

section Tokens

variable {text token : String}

/-- A token is the lowercase form of a run of the text. -/
theorem exists_isLowered_of_mem (h : token ∈ tokenize text) :
    ∃ run ∈ wordRuns text.toList, IsLowered run token.toList := by
  obtain ⟨run, hrun, rfl⟩ := List.mem_map.1 h
  refine ⟨run, hrun, ?_⟩
  rw [String.toList_ofList]
  exact isLowered_lowercaseFrom (of_mem_wordRuns hrun).2 []

/-- A token is not empty. -/
theorem ne_empty_of_mem_tokenize (h : token ∈ tokenize text) : token ≠ "" := by
  obtain ⟨run, hrun, hlowered⟩ := exists_isLowered_of_mem h
  intro hempty
  exact (of_mem_wordRuns hrun).1 (hlowered.eq_nil_iff.1 (String.toList_eq_nil_iff.2 hempty))

/-- The characters of a token are settled, combining dots apart. -/
theorem isSettled_or_eq_of_mem_token (h : token ∈ tokenize text) :
    ∀ c ∈ token.toList, IsSettled c ∨ c = combiningDot := by
  obtain ⟨run, -, hlowered⟩ := exists_isLowered_of_mem h
  exact hlowered.settled

/-- Some token has a combining dot exactly if the text has a dotted capital I. -/
theorem exists_combiningDot_mem_iff :
    (∃ token ∈ tokenize text, combiningDot ∈ token.toList) ↔ dottedCapitalI ∈ text.toList := by
  constructor
  · rintro ⟨token, htoken, hdot⟩
    obtain ⟨run, hrun, hlowered⟩ := exists_isLowered_of_mem htoken
    exact (exists_mem_wordRuns_iff.1 ⟨run, hrun, hlowered.dot_iff.1 hdot⟩).1
  · intro hdotted
    obtain ⟨run, hrun, hmem⟩ := exists_mem_wordRuns_iff.2 ⟨hdotted, by decide⟩
    refine ⟨tokenOf run, List.mem_map.2 ⟨run, hrun, rfl⟩, ?_⟩
    rw [tokenOf, String.toList_ofList]
    exact (isLowered_lowercaseFrom (of_mem_wordRuns hrun).2 []).dot_iff.2 hmem

/-- All tokens consist of alphanumeric characters exactly if the text has no dotted capital I. -/
theorem tokens_alphanumeric_iff :
    (∀ token ∈ tokenize text, ∀ c ∈ token.toList, isAlphanumeric c = true) ↔
      dottedCapitalI ∉ text.toList := by
  rw [← exists_combiningDot_mem_iff]
  constructor
  · rintro h ⟨token, htoken, hdot⟩
    simpa using h token htoken combiningDot hdot
  · intro h token htoken c hc
    rcases isSettled_or_eq_of_mem_token htoken c hc with hsettled | rfl
    · exact hsettled.1
    · exact absurd ⟨token, htoken, hc⟩ h

/-- What is read from tokens that are joined by blanks are the runs of the tokens. -/
theorem tokenize_joined (text : String) :
    tokenize (" ".intercalate (tokenize text)) = (tokenize text).flatMap runsOf := by
  rw [tokenize_intercalate]
  refine List.flatMap_congr fun token htoken => tokenize_eq_runsOf fun c hc hletter => ?_
  rcases isSettled_or_eq_of_mem_token htoken c hc with hsettled | rfl
  · exact hsettled
  · simp at hletter

/-- The tokens themselves are read exactly if all consist of alphanumeric characters. -/
theorem tokenize_joined_eq_iff :
    tokenize (" ".intercalate (tokenize text)) = tokenize text ↔
      ∀ token ∈ tokenize text, ∀ c ∈ token.toList, isAlphanumeric c = true := by
  rw [tokenize_joined]
  constructor
  · intro hsame token htoken
    rw [← hsame] at htoken
    obtain ⟨_, _, hrun⟩ := List.mem_flatMap.1 htoken
    exact isAlphanumeric_of_mem_runsOf hrun
  · intro hletters
    calc (tokenize text).flatMap runsOf = (tokenize text).flatMap (fun token => [token]) :=
          List.flatMap_congr fun token htoken =>
            runsOf_eq_singleton (ne_empty_of_mem_tokenize htoken) (hletters token htoken)
      _ = tokenize text := List.flatMap_singleton' _

end Tokens

/-- Tokens are not empty, and their characters are alphanumeric but for the combining dots in the
lowercase forms of the dotted capital I. What is read from the tokens of a text when they are joined
by blanks are the runs of the tokens. So they are all alphanumeric, and they are read again as they
are, exactly if the text has no dotted capital I. -/
theorem tokens_of_joined_tokens (text : String) :
    (∀ token ∈ tokenize text, token ≠ "" ∧
      ∀ c ∈ token.toList, isAlphanumeric c = true ∨ c = combiningDot) ∧
    tokenize (" ".intercalate (tokenize text)) = (tokenize text).flatMap runsOf ∧
    ((∀ token ∈ tokenize text, ∀ c ∈ token.toList, isAlphanumeric c = true) ↔
      dottedCapitalI ∉ text.toList) ∧
    (tokenize (" ".intercalate (tokenize text)) = tokenize text ↔
      dottedCapitalI ∉ text.toList) := by
  refine ⟨?made, tokenize_joined text, tokens_alphanumeric_iff,
    tokenize_joined_eq_iff.trans tokens_alphanumeric_iff⟩
  case made =>
    intro token htoken
    refine ⟨ne_empty_of_mem_tokenize htoken, fun c hc => ?_⟩
    exact (isSettled_or_eq_of_mem_token htoken c hc).imp_left And.left

/-- A text without a dotted capital I, in which a sigma ends a run. -/
theorem tokens_of_joined_tokens_odos :
    dottedCapitalI ∉ "ΟΔΟΣ, ISPARTA".toList ∧
      tokenize "ΟΔΟΣ, ISPARTA" = ["οδος", "isparta"] ∧
      tokenize (" ".intercalate (tokenize "ΟΔΟΣ, ISPARTA")) = tokenize "ΟΔΟΣ, ISPARTA" := by
  have hplain : dottedCapitalI ∉ "ΟΔΟΣ, ISPARTA".toList := by decide
  obtain ⟨-, -, -, hsame⟩ := tokens_of_joined_tokens "ΟΔΟΣ, ISPARTA"
  exact ⟨hplain, by decide +kernel, hsame.2 hplain⟩

/-- The token of a city whose name begins with a dotted capital I: one of its characters is not
alphanumeric, and read again it is two tokens. -/
theorem tokens_of_istanbul :
    tokenize "İstanbul" = ["i\u0307stanbul"] ∧
      ¬(∀ token ∈ tokenize "İstanbul", ∀ c ∈ token.toList, isAlphanumeric c = true) ∧
      tokenize (" ".intercalate (tokenize "İstanbul")) = ["i", "stanbul"] ∧
      tokenize (" ".intercalate (tokenize "İstanbul")) ≠ tokenize "İstanbul" := by
  refine ⟨by decide +kernel, fun hletters => ?_, by decide +kernel, by decide +kernel⟩
  have hdotted : dottedCapitalI ∈ "İstanbul".toList := by decide
  exact tokens_alphanumeric_iff.1 hletters hdotted

end Audience
