import Audience.Proofs.SearchWords

/-! # Texts in normal form

What the normal form of a text looks like can be said without any text it is the form of: a number
of settled words with single blanks between them. Such a text is its own normal form, so that
nothing is changed by taking it again, in a query or in a keyword set.

* **`IsSearchForm text`** — whether a text looks like a normal form.
* **`normalize_eq_self_iff`** — exactly these texts are their own normal forms.
* **`normalize_canonical`** — normal forms are taken once. -/

namespace Audience

/-- Whether a word can be in a normal form: it has characters, and all are alphanumeric and
lowercase. -/
def IsSearchWord (word : String) : Prop := word ≠ "" ∧ ∀ c ∈ word.toList, IsSettled c

/-- Whether a text looks like a normal form: there are at most a thousand words in it, with single
blanks between them and none before or after them. -/
def IsSearchForm (text : String) : Prop :=
  ∃ words : List String, words.length ≤ 1000 ∧ (∀ word ∈ words, IsSearchWord word) ∧
    text = " ".intercalate words

/-- The words of a search can be in a normal form. -/
theorem isSearchWord_of_mem {text word : String} (h : word ∈ searchWords text) :
    IsSearchWord word := by
  obtain ⟨run, hrun, rfl⟩ := List.mem_map.1 h
  obtain ⟨hsome, hletters⟩ := of_mem_wordRuns (List.mem_of_mem_take hrun)
  constructor
  · simpa using hsome
  · intro c hc
    rw [String.toList_ofList] at hc
    obtain ⟨d, hd, rfl⟩ := List.mem_map.1 hc
    exact isSettled_lowerChar (hletters d hd)

/-- A normal form looks like one. -/
theorem isSearchForm_normalize (text : String) : IsSearchForm (normalize text) := by
  refine ⟨searchWords text, ?_, fun word => isSearchWord_of_mem, ?_⟩
  · rw [searchWords, List.length_map]
    exact List.length_take_le _ _
  · rw [normalize, keptWords_eq]

/-- The words that are joined to a normal form are searched for. -/
theorem searchWords_intercalate {words : List String} (hlength : words.length ≤ 1000)
    (h : ∀ word ∈ words, IsSearchWord word) : searchWords (" ".intercalate words) = words := by
  have hruns : wordRuns (" ".intercalate words).toList = words.map String.toList := by
    rw [String.toList_intercalate]
    refine wordRuns_joined (List.forall_mem_map.2 fun word hword => ?_)
    obtain ⟨hsome, hsettled⟩ := h word hword
    exact ⟨mt String.toList_eq_nil_iff.1 hsome, fun c hc => (hsettled c hc).1⟩
  rw [searchWords, hruns, List.take_of_length_le (by simpa using hlength), List.map_map]
  refine (List.map_congr_left fun word hword => ?_).trans (List.map_id words)
  -- settled characters stay as they are
  have hword : word.toList.map lowerChar = word.toList :=
    (List.map_congr_left fun c hc => ((h word hword).2 c hc).2).trans (List.map_id _)
  rw [Function.comp_apply, hword, String.ofList_toList, id]

/-- Exactly the texts that look like normal forms are their own normal forms. -/
theorem normalize_eq_self_iff {text : String} : normalize text = text ↔ IsSearchForm text := by
  constructor
  · intro h
    exact h ▸ isSearchForm_normalize text
  · rintro ⟨words, hlength, hwords, rfl⟩
    rw [normalize, keptWords_eq, searchWords_intercalate hlength hwords]

/-- Normal forms are taken once: the normal form of a text is its own normal form, it is at most a
thousand words of alphanumeric characters with single blanks between them, and keywords match as
their normal form does. -/
theorem normalize_canonical (text : String) :
    normalize (normalize text) = normalize text ∧ IsSearchForm (normalize text) ∧
      ∀ words, matchesWords words (normalize text) = matchesWords words text := by
  have hform := isSearchForm_normalize text
  have htwice := normalize_eq_self_iff.2 hform
  refine ⟨htwice, hform, fun words => ?_⟩
  rw [matchesWords, htwice]
  rfl

example : normalize " İstanbul -- ÉCOLE! " = "istanbul école" := by decide +kernel

end Audience
