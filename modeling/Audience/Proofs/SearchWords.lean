import Audience.Keyword
import Audience.Proofs.SettledCharacters
import Audience.Proofs.WordRuns

/-! # The words of a normal form

The normal form of a text replaces characters, splits at blanks, cuts off and joins again. What is
split out of it afterwards are the runs of alphanumeric characters of the text itself, in lowercase
and cut off at the same number: no lowercase form is blank, so replacing characters neither makes
nor loses a word, and joining words by blanks does not either.

* **`searchWords text`** — the first alphanumeric runs of a text in lowercase.
* **`isBlank_cleanChar`** — what is blank after replacing is what was not alphanumeric.
* **`fields_joined`** — words that are joined by blanks are split apart again.
* **`wordsOf_normalize`** — the words of a normal form. -/

namespace Audience

/-! ## Blanks -/

/-- No alphanumeric range meets a range of blanks. -/
theorem alphanumeric_apart : ∀ r ∈ alphanumericRanges, ∀ b ∈ blankRanges,
    r.2 < b.1 ∨ b.2 < r.1 := by
  decide +kernel

/-- No ASCII letter or digit is blank. -/
theorem isBlank_ascii : ∀ c : Char, c.toNat < 0x80 → c.isAlphanum = true → isBlank c = false :=
  forall_ascii (by decide +kernel)

/-- No alphanumeric character is blank. -/
theorem isBlank_of_isAlphanumeric {c : Char} (h : isAlphanumeric c = true) :
    isBlank c = false := by
  by_cases hascii : c.toNat < 0x80
  · rw [isAlphanumeric_ascii hascii] at h
    exact isBlank_ascii c hascii h
  · rw [isAlphanumeric, if_neg hascii] at h
    obtain ⟨r, hr, hlo, hhi⟩ := exists_mem_of_inRanges h
    refine Bool.eq_false_iff.2 fun hblank => ?_
    obtain ⟨b, hb, hblo, hbhi⟩ := exists_mem_of_inRanges hblank
    have hapart := alphanumeric_apart r hr b hb
    omega

/-- The lowercase form of an alphanumeric character is not blank. -/
theorem isBlank_lowerChar {c : Char} (h : isAlphanumeric c = true) :
    isBlank (lowerChar c) = false :=
  isBlank_of_isAlphanumeric (isSettled_lowerChar h).1

/-- What is blank after replacing is what was not alphanumeric. -/
theorem isBlank_cleanChar (c : Char) : isBlank (cleanChar c) = !isAlphanumeric c := by
  rw [cleanChar]
  cases h : isAlphanumeric c with
  | true => simpa using isBlank_lowerChar h
  | false => rfl

/-! ## Runs -/

/-- Splitting after items have been replaced. -/
theorem splitOnP_map (p : Char → Bool) (f : Char → Char) (cs : List Char) :
    (cs.map f).splitOnP p = (cs.splitOnP (p ∘ f)).map (List.map f) := by
  induction cs with
  | nil => rfl
  | cons c cs ih =>
    rw [List.map_cons, List.splitOnP_cons_eq_if_modifyHead, List.splitOnP_cons_eq_if_modifyHead, ih]
    obtain ⟨first, rest, hparts⟩ := List.exists_cons_of_ne_nil (List.splitOnP_ne_nil (p ∘ f) cs)
    rw [hparts, Function.comp_apply]
    by_cases hc : p (f c) = true
    · rw [if_pos hc, if_pos hc]
      rfl
    · rw [if_neg hc, if_neg hc]
      rfl

/-- The fields of a cleaned text are its runs in lowercase. -/
theorem fields_map_cleanChar (cs : List Char) :
    fields (cs.map cleanChar) = (wordRuns cs).map (List.map lowerChar) := by
  -- blanks come from what is not alphanumeric, so both sides are split at the same places
  have hblank : isBlank ∘ cleanChar = fun c => !isAlphanumeric c := funext isBlank_cleanChar
  have hclean :
      (wordRuns cs).map (List.map cleanChar) = (wordRuns cs).map (List.map lowerChar) := by
    refine List.map_congr_left fun run hrun => List.map_congr_left fun c hc => ?_
    exact if_pos ((of_mem_wordRuns hrun).2 c hc)
  rw [← hclean, fields, splitOnP_map, hblank, List.filter_map]
  have hempty : ((fun run => !run.isEmpty) ∘ List.map cleanChar) = fun run => !run.isEmpty := by
    funext run
    simp
  rw [hempty]
  rfl

/-! ## Joined words -/

/-- Fields on both sides of a blank. -/
theorem fields_append_cons (as bs : List Char) {c : Char} (h : isBlank c = true) :
    fields (as ++ c :: bs) = fields as ++ fields bs := by
  rw [fields, List.splitOnP_append_cons as bs h, List.filter_append]
  rfl

/-- A text without blanks is one field. -/
theorem fields_eq_singleton {word : List Char} (hsome : word ≠ [])
    (h : ∀ c ∈ word, isBlank c = false) : fields word = [word] := by
  rw [fields, List.splitOnP_eq_singleton h]
  simp [hsome]

/-- Words that are joined by blanks are split apart again. -/
theorem fields_joined {words : List (List Char)}
    (h : ∀ word ∈ words, word ≠ [] ∧ ∀ c ∈ word, isBlank c = false) :
    fields ([' '].intercalate words) = words := by
  induction words with
  | nil => rfl
  | cons word words ih =>
    obtain ⟨hsome, hword⟩ := h word List.mem_cons_self
    have hwords := ih fun word' hword' => h word' (List.mem_cons_of_mem _ hword')
    cases words with
    | nil => simpa using fields_eq_singleton hsome hword
    | cons next rest =>
      rw [List.intercalate_cons_cons, List.append_assoc, List.singleton_append,
        fields_append_cons _ _ rfl, fields_eq_singleton hsome hword, hwords]
      rfl

/-! ## Words of a normal form -/

/-- The first thousand alphanumeric runs of a text, with each character in lowercase. -/
def searchWords (text : String) : List String :=
  ((wordRuns text.toList).take 1000).map fun run => String.ofList (run.map lowerChar)

/-- The words of a search as lists of characters are not empty and without blanks. -/
theorem of_mem_map_searchWords {text : String} {word : List Char}
    (h : word ∈ (searchWords text).map String.toList) :
    word ≠ [] ∧ ∀ c ∈ word, isBlank c = false := by
  rw [searchWords, List.map_map] at h
  obtain ⟨run, hrun, rfl⟩ := List.mem_map.1 h
  obtain ⟨hsome, hletters⟩ := of_mem_wordRuns (List.mem_of_mem_take hrun)
  rw [Function.comp_apply, String.toList_ofList]
  refine ⟨by simpa using hsome, fun c hc => ?_⟩
  obtain ⟨d, hd, rfl⟩ := List.mem_map.1 hc
  exact isBlank_lowerChar (hletters d hd)

/-- The words that are kept in a normal form. -/
theorem keptWords_eq (text : String) : keptWords text = searchWords text := by
  rw [keptWords, fields_map_cleanChar, ← List.map_take, List.map_map]
  rfl

/-- A normal form has the words that were kept in it. -/
theorem wordsOf_normalize (text : String) : wordsOf (normalize text) = searchWords text := by
  have hfields : fields (normalize text).toList = (searchWords text).map String.toList := by
    rw [normalize, keptWords_eq, String.toList_intercalate]
    exact fields_joined fun word => of_mem_map_searchWords
  rw [wordsOf, hfields, List.map_map]
  simp

end Audience
