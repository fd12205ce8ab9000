import Audience.Text.Alphanumeric
import Audience.Text.Lowercase

/-! # Settled characters

A settled character is alphanumeric and its own lowercase form. The lowercase form of every
alphanumeric character is settled, whatever table it comes from, so lowercase is taken only once.
The lowercase form of a word is settled but for the combining dots of its dotted capital I.

* **`IsSettled c`** — the class.
* **`isSettled_lowerChar`** — the first character of a lowercase form is settled.
* **`lowercaseFrom_of_isSettled`** — a word of settled characters is its own lowercase form.
* **`IsLowered word form`**, **`isLowered_lowercaseFrom`** — what a lowercase form is made of. -/

namespace Audience

/-- Whether a character is alphanumeric and its own lowercase form. -/
def IsSettled (c : Char) : Prop := isAlphanumeric c = true ∧ lowerChar c = c

instance (c : Char) : Decidable (IsSettled c) := inferInstanceAs (Decidable (_ ∧ _))

/-! ## Tables

The checks below are made of comparisons that the kernel carries out on numbers, so that a whole
table can be decided. -/

/-- What holds of the first 128 characters holds of all of ASCII. -/
theorem forall_ascii {p : Char → Prop} (h : ∀ n : Fin 128, p (Char.ofNat n)) (c : Char)
    (hascii : c.toNat < 0x80) : p c := by
  have hc := h ⟨c.toNat, hascii⟩
  rwa [Char.ofNat_toNat] at hc

/-- Whether one interval of an ascending table holds the code points from `lo` to `hi`. -/
def holdsSpan (lo hi : Nat) : List (Nat × Nat) → Bool
  | [] => false
  | (first, last) :: rest =>
    Nat.ble first lo && (Nat.blt last lo && holdsSpan lo hi rest || Nat.ble hi last)

/-- The code points of a span that a table holds are found in it. -/
theorem inRanges_of_holdsSpan {lo hi n : Nat} {table : List (Nat × Nat)}
    (h : holdsSpan lo hi table = true) (hlo : lo ≤ n) (hhi : n ≤ hi) :
    inRanges table n = true := by
  induction table with
  | nil => exact absurd h Bool.false_ne_true
  | cons r rest ih =>
    obtain ⟨first, last⟩ := r
    simp only [holdsSpan, Bool.and_eq_true, Bool.or_eq_true, Nat.ble_eq, Nat.blt_eq] at h
    obtain ⟨hfirst, ⟨hpast, hrest⟩ | hhere⟩ := h
    · rw [inRanges_cons, if_neg (by omega), if_neg (by omega), ih hrest]
    · rw [inRanges_cons, if_neg (by omega), if_pos (by omega)]

namespace CaseRow

/-- A row of lowercase forms maps a code point, or no row does. -/
theorem map_cases (rows : List CaseRow) (n : Nat) : map rows n = n ∨
    ∃ r ∈ rows, r.first ≤ n ∧ n ≤ r.last ∧ (n - r.first) % r.step = 0 ∧
      map rows n = r.target + (n - r.first) := by
  induction rows with
  | nil => exact .inl rfl
  | cons r rows ih =>
    rw [map]
    split
    next => exact .inl rfl
    next hfirst =>
      split
      next hlast => exact .inr ⟨r, List.mem_cons_self, by omega, hlast.1, hlast.2, rfl⟩
      next =>
        rcases ih with ih | ⟨r', hr', hrest⟩
        · exact .inl ih
        · exact .inr ⟨r', List.mem_cons_of_mem _ hr', hrest⟩

/-- The last of the lowercase forms of a row. -/
def lastTarget (r : CaseRow) : Nat := r.target + (r.last - r.first)

/-- Whether a row ends before the lowercase forms of another one, or goes in steps of two between
them. -/
def misses (r s : CaseRow) : Bool :=
  Nat.blt s.last r.target || (s.step == 2 && (r.step == 2 || r.last == r.first) &&
    r.target % 2 != s.first % 2)

/-- Whether no row of an ascending table maps a lowercase form of a row. -/
def isFixedBy (r : CaseRow) : List CaseRow → Bool
  | [] => true
  | s :: rest => Nat.blt r.lastTarget s.first || r.misses s && r.isFixedBy rest

/-- A row that misses the lowercase forms of another one does not map them. -/
theorem not_covers_of_misses {r s : CaseRow} (h : r.misses s = true) {k : Nat}
    (hk : k ≤ r.last - r.first) (hstep : k % r.step = 0) (hfirst : s.first ≤ r.target + k) :
    ¬(r.target + k ≤ s.last ∧ (r.target + k - s.first) % s.step = 0) := by
  rintro ⟨hlast, hcovers⟩
  simp only [misses, Bool.or_eq_true, Bool.and_eq_true, Nat.blt_eq, beq_iff_eq, bne_iff_ne] at h
  rcases h with hends | ⟨⟨hs, hr⟩, hparity⟩
  · omega
  · have heven : k % 2 = 0 := by
      rcases hr with hr | hr
      · rwa [hr] at hstep
      · have hzero : k = 0 := by omega
        rw [hzero]
    rw [hs] at hcovers
    omega

/-- Lowercase forms that a table fixes are not mapped again. -/
theorem map_of_isFixedBy {r : CaseRow} {rows : List CaseRow} (h : r.isFixedBy rows = true)
    {k : Nat} (hk : k ≤ r.last - r.first) (hstep : k % r.step = 0) :
    map rows (r.target + k) = r.target + k := by
  induction rows with
  | nil => rfl
  | cons s rest ih =>
    rw [isFixedBy, Bool.or_eq_true, Bool.and_eq_true, Nat.blt_eq, lastTarget] at h
    rw [map]
    rcases h with hbefore | ⟨hmisses, hrest⟩
    · rw [if_pos (by omega)]
    · split
      next => rfl
      next hfirst =>
        rw [if_neg (not_covers_of_misses hmisses hk hstep (Nat.not_lt.1 hfirst)), ih hrest]

end CaseRow

/-- No row maps the lowercase form of a row. -/
theorem isFixedBy_lowercaseRows : ∀ r ∈ lowercaseRows, r.isFixedBy lowercaseRows = true := by
  decide +kernel

/-- The lowercase forms of a row are in one alphanumeric range; the Kelvin sign alone has one in
ASCII. -/
theorem targets_alphanumeric : ∀ r ∈ lowercaseRows, (r.target = 0x6B ∧ r.lastTarget = 0x6B) ∨
    0x80 ≤ r.target ∧ holdsSpan r.target r.lastTarget alphanumericRanges = true := by
  decide +kernel

/-- The lowercase forms of a row are code points of characters, and none is the dotted capital I. -/
theorem targets_plain : ∀ r ∈ lowercaseRows,
    r.lastTarget < 0x130 ∨ 0x130 < r.target ∧ r.lastTarget < 0xD800 ∨
      0xE000 ≤ r.target ∧ r.lastTarget < 0x110000 := by
  decide +kernel

/-! ## Lowercase forms of characters -/

/-- The lowercase forms of ASCII letters and digits are settled. -/
theorem isSettled_toLower_ascii : ∀ c : Char, c.toNat < 0x80 → c.isAlphanum = true →
    IsSettled c.toLower :=
  forall_ascii (by decide +kernel)

/-- The lowercase forms of a row are settled. -/
theorem isSettled_target {r : CaseRow} (hr : r ∈ lowercaseRows) {k : Nat}
    (hk : k ≤ r.last - r.first) (hstep : k % r.step = 0) :
    IsSettled (Char.ofNat (r.target + k)) := by
  have hlast : r.target + k ≤ r.lastTarget := Nat.add_le_add_left hk _
  rcases targets_alphanumeric r hr with ⟨htarget, hone⟩ | ⟨hbeyond, hspan⟩
  · have hcode : r.target + k = 0x6B := by omega
    rw [hcode]
    decide
  · have hplain := targets_plain r hr
    have hvalid : (r.target + k).isValidChar := by
      rw [Nat.isValidChar]
      omega
    have hcode : (Char.ofNat (r.target + k)).toNat = r.target + k := by
      rw [Char.ofNat, dif_pos hvalid]
      rfl
    constructor
    · rw [isAlphanumeric, hcode, if_neg (by omega)]
      exact inRanges_of_holdsSpan hspan (Nat.le_add_right _ _) hlast
    · have hdotted : Char.ofNat (r.target + k) ≠ dottedCapitalI := by
        intro h
        have hdot : r.target + k = 0x130 := by
          rw [← hcode, h]
          rfl
        omega
      rw [lowerChar, hcode, if_neg (by omega), if_neg hdotted,
        CaseRow.map_of_isFixedBy (isFixedBy_lowercaseRows r hr) hk hstep]

/-- The lowercase form of an alphanumeric character is settled. -/
theorem isSettled_lowerChar {c : Char} (h : isAlphanumeric c = true) : IsSettled (lowerChar c) := by
  by_cases hascii : c.toNat < 0x80
  · rw [isAlphanumeric_ascii hascii] at h
    rw [lowerChar, if_pos hascii]
    exact isSettled_toLower_ascii c hascii h
  · by_cases hdotted : c = dottedCapitalI
    · rw [hdotted]
      decide
    · have hmap : lowerChar c = Char.ofNat (CaseRow.map lowercaseRows c.toNat) := by
        rw [lowerChar, if_neg hascii, if_neg hdotted]
      rcases CaseRow.map_cases lowercaseRows c.toNat with
        hsame | ⟨r, hr, hfirst, hlast, hstep, hrow⟩
      · -- no row maps the character, so it is its own lowercase form
        have hfixed : lowerChar c = c := by rw [hmap, hsame, Char.ofNat_toNat]
        exact hfixed.symm ▸ ⟨h, hfixed⟩
      · rw [hmap, hrow]
        exact isSettled_target hr (by omega) hstep

/-- The combining dot is not alphanumeric, so it is not settled. -/
@[simp] theorem isAlphanumeric_combiningDot : isAlphanumeric combiningDot = false := by decide

/-! ## Lowercase forms of words -/

/-- The lowercase form of a character in a word, given the characters before it, nearest first, and
those after it. -/
def formIn (before : List Char) (c : Char) (after : List Char) : List Char :=
  if c = capitalSigma then
    if startsCased before && !startsCased after then [finalSigma] else [innerSigma]
  else lowerChars c

/-- In every context a settled character is its own lowercase form. -/
theorem IsSettled.formIn_eq {c : Char} (h : IsSettled c) (before after : List Char) :
    formIn before c after = [c] := by
  have hsigma : c ≠ capitalSigma := by
    rintro rfl
    exact absurd h (by decide)
  have hdotted : c ≠ dottedCapitalI := by
    rintro rfl
    exact absurd h (by decide)
  rw [formIn, if_neg hsigma, lowerChars, if_neg hdotted, h.2]

/-- In every context the form of an alphanumeric character is one settled character, the dotted
capital I apart. -/
theorem formIn_cases {c : Char} (h : isAlphanumeric c = true) (before after : List Char) :
    (c = dottedCapitalI ∧ formIn before c after = ['i', combiningDot]) ∨
      c ≠ dottedCapitalI ∧ ∃ d, IsSettled d ∧ formIn before c after = [d] := by
  by_cases hdotted : c = dottedCapitalI
  · subst hdotted
    exact .inl ⟨rfl, rfl⟩
  · refine .inr ⟨hdotted, ?_⟩
    by_cases hsigma : c = capitalSigma
    · rw [formIn, if_pos hsigma]
      split
      next => exact ⟨finalSigma, by decide, rfl⟩
      next => exact ⟨innerSigma, by decide, rfl⟩
    · rw [formIn, if_neg hsigma, lowerChars, if_neg hdotted]
      exact ⟨lowerChar c, isSettled_lowerChar h, rfl⟩

/-- What has been made of a word already stays in front. -/
theorem lowercaseFrom_eq (before word made : List Char) :
    lowercaseFrom before word made = made.reverse ++ lowercaseFrom before word [] := by
  induction word generalizing before made with
  | nil => simp [lowercaseFrom]
  | cons c rest ih =>
    rw [lowercaseFrom, lowercaseFrom, ih, ih (c :: before) (_ ++ [])]
    simp

/-- The lowercase form of a word is that of its first character and that of the others. -/
theorem lowercaseFrom_cons (before : List Char) (c : Char) (rest : List Char) :
    lowercaseFrom before (c :: rest) [] =
      formIn before c rest ++ lowercaseFrom (c :: before) rest [] := by
  rw [lowercaseFrom, lowercaseFrom_eq, formIn]
  simp

/-- A word of settled characters is its own lowercase form, whatever is before it. -/
theorem lowercaseFrom_of_isSettled {word : List Char} (h : ∀ c ∈ word, IsSettled c)
    (before : List Char) : lowercaseFrom before word [] = word := by
  induction word generalizing before with
  | nil => rfl
  | cons c rest ih =>
    obtain ⟨hc, hrest⟩ := List.forall_mem_cons.1 h
    rw [lowercaseFrom_cons, hc.formIn_eq, ih hrest]
    rfl

/-- What the lowercase form of a word is made of: settled characters, and combining dots if the
word has a dotted capital I. -/
structure IsLowered (word form : List Char) : Prop where
  settled : ∀ c ∈ form, IsSettled c ∨ c = combiningDot
  dot_iff : combiningDot ∈ form ↔ dottedCapitalI ∈ word
  eq_nil_iff : form = [] ↔ word = []

/-- The empty word. -/
theorem IsLowered.nil : IsLowered [] [] := by
  constructor
  case settled => exact fun c hc => absurd hc List.not_mem_nil
  case dot_iff => simp
  case eq_nil_iff => simp

/-- Words of alphanumeric characters are lowered character by character. -/
theorem IsLowered.cons {c : Char} {word form : List Char} (hc : isAlphanumeric c = true)
    (h : IsLowered word form) (before : List Char) :
    IsLowered (c :: word) (formIn before c word ++ form) := by
  rcases formIn_cases hc before word with ⟨hdotted, hform⟩ | ⟨hdotted, d, hd, hform⟩
  · rw [hform, hdotted]
    constructor
    case settled =>
      intro e he
      simp only [List.cons_append, List.nil_append, List.mem_cons] at he
      rcases he with rfl | rfl | he
      · exact .inl (by decide)
      · exact .inr rfl
      · exact h.settled e he
    case dot_iff => simp
    case eq_nil_iff => simp
  · rw [hform]
    constructor
    case settled =>
      intro e he
      rcases List.mem_cons.1 he with rfl | he
      · exact .inl hd
      · exact h.settled e he
    case dot_iff =>
      have hne : combiningDot ≠ d := by
        rintro rfl
        exact absurd hd (by decide)
      simp [hne, hdotted.symm, h.dot_iff]
    case eq_nil_iff => simp

/-- The lowercase form of a word of alphanumeric characters, whatever is before it. -/
theorem isLowered_lowercaseFrom {word : List Char} (h : ∀ c ∈ word, isAlphanumeric c = true)
    (before : List Char) : IsLowered word (lowercaseFrom before word []) := by
  induction word generalizing before with
  | nil => exact .nil
  | cons c rest ih =>
    obtain ⟨hc, hrest⟩ := List.forall_mem_cons.1 h
    rw [lowercaseFrom_cons]
    exact (ih hrest _).cons hc before

end Audience
