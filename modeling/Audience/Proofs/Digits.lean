import Audience.Time.Stamp

/-! # Decimal digits

A number can be read back from its digits, also when zeros stand before them.

* **`digitsValue_natDigits`**, **`digitsValue_padded`** — the value of the written digits.
* **`digitsValue_cons`**, **`digitsValue_append`**, **`digitsValue_lt`** — the value digit by digit.
* **`length_padded`** — numbers below a power of ten have a fixed width.
* **`natDigits_cases`** — no number but zero starts with the digit zero. -/

namespace Audience

/-- `digitsValue cs = Nat.ofDigitChars 10 cs 0`: the value of digits is the one that the standard
library gives them. -/
theorem digitsValue_eq_ofDigitChars (cs : List Char) :
    digitsValue cs = Nat.ofDigitChars 10 cs 0 := by
  have hstep : (fun (n : Nat) (c : Char) => n * 10 + digitValue c)
      = fun n c => 10 * n + (c.toNat - '0'.toNat) := by
    funext n c
    rw [Nat.mul_comm]
    rfl
  rw [digitsValue, hstep, Nat.ofDigitChars_eq_foldl]

/-- The digits of a number have its value. -/
@[simp] theorem digitsValue_natDigits (n : Nat) : digitsValue (natDigits n) = n := by
  rw [digitsValue_eq_ofDigitChars, natDigits, Nat.ofDigitChars_ten_toDigits]

/-- The value of digits with one more digit before them. -/
theorem digitsValue_cons (c : Char) (cs : List Char) :
    digitsValue (c :: cs) = digitValue c * tenTo cs.length + digitsValue cs := by
  have hfold : ∀ (cs : List Char) (n : Nat), cs.foldl (fun n c => n * 10 + digitValue c) n
      = n * tenTo cs.length + digitsValue cs := by
    intro cs
    induction cs with
    | nil =>
      intro n
      rw [List.foldl_nil, List.length_nil, tenTo_zero, Nat.mul_one]
      rfl
    | cons c cs ih =>
      intro n
      rw [digitsValue, List.foldl_cons, List.foldl_cons, ih, ih, List.length_cons, tenTo_succ,
        Nat.zero_mul, Nat.zero_add, Nat.add_mul, Nat.mul_assoc, Nat.mul_comm 10, Nat.add_assoc]
  rw [digitsValue, List.foldl_cons, hfold, Nat.zero_mul, Nat.zero_add]

/-- The value of digits behind other digits. -/
theorem digitsValue_append (cs ds : List Char) :
    digitsValue (cs ++ ds) = digitsValue cs * tenTo ds.length + digitsValue ds := by
  rw [digitsValue_eq_ofDigitChars, digitsValue_eq_ofDigitChars, digitsValue_eq_ofDigitChars,
    Nat.ofDigitChars_append, Nat.ofDigitChars_eq_ofDigitChars_zero, Nat.mul_comm]
  rfl

/-- The value of a digit is below ten. -/
theorem digitValue_lt {c : Char} (h : c.isDigit = true) : digitValue c < 10 := by
  obtain ⟨hlo, hhi⟩ := Char.isDigit_iff_toNat.1 h
  simp only [Char.reduceToNat] at hlo hhi
  rw [digitValue]
  omega

/-- Characters are ordered like the values of digits. -/
theorem lt_of_digitValue_lt {c d : Char} (h : digitValue c < digitValue d) : c < d := by
  rw [digitValue, digitValue] at h
  exact Char.lt_def.2 (UInt32.lt_iff_toNat_lt.2 (show c.toNat < d.toNat by omega))

/-- A digit is determined by its value. -/
theorem eq_of_digitValue_eq {c d : Char} (hc : c.isDigit = true) (hd : d.isDigit = true)
    (h : digitValue c = digitValue d) : c = d := by
  obtain ⟨hlo, _⟩ := Char.isDigit_iff_toNat.1 hc
  obtain ⟨hlo', _⟩ := Char.isDigit_iff_toNat.1 hd
  simp only [Char.reduceToNat] at hlo hlo'
  rw [digitValue, digitValue] at h
  exact Char.toNat_inj.1 (by omega)

/-- As many digits have a value below the power of ten. -/
theorem digitsValue_lt {cs : List Char} (h : ∀ c ∈ cs, c.isDigit = true) :
    digitsValue cs < tenTo cs.length := by
  induction cs with
  | nil => decide
  | cons c cs ih =>
    have hc := digitValue_lt (h c List.mem_cons_self)
    have hcs := ih fun d hd => h d (List.mem_cons_of_mem _ hd)
    have hmul : digitValue c * tenTo cs.length ≤ 9 * tenTo cs.length :=
      Nat.mul_le_mul_right _ (by omega)
    rw [digitsValue_cons, List.length_cons, tenTo_succ]
    omega

/-- A number is written in decimal digits only. -/
theorem isDigit_of_mem_natDigits {c : Char} {n : Nat} (h : c ∈ natDigits n) : c.isDigit = true :=
  Nat.isDigit_of_mem_toDigits (by decide) (by decide) h

/-- A number below the `k`-th power of ten has at most `k` digits. -/
theorem length_natDigits_le {n k : Nat} (hk : 0 < k) (h : n < tenTo k) :
    (natDigits n).length ≤ k :=
  (Nat.length_toDigits_le_iff (by decide) hk).2 h

/-- Zeros before digits do not change the value. -/
theorem digitsValue_zeros_append (k : Nat) (cs : List Char) :
    digitsValue (List.replicate k '0' ++ cs) = digitsValue cs := by
  rw [digitsValue_eq_ofDigitChars, Nat.ofDigitChars_append, Nat.ofDigitChars_replicate_zero,
    Nat.mul_zero, ← digitsValue_eq_ofDigitChars]

/-- Padding does not change the value. -/
@[simp] theorem digitsValue_padded (width n : Nat) : digitsValue (padded width n) = n := by
  rw [padded, digitsValue_zeros_append, digitsValue_natDigits]

/-- A padded number is written in decimal digits only. -/
theorem isDigit_of_mem_padded {c : Char} {width n : Nat} (h : c ∈ padded width n) :
    c.isDigit = true := by
  rcases List.mem_append.1 h with h | h
  · rw [(List.mem_replicate.1 h).2]
    decide
  · exact isDigit_of_mem_natDigits h

/-- A number that fits into its width is as wide as that. -/
theorem length_padded {width n : Nat} (hw : 0 < width) (h : n < tenTo width) :
    (padded width n).length = width := by
  have hle := length_natDigits_le hw h
  rw [padded, List.length_append, List.length_replicate]
  omega

/-- A padded number has at least one digit. -/
theorem padded_ne_nil (width n : Nat) : padded width n ≠ [] := by
  intro h
  exact Nat.toDigits_ne_nil (List.append_eq_nil_iff.1 h).2

/-- The digits of a number start with the digit zero for zero only. -/
theorem natDigits_cases (n : Nat) :
    natDigits n = ['0'] ∨ ∃ c cs, natDigits n = c :: cs ∧ c ≠ '0' := by
  induction n using Nat.strongRecOn with
  | ind n ih =>
    by_cases hlt : n < 10
    · rw [natDigits, Nat.toDigits_of_lt_base hlt]
      have hdigit : ∀ k < 10, k.digitChar = '0' ∨ k.digitChar ≠ '0' ∧ k ≠ 0 := by decide
      rcases hdigit n hlt with h | h
      · exact .inl (by rw [h])
      · exact .inr ⟨_, _, rfl, h.1⟩
    · -- the leading digits are those of `n / 10`, which is positive
      rw [natDigits, Nat.toDigits_of_base_le (by decide) (Nat.le_of_not_lt hlt)]
      right
      rcases ih (n / 10) (by omega) with h | ⟨c, cs, h, hc⟩
      · have hzero : n / 10 = 0 := by
          rw [← digitsValue_natDigits (n / 10), h]
          rfl
        omega
      · rw [natDigits] at h
        exact ⟨c, _, by rw [h, List.cons_append], hc⟩

end Audience
