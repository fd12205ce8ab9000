import Audience.Proofs.JsonTokens
import Audience.Proofs.ShortestDecimal

/-! # Reading written numbers

Every finite number has a written form, and every written form is read as a finite number again. It
need not be the same number: digits are scaled by a power of ten that is rounded itself.

* **`Numeral.double?_eq`** — what a numeral whose digits fit denotes.
* **`Double.exists_numeral?`** — the written form of a number is spelled and read. -/

namespace Audience

/-! ## Digits -/

/-- The value of digits behind a number, with one of them taken first. -/
theorem value_cons_eq (v : Nat) (c : Char) (cs : List Char) :
    v * tenTo (c :: cs).length + digitsValue (c :: cs)
      = (v * 10 + digitValue c) * tenTo cs.length + digitsValue cs := by
  rw [digitsValue_cons, List.length_cons, tenTo_succ, Nat.add_mul, Nat.mul_assoc, Nat.mul_comm 10,
    Nat.add_assoc]

/-- A digit fits, if it fits together with further ones. -/
theorem not_limit_lt {v : Nat} {cs : List Char}
    (h : v * tenTo cs.length + digitsValue cs ≤ significandLimit) : ¬significandLimit < v := by
  have hle := Nat.le_mul_of_pos_right v (tenTo_pos cs.length)
  omega

namespace Significand

/-- Digits before the point are taken as long as they fit. -/
theorem foldl_takeWhole {v : Nat} {e : Int} {cs : List Char}
    (h : v * tenTo cs.length + digitsValue cs ≤ significandLimit) :
    cs.foldl takeWhole ⟨v, e, false⟩ = ⟨v * tenTo cs.length + digitsValue cs, e, false⟩ := by
  induction cs generalizing v with
  | nil => simp [digitsValue]
  | cons c cs ih =>
    rw [value_cons_eq] at h ⊢
    have hstep : takeWhole ⟨v, e, false⟩ c = ⟨v * 10 + digitValue c, e, false⟩ := by
      simp only [takeWhole, Bool.false_or, decide_eq_true_eq, if_neg (not_limit_lt h)]
    rw [List.foldl_cons, hstep, ih h]

/-- Digits after the point are taken as long as they fit; each one lowers the exponent. -/
theorem foldl_takeFraction {v : Nat} {e : Int} {cs : List Char}
    (h : v * tenTo cs.length + digitsValue cs ≤ significandLimit) :
    cs.foldl takeFraction ⟨v, e, false⟩
      = ⟨v * tenTo cs.length + digitsValue cs, e - cs.length, false⟩ := by
  induction cs generalizing v e with
  | nil => simp [digitsValue]
  | cons c cs ih =>
    rw [value_cons_eq] at h ⊢
    have hstep : takeFraction ⟨v, e, false⟩ c = ⟨v * 10 + digitValue c, e - 1, false⟩ := by
      simp only [takeFraction, Bool.false_or, decide_eq_true_eq, if_neg (not_limit_lt h)]
    have hexponent : e - 1 - cs.length = e - (c :: cs).length := by
      rw [List.length_cons]
      omega
    rw [List.foldl_cons, hstep, ih h, hexponent]

end Significand

/-- A numeral whose digits fit denotes all of them, scaled by the place of the point. -/
theorem Numeral.double?_eq {n : Numeral}
    (h : digitsValue (n.whole ++ n.fraction) ≤ significandLimit) :
    n.double? = (Significand.toDouble
        ⟨digitsValue (n.whole ++ n.fraction), -n.fraction.length, false⟩ n.exponent).map
      (fun x => if n.negative then x.neg else x) := by
  -- the digits before the point fit, since they fit with those after it
  rw [digitsValue_append] at h
  have hwhole : 0 * tenTo n.whole.length + digitsValue n.whole ≤ significandLimit := by
    have hle := Nat.le_mul_of_pos_right (digitsValue n.whole) (tenTo_pos n.fraction.length)
    omega
  simp only [double?, Significand.foldl_takeWhole hwhole, Nat.zero_mul, Nat.zero_add,
    Significand.foldl_takeFraction h, Int.zero_sub, digitsValue_append]

/-! ## Decimals -/

/-- A positive number does not start with the digit zero. -/
theorem natDigits_of_pos {n : Nat} (hn : 0 < n) : ∃ c cs, natDigits n = c :: cs ∧ c ≠ '0' := by
  rcases natDigits_cases n with h | h
  · have hzero : n = 0 := by
      rw [← digitsValue_natDigits n, h]
      rfl
    omega
  · exact h

/-- The digits of an exponent. -/
theorem digitsValue_exponentDigits (n : Nat) : digitsValue (exponentDigits n) = n := by
  rw [exponentDigits]
  split
  · rw [digitsValue_cons, digitsValue_natDigits]
    show 0 * _ + n = n
    omega
  · exact digitsValue_natDigits n

/-- An exponent is written in digits. -/
theorem exponentDigits_spelled (n : Nat) :
    exponentDigits n ≠ [] ∧ ∀ c ∈ exponentDigits n, c.isDigit = true := by
  rw [exponentDigits]
  split
  · refine ⟨List.cons_ne_nil _ _, ?_⟩
    intro c hc
    rcases List.mem_cons.1 hc with rfl | hc
    · decide
    · exact isDigit_of_mem_natDigits hc
  · exact ⟨Nat.toDigits_ne_nil, fun c hc => isDigit_of_mem_natDigits hc⟩

/-- Zeros are digits. -/
theorem isDigit_of_mem_zeros {c : Char} {k : Nat} (h : c ∈ List.replicate k '0') :
    c.isDigit = true := by
  rw [(List.mem_replicate.1 h).2]
  decide

/-- The numeral of a positive decimal is spelled. -/
theorem isSpelled_decimalNumeral (negative : Bool) {n : Nat} (hn : 0 < n) (e : Int) :
    (decimalNumeral negative n e).IsSpelled := by
  obtain ⟨c, cs, hdigits, hc⟩ := natDigits_of_pos hn
  have hall : ∀ d ∈ natDigits n, d.isDigit = true := fun _ hd => isDigit_of_mem_natDigits hd
  have hzeros (k : Nat) : ∀ d ∈ List.replicate k '0', d.isDigit = true :=
    fun _ hd => isDigit_of_mem_zeros hd
  simp only [decimalNumeral]
  split
  · refine ⟨.inr ⟨c, cs ++ List.replicate e.toNat '0', ?_, hc⟩, ?_, hzeros 1, by simp⟩
    · rw [hdigits, List.cons_append]
    · intro d hd
      exact (List.mem_append.1 hd).elim (hall d) (hzeros _ d)
  split
  next hpoint =>
    obtain ⟨k, hk⟩ : ∃ k, ((natDigits n).length + e).toNat = k + 1 :=
      ⟨((natDigits n).length + e).toNat - 1, by omega⟩
    refine ⟨.inr ⟨c, cs.take k, ?_, hc⟩, ?_, ?_, by simp⟩
    · rw [hk, hdigits, List.take_succ_cons]
    · exact fun d hd => hall d (List.mem_of_mem_take hd)
    · exact fun d hd => hall d (List.mem_of_mem_drop hd)
  split
  · refine ⟨.inl rfl, hzeros 1, ?_, by simp⟩
    intro d hd
    exact (List.mem_append.1 hd).elim (hzeros _ d) (hall d)
  · refine ⟨.inr ⟨c, [], ?_, hc⟩, ?_, ?_, ?_⟩
    · rw [hdigits]
      rfl
    · exact fun d hd => hall d (List.mem_of_mem_take hd)
    · exact fun d hd => hall d (List.mem_of_mem_drop hd)
    · intro x hx
      cases hx
      exact exponentDigits_spelled _

/-- A decimal with a negative exponent denotes something. -/
theorem exists_scaled_of_neg (m : Nat) {e : Int} (he : e < 0) : ∃ x, scaled m e = some x := by
  simp only [scaled, if_pos he]
  exact ⟨_, rfl⟩

/-- A numeral without an exponent is read, if it has digits after the point and they all fit. -/
theorem Numeral.exists_double?_positional (negative : Bool) {whole fraction : List Char}
    (hvalue : digitsValue (whole ++ fraction) ≤ significandLimit) (hfraction : fraction ≠ []) :
    ∃ x, (⟨negative, whole, fraction, none⟩ : Numeral).double? = some x := by
  have hpos := List.length_pos_iff.2 hfraction
  obtain ⟨x, hx⟩ := exists_scaled_of_neg (digitsValue (whole ++ fraction))
    (e := -fraction.length) (by omega)
  rw [double?_eq hvalue, Significand.toDouble, hx]
  exact ⟨_, rfl⟩

/-- A whole number is read: at most sixteen digits, and a zero behind the point. -/
theorem exists_double?_whole (negative : Bool) {n : Nat} {e : Int} (he : 0 ≤ e)
    (hplaces : (natDigits n).length + e ≤ positionalDigits) :
    ∃ x, (⟨negative, natDigits n ++ List.replicate e.toNat '0', ['0'], none⟩ : Numeral).double?
      = some x := by
  refine Numeral.exists_double?_positional _ ?_ (by simp)
  have hall : ∀ c ∈ natDigits n ++ List.replicate e.toNat '0' ++ ['0'], c.isDigit = true := by
    intro c hc
    rw [List.mem_append, List.mem_append] at hc
    rcases hc with (hc | hc) | hc
    · exact isDigit_of_mem_natDigits hc
    · exact isDigit_of_mem_zeros hc
    · exact isDigit_of_mem_zeros (k := 1) hc
  have hlt := digitsValue_lt hall
  have hmono : tenTo (natDigits n ++ List.replicate e.toNat '0' ++ ['0']).length ≤ tenTo 17 := by
    rw [positionalDigits] at hplaces
    refine tenTo_mono ?_
    rw [List.length_append, List.length_append, List.length_replicate, List.length_singleton]
    omega
  have hfits : tenTo 17 ≤ significandLimit := by decide
  omega

/-- A number with the point between its digits is read. -/
theorem exists_double?_point (negative : Bool) {n k : Nat} (hn : n ≤ significandLimit)
    (hk : k < (natDigits n).length) :
    ∃ x, (⟨negative, (natDigits n).take k, (natDigits n).drop k, none⟩ : Numeral).double?
      = some x := by
  refine Numeral.exists_double?_positional _ ?_ ?_
  · rwa [List.take_append_drop, digitsValue_natDigits]
  · intro hnil
    exact absurd (List.drop_eq_nil_iff.1 hnil) (Nat.not_le_of_lt hk)

/-- A number with zeros between the point and its digits is read. -/
theorem exists_double?_zeros (negative : Bool) {n : Nat} (hn : n ≤ significandLimit) (k : Nat) :
    ∃ x, (⟨negative, ['0'], List.replicate k '0' ++ natDigits n, none⟩ : Numeral).double?
      = some x := by
  refine Numeral.exists_double?_positional _ ?_ ?_
  · rw [← List.append_assoc]
    show digitsValue (List.replicate (k + 1) '0' ++ natDigits n) ≤ _
    rwa [digitsValue_zeros_append, digitsValue_natDigits]
  · exact List.append_ne_nil_of_right_ne_nil _ Nat.toDigits_ne_nil

/-- A number with an exponent is read, if the decimal denotes something: the exponent makes up for
the place of the point. -/
theorem exists_double?_exponent (negative : Bool) {n : Nat} {e : Int} (hn : n ≤ significandLimit)
    (hshort : ((natDigits n).length + e - 1).natAbs ≤ exponentLimit)
    (hscaled : ∃ x, scaled n e = some x) :
    ∃ x, (⟨negative, (natDigits n).take 1, (natDigits n).drop 1,
      some (decide ((natDigits n).length + e - 1 < 0),
        exponentDigits ((natDigits n).length + e - 1).natAbs)⟩ : Numeral).double? = some x := by
  obtain ⟨x, hx⟩ := hscaled
  have hpos : 0 < (natDigits n).length := Dyadic.digitCount_pos n
  rw [Numeral.double?_eq (by rwa [List.take_append_drop, digitsValue_natDigits])]
  simp only [List.take_append_drop, digitsValue_natDigits, Significand.toDouble,
    digitsValue_exponentDigits, List.length_drop, decide_eq_true_eq]
  rw [if_neg (Nat.not_lt_of_le hshort)]
  have hexponent : (if ((natDigits n).length : Int) + e - 1 < 0 then
      -(((natDigits n).length - 1 : Nat) : Int) - ((natDigits n).length + e - 1).natAbs
      else -(((natDigits n).length - 1 : Nat) : Int) + ((natDigits n).length + e - 1).natAbs)
      = e := by
    split
    · omega
    · omega
  rw [hexponent, hx]
  exact ⟨_, rfl⟩

/-- The numeral of a decimal is read, if the decimal denotes something. -/
theorem exists_double?_decimalNumeral (negative : Bool) {n : Nat} {e : Int} (hn : n ≤ tenTo 17)
    (he : -400 < e) (he' : e < 400) (hscaled : ∃ x, scaled n e = some x) :
    ∃ x, (decimalNumeral negative n e).double? = some x := by
  have hlimit : n ≤ significandLimit := Nat.le_trans hn (by decide)
  simp only [decimalNumeral]
  split
  next hwhole => exact exists_double?_whole negative hwhole.1 hwhole.2
  split
  next hpoint => exact exists_double?_point negative hlimit (by omega)
  split
  next => exact exists_double?_zeros negative hlimit _
  next =>
    have hlength : (natDigits n).length ≤ 18 :=
      length_natDigits_le (by decide) (Nat.lt_of_le_of_lt hn (by decide))
    refine exists_double?_exponent negative hlimit ?_ hscaled
    rw [exponentLimit]
    omega

/-! ## Numbers -/

/-- The shortest decimal of a number denotes something. -/
theorem Dyadic.IsDouble.exists_scaled {d : Dyadic} (h : d.IsDouble) :
    ∃ n e, d.shortest = (n, e) ∧ 0 < n ∧ n ≤ tenTo 17 ∧ -400 < e ∧ e < 400 ∧
      ∃ x, scaled n e = some x := by
  by_cases hgreatest : d.q = 971 ∧ d.m = 0x1FFFFFFFFFFFFF
  · -- the greatest number is written so that its digits stay below it
    have hd : d = ⟨0x1FFFFFFFFFFFFF, 971, false⟩ := by
      obtain ⟨m, q, lowest⟩ := d
      obtain ⟨rfl, rfl⟩ := hgreatest
      cases lowest with
      | false => rfl
      | true => cases h.lowest rfl
    have hshortest : shortest ⟨0x1FFFFFFFFFFFFF, 971, false⟩ = (17976931348623157, 292) := by
      decide +kernel
    have hscaled : (scaled 17976931348623157 292).isSome = true := by decide +kernel
    rw [hd]
    exact ⟨_, _, hshortest, by decide, by decide, by decide, by decide,
      Option.isSome_iff_exists.1 hscaled⟩
  · obtain ⟨n, e, hshortest, hpos, hle, hgt, hupper⟩ := h.shortest_spec
    by_cases he : e < 0
    · exact ⟨n, e, hshortest, hpos, hle, hgt, by omega, exists_scaled_of_neg n he⟩
    · have hbelow : d.q = 971 → d.m < 0x1FFFFFFFFFFFFF := by
        intro hq
        have hlt := h.m_lt
        omega
      have hlimit : n * tenTo e.toNat ≤ Double.decimalLimit :=
        Nat.le_trans (hupper (by omega)) (h.upper_le hbelow)
      -- a greater power would be beyond the limit on its own
      have hpower : e.toNat ≤ powerLimit := by
        refine Nat.le_of_not_lt fun hlt => ?_
        have hgreat : tenTo 309 ≤ n * tenTo e.toNat :=
          Nat.le_trans (tenTo_mono hlt) (Nat.le_mul_of_pos_left _ hpos)
        have hsmall : Double.decimalLimit < tenTo 309 := by decide +kernel
        omega
      have hfinite := Double.isFinite_mul_powerOfTen hpos hle hpower hlimit
      refine ⟨n, e, hshortest, hpos, hle, hgt, ?_, ?_⟩
      · rw [powerLimit] at hpower
        omega
      · simp only [scaled, if_neg he, if_pos hpower, if_pos hfinite]
        exact ⟨_, rfl⟩

/-- The written form of a number is spelled, and it is read as a number. -/
theorem Double.exists_numeral? {x : Double} (h : x.isFinite = true) :
    ∃ n y, x.numeral? = some n ∧ n.IsSpelled ∧ n.double? = some y ∧ y.isFinite = true := by
  have hnumeral : ∃ n, x.numeral? = some n ∧ n.IsSpelled ∧ ∃ y, n.double? = some y := by
    rw [numeral?, if_neg (by simp [h])]
    by_cases hzero : x.magnitude = 0
    · rw [if_pos hzero]
      have hzeros : ∀ c ∈ List.replicate 1 '0', c.isDigit = true :=
        fun _ hc => isDigit_of_mem_zeros hc
      refine ⟨_, rfl, ⟨.inl rfl, hzeros, hzeros, by simp⟩, ?_⟩
      exact Numeral.exists_double?_positional _ (by decide) (by decide)
    · rw [if_neg hzero]
      obtain ⟨n, e, hshortest, hpos, hle, hgt, hlt, hscaled⟩ :=
        (Dyadic.isDouble_ofBits h hzero).exists_scaled
      refine ⟨_, rfl, ?_⟩
      rw [hshortest]
      exact ⟨isSpelled_decimalNumeral _ hpos e,
        exists_double?_decimalNumeral _ hle hgt hlt hscaled⟩
  obtain ⟨n, hn, hspelled, y, hy⟩ := hnumeral
  exact ⟨n, y, hn, hspelled, hy, Numeral.isFinite_of_double? hy⟩

end Audience
