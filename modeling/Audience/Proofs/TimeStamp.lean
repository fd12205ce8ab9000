import Audience.Proofs.Calendar
import Audience.Proofs.Digits

/-! # Reading time stamps back

The relaxed reader gives back every instant from its time stamp. Each part of a stamp is digits that
no digit follows, so each reader stops where the writer did.

* **`Instant.IsPlain t`** — an instant of the calendar outside of leap seconds.
* **`Instant.IsStampable t`** — an instant that a time stamp can denote.
* **`Stamp.relaxed?_stamp`**, **`Stamp.exists_relaxed?_stamp`** — reading the time stamp of an
  instant.
* **`Stamp.isStampable_of_relaxed?`** — what time stamps denote. -/

namespace Audience

/-- An instant is plain when it is within the calendar and not part of a leap second. -/
def Instant.IsPlain (t : Instant) : Prop := t.inCalendar = true ∧ t.nanos < nanosPerSecond

instance (t : Instant) : Decidable t.IsPlain := inferInstanceAs (Decidable (_ ∧ _))

/-- An instant is stampable when it is within the calendar, and part of a leap second only at the
end of a minute. -/
def Instant.IsStampable (t : Instant) : Prop := t.inCalendar = true ∧
  (t.nanos < nanosPerSecond ∨ t.nanos < 2 * nanosPerSecond ∧ t.seconds % 60 = 59)

/-- Plain instants are stampable. -/
theorem Instant.IsPlain.isStampable {t : Instant} (h : t.IsPlain) : t.IsStampable :=
  ⟨h.1, .inl h.2⟩

namespace Stamp

/-! ## Digits before other characters -/

/-- A text that does not start with a digit. -/
def NoDigit (cs : List Char) : Prop := ∀ c rest, cs = c :: rest → c.isDigit = false

/-- A text that starts with another character does not start with a digit. -/
theorem noDigit_cons {c : Char} (rest : List Char) (h : c.isDigit = false) :
    NoDigit (c :: rest) := by
  rintro _ _ ⟨⟩
  exact h

/-- The digits at the start of a text are all that stand before another character. -/
theorem takeWhile_digits {ds rest : List Char} (hds : ∀ c ∈ ds, c.isDigit = true)
    (hrest : NoDigit rest) : (ds ++ rest).takeWhile Char.isDigit = ds := by
  rw [List.takeWhile_append_of_pos hds]
  cases rest with
  | nil => simp
  | cons c rest => rw [List.takeWhile_cons_of_neg (by simp [hrest c rest rfl]), List.append_nil]

/-- What follows the digits at the start of a text. -/
theorem dropWhile_digits {ds rest : List Char} (hds : ∀ c ∈ ds, c.isDigit = true)
    (hrest : NoDigit rest) : (ds ++ rest).dropWhile Char.isDigit = rest := by
  rw [List.dropWhile_append_of_pos hds]
  cases rest with
  | nil => rfl
  | cons c rest => rw [List.dropWhile_cons_of_neg (by simp [hrest c rest rfl])]

/-- A number is read up to the first character that is no digit. -/
theorem number_append {least most : Nat} {ds rest : List Char}
    (hds : ∀ c ∈ ds, c.isDigit = true) (hrest : NoDigit rest) (hleast : least ≤ ds.length)
    (hmost : ds.length ≤ most) :
    number least most (ds ++ rest) = some (digitsValue ds, rest) := by
  rw [number, takeWhile_digits hds hrest]
  simp only [List.take_of_length_le hmost, List.drop_left, if_neg (Nat.not_lt.2 hleast)]

/-- No digit is a blank. -/
theorem isBlank_of_isDigit {c : Char} (h : c.isDigit = true) : isBlank c = false := by
  obtain ⟨hlo, hhi⟩ := Char.isDigit_iff_toNat.1 h
  simp only [Char.reduceToNat] at hlo hhi
  rw [isBlank, blankRanges, inRanges_cons, if_neg (by omega), if_neg (by omega), inRanges_cons,
    if_neg (by omega), if_neg (by omega), inRanges_cons, if_pos (by omega)]

/-- A text that starts with no blank is its own trimmed form. -/
theorem trimStart_cons {c : Char} (rest : List Char) (h : isBlank c = false) :
    trimStart (c :: rest) = c :: rest := by
  rw [trimStart, List.dropWhile_cons_of_neg (by simp [h])]

/-- A text that starts with a padded number is its own trimmed form. -/
theorem trimStart_padded (width n : Nat) (rest : List Char) :
    trimStart (padded width n ++ rest) = padded width n ++ rest := by
  cases h : padded width n with
  | nil => exact absurd h (padded_ne_nil width n)
  | cons c ds =>
    have hc : c.isDigit = true := isDigit_of_mem_padded (h ▸ List.mem_cons_self)
    exact trimStart_cons _ (isBlank_of_isDigit hc)

/-! ## The parts of a time stamp -/

/-- A number that fits into its width is read back. -/
theorem number_padded {least most width n : Nat} {rest : List Char} (hw : 0 < width)
    (hn : n < tenTo width) (hrest : NoDigit rest) (hleast : least ≤ width) (hmost : width ≤ most) :
    number least most (padded width n ++ rest) = some (n, rest) := by
  have hlen := length_padded hw hn
  rw [number_append (fun _ => isDigit_of_mem_padded) hrest (by omega) (by omega),
    digitsValue_padded]

/-- A number of two digits is read back. -/
theorem shortNumber_padded {n : Nat} {rest : List Char} (hn : n < 100) (hrest : NoDigit rest) :
    shortNumber (padded 2 n ++ rest) = some (n, rest) := by
  rw [shortNumber, trimStart_padded]
  exact number_padded (by decide) hn hrest (by decide) (by decide)

/-- A number of any width is read back. -/
theorem longNumber_padded {width n : Nat} {rest : List Char} (hrest : NoDigit rest) :
    longNumber (padded width n ++ rest) = some (n, rest) := by
  have hpos : 0 < (padded width n).length := List.length_pos_iff.2 (padded_ne_nil width n)
  rw [longNumber, number_append (fun _ => isDigit_of_mem_padded) hrest hpos
    (by rw [List.length_append]; omega), digitsValue_padded]

/-- An expected character that is no blank. -/
theorem expectAfterBlanks_cons {c : Char} (rest : List Char) (h : isBlank c = false) :
    expectAfterBlanks c (c :: rest) = some rest := by
  rw [expectAfterBlanks, trimStart_cons rest h, expect, if_pos rfl]

/-- A year is read back, with its sign if it has one. -/
theorem relaxedYear_yearChars (year : Int) {rest : List Char} (hrest : NoDigit rest) :
    relaxedYear (trimStart (yearChars year ++ rest)) = some (year, rest) := by
  rw [yearChars]
  split
  · rename_i h
    -- the unsigned form: its first character is a digit, so neither sign applies
    have hn : year.toNat < tenTo 4 := by
      show year.toNat < 10000
      omega
    rw [trimStart_padded]
    have hread := number_padded (by decide) hn hrest (by decide : 1 ≤ 4) (Nat.le_refl 4)
    have hyear : (year.toNat : Int) = year := Int.toNat_of_nonneg h.1
    cases hp : padded 4 year.toNat with
    | nil => exact absurd hp (padded_ne_nil _ _)
    | cons c ds =>
      have hc : c.isDigit = true := isDigit_of_mem_padded (hp ▸ List.mem_cons_self)
      have hminus : c ≠ '-' := by
        rintro rfl
        exact absurd hc (by decide)
      have hplus : c ≠ '+' := by
        rintro rfl
        exact absurd hc (by decide)
      rw [hp] at hread
      simp only [List.cons_append] at hread ⊢
      rw [relaxedYear.eq_3 _ (by simp [hminus]) (by simp [hplus]), hread, Option.map_some, hyear]
  · rename_i h
    by_cases hneg : year < 0
    · rw [if_pos hneg, List.cons_append, trimStart_cons _ (by decide), relaxedYear,
        longNumber_padded hrest, Option.map_some]
      simp only [Option.some.injEq, Prod.mk.injEq, and_true]
      omega
    · rw [if_neg hneg, List.cons_append, trimStart_cons _ (by decide), relaxedYear,
        longNumber_padded hrest, Option.map_some]
      simp only [Option.some.injEq, Prod.mk.injEq, and_true]
      omega

/-- Digits after the point are read back, scaled to nanoseconds. -/
theorem fraction_padded {width n : Nat} {rest : List Char} (hw : 0 < width) (hw9 : width ≤ 9)
    (hn : n < tenTo width) (hrest : NoDigit rest) :
    fraction ('.' :: padded width n ++ rest) = some (n * tenTo (9 - width), rest) := by
  have hlen := length_padded hw hn
  have hds : ∀ c ∈ padded width n, c.isDigit = true := fun _ => isDigit_of_mem_padded
  rw [List.cons_append, fraction]
  simp only [takeWhile_digits hds hrest, dropWhile_digits hds hrest]
  rw [List.take_of_length_le (by omega), hlen, digitsValue_padded, if_neg]
  rw [List.isEmpty_iff]
  exact padded_ne_nil width n

/-- The fraction of a second is read back, however many digits it has. -/
theorem fraction_fractionChars {nanos : Nat} (h : nanos < nanosPerSecond) {c : Char}
    (rest : List Char) (hc : c.isDigit = false) (hpoint : c ≠ '.') :
    fraction (fractionChars nanos ++ c :: rest) = some (nanos, c :: rest) := by
  have hrest := noDigit_cons rest hc
  have hbound : nanos < 1000000000 := h
  rw [fractionChars]
  split
  · rename_i hzero
    rw [List.nil_append, fraction.eq_2 _ (by simp [hpoint]), hzero]
  · split
    · -- milliseconds
      rw [fraction_padded (by decide) (by decide) (by show _ < 1000; omega) hrest]
      simp only [Option.some.injEq, Prod.mk.injEq, and_true]
      show nanos / 1000000 * 1000000 = nanos
      omega
    · split
      · -- microseconds
        rw [fraction_padded (by decide) (by decide) (by show _ < 1000000; omega) hrest]
        simp only [Option.some.injEq, Prod.mk.injEq, and_true]
        show nanos / 1000 * 1000 = nanos
        omega
      · -- all nine digits
        rw [fraction_padded (by decide) (by decide) hbound hrest]
        simp only [Option.some.injEq, Prod.mk.injEq, and_true]
        show nanos * 1 = nanos
        omega

/-- No digit follows the seconds, with a fraction or without. -/
theorem noDigit_fractionChars (nanos : Nat) {c : Char} (rest : List Char)
    (hc : c.isDigit = false) : NoDigit (fractionChars nanos ++ c :: rest) := by
  rw [fractionChars]
  split
  · exact noDigit_cons rest hc
  · split
    · exact noDigit_cons _ (by decide)
    · split <;> exact noDigit_cons _ (by decide)

/-- The letter of universal time is an offset of zero. -/
theorem relaxedOffset_universal : relaxedOffset (trimStart ['Z']) = some (0, []) := by
  rw [trimStart_cons _ (by decide)]
  rfl

/-! ## Whole time stamps -/

/-- The month and the day of a date in the calendar have at most two digits. -/
theorem date_lt_hundred {d : Civil} (h : d.isValid = true) : d.month < 100 ∧ d.day < 100 := by
  simp only [Civil.isValid, decide_eq_true_eq] at h
  have hlen : Civil.monthLength d.year d.month ≤ 31 := by
    rw [Civil.monthLength]
    split
    · split <;> omega
    · split <;> omega
  omega

/-- What the time stamp of an instant says. -/
def readingOf (t : Instant) : Reading :=
  let second := (t.seconds % 86400).toNat
  ⟨Civil.ofDays (t.seconds / 86400), second / 3600, second / 60 % 60,
    second % 60 + (if t.isLeap then 1 else 0), subsecond t, 0⟩

/-- The reading of a stampable instant denotes it. -/
theorem instant?_readingOf {t : Instant} (h : t.IsStampable) : (readingOf t).instant? = some t := by
  obtain ⟨hcal, hnanos⟩ := h
  have hday : (Civil.ofDays (t.seconds / 86400)).toDays = t.seconds / 86400 :=
    Civil.toDays_ofDays _
  rw [readingOf, Reading.instant?]
  by_cases hleap : nanosPerSecond ≤ t.nanos
  · -- a leap second follows the last second of its minute
    have hflag : t.isLeap = true := decide_eq_true hleap
    obtain ⟨hbound, hend⟩ := hnanos.resolve_left (Nat.not_lt.2 hleap)
    have hsecond : (t.seconds % 86400).toNat % 60 + 1 = 60 := by omega
    have hwall : t.seconds / 86400 * 86400 + (((t.seconds % 86400).toNat / 3600 * 3600
        + (t.seconds % 86400).toNat / 60 % 60 * 60 + min 60 59 : Nat) : Int) = t.seconds := by omega
    have hsub : nanosPerSecond + subsecond t = t.nanos := by
      simp only [subsecond, nanosPerSecond] at *
      omega
    simp only [hflag, hsecond, hday, hwall, hsub, if_true, Int.sub_zero, hcal, and_self]
    rw [if_pos ⟨Civil.isValid_ofDays _, by omega, by omega, by omega, by decide⟩]
  · have hflag : t.isLeap = false := decide_eq_false hleap
    have hsecond : ¬(t.seconds % 86400).toNat % 60 = 60 := by omega
    have hwall : t.seconds / 86400 * 86400 + (((t.seconds % 86400).toNat / 3600 * 3600
        + (t.seconds % 86400).toNat / 60 % 60 * 60
        + min ((t.seconds % 86400).toNat % 60) 59 : Nat) : Int) = t.seconds := by omega
    have hsub : subsecond t = t.nanos := Nat.mod_eq_of_lt (Nat.lt_of_not_le hleap)
    simp only [hflag, Bool.false_eq_true, if_false, Nat.add_zero, hday, hwall, hsecond, hsub,
      Int.sub_zero, hcal, and_self, if_true]
    rw [if_pos ⟨Civil.isValid_ofDays _, by omega, by omega, by omega, by decide⟩]

/-- Reading a time stamp finds what it says. -/
theorem relaxed?_stamp_eq (t : Instant) : relaxed? t.stamp = (readingOf t).instant? := by
  have hdate := date_lt_hundred (Civil.isValid_ofDays (t.seconds / 86400))
  have hsub : subsecond t < nanosPerSecond := Nat.mod_lt _ (by decide)
  have hsecond : (t.seconds % 86400).toNat % 60 + (if t.isLeap then 1 else 0) < 100 := by
    split <;> omega
  rw [relaxed?, Instant.stamp, String.toList_ofList, clockChars]
  simp only [List.append_assoc, List.cons_append]
  -- the date, part by part
  rw [relaxedYear_yearChars _ (noDigit_cons _ (by decide))]
  simp only [Option.bind_eq_bind, Option.bind_some]
  rw [expectAfterBlanks_cons _ (by decide), Option.bind_some,
    shortNumber_padded hdate.1 (noDigit_cons _ (by decide)), Option.bind_some,
    expectAfterBlanks_cons _ (by decide), Option.bind_some,
    shortNumber_padded hdate.2 (noDigit_cons _ (by decide)), Option.bind_some]
  -- the clock
  simp only [separator, true_or, if_true, Option.bind_some]
  rw [shortNumber_padded (by omega) (noDigit_cons _ (by decide)), Option.bind_some,
    expectAfterBlanks_cons _ (by decide), Option.bind_some,
    shortNumber_padded (by omega) (noDigit_cons _ (by decide)), Option.bind_some,
    expectAfterBlanks_cons _ (by decide), Option.bind_some]
  -- the seconds end where their fraction starts, or at the offset
  rw [shortNumber_padded hsecond (noDigit_fractionChars _ _ (by decide)), Option.bind_some,
    fraction_fractionChars hsub _ (by decide) (by decide), Option.bind_some,
    relaxedOffset_universal]
  rfl

/-- Reading the time stamp of a stampable instant gives the instant back. -/
theorem relaxed?_stamp {t : Instant} (h : t.IsStampable) : relaxed? t.stamp = some t := by
  rw [relaxed?_stamp_eq, instant?_readingOf h]

/-- The time stamp of every instant of the calendar can be read. One of a leap second that does not
end its minute is read as the second after it. -/
theorem exists_relaxed?_stamp {t : Instant} (h : t.inCalendar = true) :
    ∃ t', relaxed? t.stamp = some t' := by
  have hday : (Civil.ofDays (t.seconds / 86400)).toDays = t.seconds / 86400 :=
    Civil.toDays_ofDays _
  obtain ⟨leap, hflag, hleap⟩ : ∃ n : Nat, (if t.isLeap then 1 else 0) = n ∧ n ≤ 1 :=
    ⟨_, rfl, by split <;> decide⟩
  rw [relaxed?_stamp_eq, readingOf, Reading.instant?, hflag]
  -- the calendar ends with a minute, so the second after one within a minute is still in it
  have hwall : Instant.inCalendar ⟨t.seconds / 86400 * 86400
      + (((t.seconds % 86400).toNat / 3600 * 3600 + (t.seconds % 86400).toNat / 60 % 60 * 60
        + min ((t.seconds % 86400).toNat % 60 + leap) 59 : Nat) : Int), 0⟩ = true := by
    have hbounds : Instant.firstSecond ≤ t.seconds ∧ t.seconds ≤ Instant.lastSecond :=
      of_decide_eq_true h
    simp only [Instant.firstSecond, Instant.lastSecond] at hbounds
    apply decide_eq_true
    simp only [Instant.firstSecond, Instant.lastSecond]
    omega
  simp only [hday, Int.sub_zero, and_self]
  rw [if_pos ⟨Civil.isValid_ofDays _, by omega, by omega, by omega, by decide⟩]
  exact ⟨_, if_pos hwall⟩

/-! ## What time stamps denote -/

/-- A fraction of a second is less than a second. -/
theorem lt_of_fraction {cs rest : List Char} {n : Nat} (h : fraction cs = some (n, rest)) :
    n < nanosPerSecond := by
  cases cs with
  | nil =>
    cases h
    decide
  | cons c cs =>
    by_cases hc : c = '.'
    · subst hc
      simp only [fraction] at h
      generalize hds : (cs.takeWhile Char.isDigit).take 9 = ds at h
      split at h
      · cases h
      · simp only [Option.some.injEq, Prod.mk.injEq] at h
        -- at most nine digits, which are scaled to nine
        have hlen : ds.length ≤ 9 := by
          rw [← hds, List.length_take]
          exact Nat.min_le_left _ _
        have hdigits : ∀ c ∈ ds, c.isDigit = true := fun c hmem =>
          List.all_eq_true.1 List.all_takeWhile c (List.mem_of_mem_take (hds ▸ hmem))
        have hpow : tenTo ds.length * tenTo (9 - ds.length) = nanosPerSecond := by
          rw [tenTo, tenTo, Nat.pow_eq, Nat.pow_eq, ← Nat.pow_add, Nat.add_sub_cancel' hlen]
          rfl
        rw [← h.1, ← hpow]
        exact Nat.mul_lt_mul_of_pos_right (digitsValue_lt hdigits) (tenTo_pos _)
    · rw [fraction.eq_2 _ (by simp [hc])] at h
      cases h
      decide

/-- An offset is a number of whole minutes. -/
theorem offset_mod {divider : List Char → Option (List Char)} {cs rest : List Char} {seconds : Int}
    (h : offset divider cs = some (seconds, rest)) : seconds % 60 = 0 := by
  unfold offset at h
  split at h
  · cases h
    rfl
  · cases h
    rfl
  · simp only [Option.bind_eq_bind, Option.bind_eq_some_iff] at h
    obtain ⟨_, _, _, _, _, _, _, _, h⟩ := h
    split at h
    · cases h
    · simp only [Option.some.injEq, Prod.mk.injEq] at h
      rw [← h.1]
      split <;> omega

/-- A reading of less than two seconds and whole minutes of offset denotes a stampable instant. -/
theorem isStampable_of_instant? {r : Reading} {t : Instant} (h : r.instant? = some t)
    (hnanos : r.nanos < nanosPerSecond) (hoffset : r.offset % 60 = 0) : t.IsStampable := by
  rw [Reading.instant?] at h
  split at h
  · simp only [Option.ite_none_right_eq_some, Option.some.injEq] at h
    obtain ⟨⟨_, hcalendar⟩, rfl⟩ := h
    refine ⟨hcalendar, ?_⟩
    by_cases hsecond : r.second = 60
    · -- the seconds of the minute do not depend on the offset
      simp only [hsecond, if_true]
      refine .inr ⟨by omega, by omega⟩
    · simp only [hsecond, if_false]
      exact .inl hnanos
  · cases h

/-- A time stamp that is read denotes a stampable instant. -/
theorem isStampable_of_relaxed? {s : String} {t : Instant} (h : relaxed? s = some t) :
    t.IsStampable := by
  simp only [relaxed?, Option.bind_eq_bind, Option.bind_eq_some_iff] at h
  -- eleven parts have been read before the fraction and the offset
  obtain ⟨_, _, _, _, _, _, _, _, _, _, _, _, _, _, _, _, _, _, _, _, _, _, ⟨_, _⟩, hfraction,
    ⟨_, _⟩, hoffset, h⟩ := h
  rw [Option.ite_none_right_eq_some] at h
  refine isStampable_of_instant? h.2 (lt_of_fraction hfraction) ?_
  rw [relaxedOffset] at hoffset
  split at hoffset
  · cases hoffset
    rfl
  · exact offset_mod hoffset

end Stamp

end Audience
