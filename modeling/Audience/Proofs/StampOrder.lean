import Audience.Proofs.TimeStamp

/-! # The order of time stamps

Time stamps of the years 0 to 9999 with six fraction digits have a fixed layout: numbers of fixed
widths with the same characters between them. So their texts are ordered like the numbers, and the
numbers like the instants. The strict reader takes exactly these stamps.

* **`Civil.ofDays_before`** — later days have later dates.
* **`laidOut_lt`** — texts of one layout are ordered like their numbers.
* **`Instant.stampMicros_lt_iff`** — the order of time stamps is the order of time.
* **`Stamp.strict?_stampMicros`** — what the strict reader makes of a time stamp. -/

namespace Audience

/-! ## Later dates -/

namespace Civil

/-- One date is before another: the years decide, then the months, then the days. -/
def Before (a b : Civil) : Prop :=
  a.year < b.year ∨ a.year = b.year ∧ (a.month < b.month ∨ a.month = b.month ∧ a.day < b.day)

/-- The order of dates is transitive. -/
theorem Before.trans {a b c : Civil} (hab : a.Before b) (hbc : b.Before c) : a.Before c := by
  simp only [Before] at *
  omega

/-- The next day of a year has a later date, also when it is the first one of a month. -/
theorem ofYearDay_before_succ (era : Int) (y : Nat) {k : Nat} (hk : k < 365) :
    (ofYearDay era y k).Before (ofYearDay era y (k + 1)) := by
  have hmonth : (5 * k + 2) / 153 ≤ 11 := by omega
  have hnext : (5 * (k + 1) + 2) / 153 = (5 * k + 2) / 153
      ∨ (5 * (k + 1) + 2) / 153 = (5 * k + 2) / 153 + 1 ∧ (5 * k + 2) / 153 ≤ 10 := by omega
  obtain ⟨_, hlo, _⟩ := day_of_month (Nat.le_of_lt hk)
  simp only [ofYearDay, Before]
  generalize (5 * k + 2) / 153 = m at *
  rcases hnext with heq | ⟨heq, hlast⟩
  · rw [heq]
    omega
  · rw [heq]
    -- the months from March to December are in the year before that of January and February
    rcases Nat.lt_trichotomy m 9 with hm | rfl | hm
    · simp only [if_pos (show m < 10 by omega), if_pos (show m + 1 < 10 by omega),
        if_neg (show ¬m + 3 ≤ 2 by omega), if_neg (show ¬m + 1 + 3 ≤ 2 by omega)]
      exact .inr ⟨trivial, .inl (Nat.add_lt_add_right (Nat.lt_succ_self m) 3)⟩
    · simp only [Nat.reduceAdd, Nat.reduceLT, Nat.reduceLeDiff, Nat.reduceSub, if_true, if_false]
      omega
    · simp only [if_neg (show ¬m < 10 by omega), if_neg (show ¬m + 1 < 10 by omega),
        if_pos (show m - 9 ≤ 2 by omega), if_pos (show m + 1 - 9 ≤ 2 by omega)]
      exact .inr ⟨trivial, .inl (Nat.sub_lt_sub_right (Nat.le_of_lt hm) (Nat.lt_succ_self m))⟩

/-- The first of March of a year comes after all days of the year before. -/
theorem ofYearDay_before_march (era : Int) (y k : Nat) :
    (ofYearDay era y k).Before (ofYearDay era (y + 1) 0) := by
  simp only [ofYearDay, Before, daysBefore]
  omega

/-- The first of March of an era comes after the leap day at the end of the era before. -/
theorem ofYearDay_before_era (era : Int) :
    (ofYearDay era 399 365).Before (ofYearDay (era + 1) 0 0) := by
  have hleap : ofYearDay era 399 365 = ⟨399 + era * 400 + 1, 2, 29⟩ := rfl
  have hmarch : ofYearDay (era + 1) 0 0 = ⟨0 + (era + 1) * 400, 3, 1⟩ := rfl
  rw [hleap, hmarch]
  simp only [Before]
  omega

/-- The next year starts later. -/
theorem daysBeforeYear_lt_succ (y : Nat) : daysBeforeYear y < daysBeforeYear (y + 1) := by
  simp only [daysBeforeYear]
  omega

/-- No later year starts earlier. -/
theorem daysBeforeYear_mono {a b : Nat} (h : a ≤ b) : daysBeforeYear a ≤ daysBeforeYear b := by
  induction h with
  | refl => exact Nat.le_refl _
  | step _ ih => exact Nat.le_trans ih (Nat.le_of_lt (daysBeforeYear_lt_succ _))

/-- The next day of an era belongs to the same year, or it is the first one of the next year. -/
theorem yearOfDay_succ {d : Nat} (h : d + 1 < 146097) :
    yearOfDay (d + 1) = yearOfDay d ∨
      yearOfDay (d + 1) = yearOfDay d + 1 ∧ d + 1 = daysBeforeYear (yearOfDay d + 1) := by
  have hd : d < 146097 := by omega
  have hle : yearOfDay d ≤ yearOfDay (d + 1) :=
    Nat.div_le_div_right (plainDays_mono (Nat.le_succ d))
  have hlt := yearOfDay_lt h
  have hend := lt_yearEnd hd
  have hstart := daysBeforeYear_le h
  rcases Nat.eq_or_lt_of_le hle with heq | hne
  · exact .inl heq.symm
  · right
    -- the later year starts right after the earlier one has ended
    have hnext : yearOfDay d + 1 ≤ yearOfDay (d + 1) := hne
    have hsucc := daysBeforeYear_succ (yearOfDay d) (by omega)
    have hmono := daysBeforeYear_mono hnext
    refine ⟨Nat.le_antisymm (Nat.le_of_not_lt fun htwo => ?_) hnext, by omega⟩
    have hfar : daysBeforeYear (yearOfDay d + 1 + 1) ≤ daysBeforeYear (yearOfDay (d + 1)) :=
      daysBeforeYear_mono htwo
    have hgap := daysBeforeYear_lt_succ (yearOfDay d + 1)
    omega

/-- The next day has a later date. -/
theorem ofDays_before_succ (n : Int) : (ofDays n).Before (ofDays (n + 1)) := by
  have hd := dayOfEra_lt n
  rw [ofDays_eq, ofDays_eq]
  simp only
  by_cases hlast : ((n + epochShift) % eraDays).toNat = 146096
  · -- the last day of an era is a leap day, and the next one the first of March
    have hday : ((n + 1 + epochShift) % eraDays).toNat = 0 := by
      simp only [eraDays, epochShift] at *
      omega
    have hera : (n + 1 + epochShift) / eraDays = (n + epochShift) / eraDays + 1 := by
      simp only [eraDays, epochShift] at *
      omega
    rw [hlast, hday, hera]
    simp only [show yearOfDay 146096 = 399 by decide, show yearOfDay 0 = 0 by decide,
      show 146096 - daysBeforeYear 399 = 365 by decide, show 0 - daysBeforeYear 0 = 0 by decide]
    exact ofYearDay_before_era _
  · have hday : ((n + 1 + epochShift) % eraDays).toNat
        = ((n + epochShift) % eraDays).toNat + 1 := by
      simp only [eraDays, epochShift] at *
      omega
    have hera : (n + 1 + epochShift) / eraDays = (n + epochShift) / eraDays := by
      simp only [eraDays, epochShift] at *
      omega
    rw [hday, hera]
    generalize ((n + epochShift) % eraDays).toNat = d at *
    have hlo := daysBeforeYear_le hd
    have hhi := lt_yearEnd (d := d + 1) (by omega)
    have hlen := yearLength_le (yearOfDay (d + 1))
    rcases yearOfDay_succ (d := d) (by omega) with hyear | ⟨hyear, hfirst⟩
    · rw [hyear] at hhi hlen ⊢
      rw [show d + 1 - daysBeforeYear (yearOfDay d) = d - daysBeforeYear (yearOfDay d) + 1 by omega]
      exact ofYearDay_before_succ _ _ (by omega)
    · rw [hyear, ← hfirst, Nat.sub_self]
      exact ofYearDay_before_march _ _ _

/-- Later days have later dates. -/
theorem ofDays_before {m n : Int} (h : m < n) : (ofDays m).Before (ofDays n) := by
  obtain ⟨k, hk⟩ : ∃ k : Nat, n = m + 1 + k := ⟨(n - m - 1).toNat, by omega⟩
  subst hk
  clear h
  induction k with
  | zero =>
    rw [Int.ofNat_zero, Int.add_zero]
    exact ofDays_before_succ m
  | succ k ih =>
    have hnext := ih.trans (ofDays_before_succ (m + 1 + k))
    rwa [Int.add_assoc] at hnext

end Civil

/-! ## Texts of one layout -/

/-- Digits of a greater value come later, whatever follows them. -/
theorem digits_append_lt {ds es : List Char} (hds : ∀ c ∈ ds, c.isDigit = true)
    (hes : ∀ c ∈ es, c.isDigit = true) (hlen : ds.length = es.length)
    (h : digitsValue ds < digitsValue es) (x y : List Char) : ds ++ x < es ++ y := by
  induction ds generalizing es with
  | nil =>
    rw [List.eq_nil_of_length_eq_zero hlen.symm] at h
    exact absurd h (Nat.lt_irrefl _)
  | cons d ds ih =>
    cases es with
    | nil => cases hlen
    | cons e es =>
      have hlen' : ds.length = es.length := Nat.succ.inj hlen
      have hds' : ∀ c ∈ ds, c.isDigit = true := fun c hc => hds c (List.mem_cons_of_mem _ hc)
      have hes' : ∀ c ∈ es, c.isDigit = true := fun c hc => hes c (List.mem_cons_of_mem _ hc)
      rw [digitsValue_cons, digitsValue_cons, hlen'] at h
      rw [List.cons_append, List.cons_append, List.cons_lt_cons_iff]
      rcases Nat.lt_trichotomy (digitValue d) (digitValue e) with hlt | heq | hgt
      · exact .inl (lt_of_digitValue_lt hlt)
      · refine .inr ⟨eq_of_digitValue_eq (hds d List.mem_cons_self) (hes e List.mem_cons_self) heq,
          ih hds' hes' hlen' ?_⟩
        rw [heq] at h
        exact Nat.lt_of_add_lt_add_left h
      · -- a smaller first digit cannot be made up for
        have hbound := digitsValue_lt hes'
        have hmul : (digitValue e + 1) * tenTo es.length ≤ digitValue d * tenTo es.length :=
          Nat.mul_le_mul_right _ hgt
        rw [Nat.add_mul, Nat.one_mul] at hmul
        omega

/-- A greater number of the same width comes later, whatever follows it. -/
theorem padded_append_lt {width m n : Nat} (hw : 0 < width) (h : m < n) (hn : n < tenTo width)
    (x y : List Char) : padded width m ++ x < padded width n ++ y := by
  refine digits_append_lt (fun _ => isDigit_of_mem_padded) (fun _ => isDigit_of_mem_padded)
    ?_ ?_ x y
  · rw [length_padded hw (Nat.lt_trans h hn), length_padded hw hn]
  · rwa [digitsValue_padded, digitsValue_padded]

/-- Numbers of given widths, each followed by a given character. -/
def laidOut : List (Nat × Char) → List Nat → List Char
  | (width, c) :: layout, n :: ns => padded width n ++ c :: laidOut layout ns
  | _, _ => []

/-- Numbers that fit into the widths of a layout. -/
def Fits : List (Nat × Char) → List Nat → Prop
  | (width, _) :: layout, n :: ns => (0 < width ∧ n < tenTo width) ∧ Fits layout ns
  | [], [] => True
  | _, _ => False

/-- Texts of one layout are ordered like their numbers. -/
theorem laidOut_lt {layout : List (Nat × Char)} {ms ns : List Nat} (hms : Fits layout ms)
    (hns : Fits layout ns) (h : ms < ns) : laidOut layout ms < laidOut layout ns := by
  induction layout generalizing ms ns with
  | nil =>
    cases ms with
    | nil =>
      cases ns with
      | nil => exact absurd h (List.lt_irrefl _)
      | cons n ns => cases hns
    | cons m ms => cases hms
  | cons field layout ih =>
    obtain ⟨width, c⟩ := field
    cases ms with
    | nil => cases hms
    | cons m ms =>
      cases ns with
      | nil => cases hns
      | cons n ns =>
        obtain ⟨⟨hw, _⟩, hms⟩ := hms
        obtain ⟨⟨_, hn⟩, hns⟩ := hns
        rw [laidOut, laidOut]
        rcases List.cons_lt_cons_iff.1 h with hlt | ⟨rfl, hrest⟩
        · exact padded_append_lt hw hlt hn _ _
        · exact List.append_left_lt (List.cons_lt_cons_iff.2 (.inr ⟨rfl, ih hms hns hrest⟩))

/-! ## Time stamps as texts -/

namespace Instant

/-- The year of an instant. -/
def year (t : Instant) : Int := (Civil.ofDays (t.seconds / 86400)).year

/-- Whether the year of an instant is written with four digits and no sign. -/
def hasFourDigitYear (t : Instant) : Bool := 0 ≤ t.year ∧ t.year ≤ 9999

/-- The widths of the numbers in a time stamp, each with the character behind it. -/
def stampLayout : List (Nat × Char) :=
  [(4, '-'), (2, '-'), (2, 'T'), (2, ':'), (2, ':'), (2, '.'), (6, 'Z')]

/-- The numbers in the time stamp of an instant. -/
def stampNumbers (t : Instant) : List Nat :=
  let date := Civil.ofDays (t.seconds / 86400)
  let second := (t.seconds % 86400).toNat
  [date.year.toNat, date.month, date.day, second / 3600, second / 60 % 60, second % 60,
    t.nanos / 1000]

variable {a b t : Instant}

/-- A plain instant is not part of a leap second. -/
theorem IsPlain.isLeap (h : t.IsPlain) : t.isLeap = false := decide_eq_false (Nat.not_le.2 h.2)

/-- The nanoseconds of a plain instant are those within the second. -/
theorem IsPlain.subsecond (h : t.IsPlain) : Stamp.subsecond t = t.nanos := Nat.mod_eq_of_lt h.2

/-- A plain instant that is cut to microseconds is plain. -/
theorem IsPlain.truncateMicros (h : t.IsPlain) : t.truncateMicros.IsPlain :=
  ⟨h.1, Nat.lt_of_le_of_lt (Nat.sub_le _ _) h.2⟩

/-- The time stamp of a year with four digits has the fixed layout. -/
theorem toList_stampMicros (h : t.IsPlain) (hyear : t.hasFourDigitYear = true) :
    t.stampMicros.toList = laidOut stampLayout t.stampNumbers := by
  have hrange : 0 ≤ (Civil.ofDays (t.seconds / 86400)).year ∧
      (Civil.ofDays (t.seconds / 86400)).year ≤ 9999 := of_decide_eq_true hyear
  rw [stampMicros, String.toList_ofList, Stamp.clockChars, Stamp.yearChars]
  simp only [hrange, and_self, if_true, h.isLeap, h.subsecond, Bool.false_eq_true, if_false,
    Nat.add_zero, stampLayout, stampNumbers, laidOut, List.append_assoc, List.cons_append]

/-- The numbers in a time stamp fit into the layout. -/
theorem fits_stampNumbers (h : t.IsPlain) (hyear : t.hasFourDigitYear = true) :
    Fits stampLayout t.stampNumbers := by
  have hrange : 0 ≤ (Civil.ofDays (t.seconds / 86400)).year ∧
      (Civil.ofDays (t.seconds / 86400)).year ≤ 9999 := of_decide_eq_true hyear
  have hdate := Stamp.date_lt_hundred (Civil.isValid_ofDays (t.seconds / 86400))
  have hnanos : t.nanos < 1000000000 := h.2
  have htwo : tenTo 2 = 100 := rfl
  have hfour : tenTo 4 = 10000 := rfl
  have hsix : tenTo 6 = 1000000 := rfl
  simp only [stampLayout, stampNumbers, Fits, htwo, hfour, hsix, Nat.reduceLT, true_and, and_true]
  omega

/-- Later instants have greater numbers in their time stamps. -/
theorem stampNumbers_lt (ha : a.hasFourDigitYear = true) (hb : b.hasFourDigitYear = true)
    (h : a.truncateMicros.lt b.truncateMicros = true) : a.stampNumbers < b.stampNumbers := by
  have harange : 0 ≤ (Civil.ofDays (a.seconds / 86400)).year ∧
      (Civil.ofDays (a.seconds / 86400)).year ≤ 9999 := of_decide_eq_true ha
  have hbrange : 0 ≤ (Civil.ofDays (b.seconds / 86400)).year ∧
      (Civil.ofDays (b.seconds / 86400)).year ≤ 9999 := of_decide_eq_true hb
  have hlt := of_decide_eq_true h
  simp only [Instant.truncateMicros] at hlt
  have hle : a.seconds / 86400 ≤ b.seconds / 86400 := Int.ediv_le_ediv (by decide) (by omega)
  simp only [stampNumbers, List.cons_lt_cons_iff, List.not_lt_nil, and_false, or_false]
  rcases Int.lt_or_eq_of_le hle with hday | hday
  · rcases Civil.ofDays_before hday with hyear | ⟨hyear, hmonth | ⟨hmonth, hday⟩⟩
    · exact .inl (by omega)
    · exact .inr ⟨congrArg Int.toNat hyear, .inl hmonth⟩
    · exact .inr ⟨congrArg Int.toNat hyear, .inr ⟨hmonth, .inl hday⟩⟩
  · -- on the same day the clock decides, and then the fraction
    clear harange hbrange hle
    rw [hday]
    refine .inr ⟨rfl, .inr ⟨rfl, .inr ⟨rfl, ?_⟩⟩⟩
    omega

/-- Cutting an instant to microseconds does not change its time stamp. -/
theorem stampMicros_truncateMicros (h : t.IsPlain) :
    t.truncateMicros.stampMicros = t.stampMicros := by
  have hmicros : (t.nanos - t.nanos % 1000) / 1000 = t.nanos / 1000 := by omega
  rw [stampMicros, stampMicros, Stamp.clockChars, Stamp.clockChars, h.isLeap,
    h.truncateMicros.isLeap, h.subsecond, h.truncateMicros.subsecond]
  simp only [Instant.truncateMicros, hmicros]

/-- A later instant has a later time stamp. -/
theorem stampMicros_lt (ha : a.IsPlain) (hb : b.IsPlain) (hayear : a.hasFourDigitYear = true)
    (hbyear : b.hasFourDigitYear = true) (h : a.truncateMicros.lt b.truncateMicros = true) :
    a.stampMicros < b.stampMicros := by
  rw [String.lt_iff, toList_stampMicros ha hayear, toList_stampMicros hb hbyear]
  exact laidOut_lt (fits_stampNumbers ha hayear) (fits_stampNumbers hb hbyear)
    (stampNumbers_lt hayear hbyear h)

/-- Of two instants that are not the same one is before the other. -/
theorem lt_or_eq_or_lt (a b : Instant) : a.lt b = true ∨ a = b ∨ b.lt a = true := by
  obtain ⟨s, n⟩ := a
  obtain ⟨s', n'⟩ := b
  simp only [Instant.lt, decide_eq_true_eq, Instant.mk.injEq]
  omega

/-- No two instants are before each other. -/
theorem lt_asymm (hab : a.lt b = true) : ¬b.lt a = true := by
  simp only [Instant.lt, decide_eq_true_eq] at *
  omega

/-- No instant is before itself. -/
theorem lt_irrefl (a : Instant) : ¬a.lt a = true := fun h => lt_asymm h h

/-- The order of time stamps with six fraction digits is the order of time in microseconds. -/
theorem stampMicros_lt_iff (ha : a.IsPlain) (hb : b.IsPlain) (hayear : a.hasFourDigitYear = true)
    (hbyear : b.hasFourDigitYear = true) :
    a.stampMicros < b.stampMicros ↔ a.truncateMicros.lt b.truncateMicros = true := by
  refine ⟨fun h => ?_, stampMicros_lt ha hb hayear hbyear⟩
  rcases lt_or_eq_or_lt a.truncateMicros b.truncateMicros with hlt | heq | hgt
  · exact hlt
  · rw [← stampMicros_truncateMicros ha, heq, stampMicros_truncateMicros hb] at h
    exact absurd h (String.lt_irrefl _)
  · exact absurd (stampMicros_lt hb ha hbyear hayear hgt) (String.lt_asymm h)

/-- Time stamps are equal exactly when the instants are equal in microseconds. -/
theorem stampMicros_eq_iff (ha : a.IsPlain) (hb : b.IsPlain) (hayear : a.hasFourDigitYear = true)
    (hbyear : b.hasFourDigitYear = true) :
    a.stampMicros = b.stampMicros ↔ a.truncateMicros = b.truncateMicros := by
  refine ⟨fun h => ?_, fun h => ?_⟩
  · rcases lt_or_eq_or_lt a.truncateMicros b.truncateMicros with hlt | heq | hgt
    · exact absurd h (String.ne_of_lt (stampMicros_lt ha hb hayear hbyear hlt))
    · exact heq
    · exact absurd h.symm (String.ne_of_lt (stampMicros_lt hb ha hbyear hayear hgt))
  · rw [← stampMicros_truncateMicros ha, h, stampMicros_truncateMicros hb]

end Instant

/-! ## Strict reading -/

namespace Stamp

/-- An expected character. -/
theorem expect_cons (c : Char) (rest : List Char) : expect c (c :: rest) = some rest := by
  rw [expect, if_pos rfl]

/-- No number starts with a sign. -/
theorem number_cons_of_not_isDigit {least most : Nat} {c : Char} (hc : c.isDigit = false)
    (hleast : 0 < least) (rest : List Char) : number least most (c :: rest) = none := by
  rw [number, List.takeWhile_cons_of_neg (by simp [hc]), List.take_nil]
  exact if_pos hleast

/-- A time stamp with six fraction digits is read strictly, and gives the instant cut to
microseconds. -/
theorem strict?_of_hasFourDigitYear {t : Instant} (h : t.IsPlain)
    (hyear : t.hasFourDigitYear = true) : strict? t.stampMicros = some t.truncateMicros := by
  have hrange : 0 ≤ (Civil.ofDays (t.seconds / 86400)).year ∧
      (Civil.ofDays (t.seconds / 86400)).year ≤ 9999 := of_decide_eq_true hyear
  have hnat : ((Civil.ofDays (t.seconds / 86400)).year.toNat : Int)
      = (Civil.ofDays (t.seconds / 86400)).year := Int.toNat_of_nonneg hrange.1
  have hfour : (Civil.ofDays (t.seconds / 86400)).year.toNat < tenTo 4 := by
    show _ < 10000
    omega
  have hdate := date_lt_hundred (Civil.isValid_ofDays (t.seconds / 86400))
  have hnanos : t.nanos < 1000000000 := h.2
  have hmicros : t.nanos / 1000 < tenTo 6 := by
    show _ < 1000000
    omega
  have htwo : ∀ {n : Nat} {rest : List Char}, n < 100 → NoDigit rest →
      number 2 2 (padded 2 n ++ rest) = some (n, rest) := fun hn hrest =>
    number_padded (by decide) hn hrest (by decide) (by decide)
  rw [strict?, Instant.toList_stampMicros h hyear]
  simp only [Instant.stampLayout, Instant.stampNumbers, laidOut]
  -- the date
  rw [number_padded (by decide) hfour (noDigit_cons _ (by decide)) (by decide) (by decide)]
  simp only [Option.bind_eq_bind, Option.bind_some]
  rw [expect_cons, Option.bind_some, htwo hdate.1 (noDigit_cons _ (by decide)), Option.bind_some,
    expect_cons, Option.bind_some, htwo hdate.2 (noDigit_cons _ (by decide)), Option.bind_some]
  -- the clock
  simp only [separator, true_or, if_true, Option.bind_some]
  rw [htwo (by omega) (noDigit_cons _ (by decide)), Option.bind_some, expect_cons,
    Option.bind_some, htwo (by omega) (noDigit_cons _ (by decide)), Option.bind_some, expect_cons,
    Option.bind_some, htwo (by omega) (noDigit_cons _ (by decide)), Option.bind_some]
  -- the fraction, and no offset
  rw [← List.cons_append, fraction_padded (by decide) (by decide) hmicros
    (noDigit_cons _ (by decide)), Option.bind_some, offset, Option.bind_some]
  have hreading := instant?_readingOf h.truncateMicros.isStampable
  simp only [readingOf, h.truncateMicros.isLeap, h.truncateMicros.subsecond, Bool.false_eq_true,
    if_false, Nat.add_zero] at hreading
  have hscaled : t.nanos / 1000 * tenTo (9 - 6) = t.nanos - t.nanos % 1000 := by
    show t.nanos / 1000 * 1000 = _
    omega
  simp only [List.isEmpty_nil, if_true, hnat, hscaled]
  exact hreading

/-- A time stamp with a sign before the year is not read strictly. -/
theorem strict?_of_not_hasFourDigitYear {t : Instant} (hyear : t.hasFourDigitYear = false) :
    strict? t.stampMicros = none := by
  have hrange : ¬(0 ≤ (Civil.ofDays (t.seconds / 86400)).year ∧
      (Civil.ofDays (t.seconds / 86400)).year ≤ 9999) := of_decide_eq_false hyear
  rw [strict?, Instant.stampMicros, String.toList_ofList, clockChars, yearChars, if_neg hrange]
  simp only [List.append_assoc, List.cons_append]
  rw [number_cons_of_not_isDigit (by split <;> decide) (by decide)]
  rfl

/-- What the strict reader makes of a time stamp with six fraction digits. -/
theorem strict?_stampMicros {t : Instant} (h : t.IsPlain) :
    strict? t.stampMicros = if t.hasFourDigitYear then some t.truncateMicros else none := by
  cases hyear : t.hasFourDigitYear with
  | true => exact strict?_of_hasFourDigitYear h hyear
  | false => exact strict?_of_not_hasFourDigitYear hyear

end Stamp

end Audience
