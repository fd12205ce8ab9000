import Audience.Proofs.Digits
import Audience.Proofs.NumberRange

/-! # The size of the shortest decimal

The search for the shortest decimal always ends at one that lies between the midpoints to the two
neighbours of the number. So its digits fit into 17 places, and its value is hardly greater than the
number.

* **`Dyadic.highestExponent_spec`** — the power of ten of the highest digit.
* **`Dyadic.Interval.IsWide.search_spec`** — seventeen digits suffice.
* **`Dyadic.shortest_spec`** — the size of the digits and the exponent. -/

namespace Audience

namespace Dyadic

/-! ## Ratios and powers of ten -/

/-- How a ratio compares with a power of ten depends on the exponent only, not on how it is split
between the two sides. -/
theorem lt_tenTo_iff {a b p q p' q' : Nat} (h : p + q' = p' + q) :
    a * tenTo p < b * tenTo q ↔ a * tenTo p' < b * tenTo q' := by
  have hsplit (a b p q k : Nat) :
      a * tenTo p < b * tenTo q ↔ a * tenTo (p + k) < b * tenTo (q + k) := by
    rw [tenTo_add, tenTo_add, ← Nat.mul_assoc, ← Nat.mul_assoc, Nat.mul_lt_mul_right (tenTo_pos k)]
  rw [hsplit a b p q q', hsplit a b p' q' q, h, Nat.add_comm q q']

/-- The same for the weak order. -/
theorem tenTo_le_iff {a b p q p' q' : Nat} (h : p + q' = p' + q) :
    b * tenTo q ≤ a * tenTo p ↔ b * tenTo q' ≤ a * tenTo p' := by
  rw [← Nat.not_lt, ← Nat.not_lt, lt_tenTo_iff h]

/-- A number has a digit. -/
theorem digitCount_pos (n : Nat) : 0 < digitCount n := List.length_pos_iff.2 Nat.toDigits_ne_nil

/-- A number is below the power of ten of its digits. -/
theorem lt_tenTo_digitCount (n : Nat) : n < tenTo (digitCount n) := by
  have hall : ∀ c ∈ natDigits n, c.isDigit = true := fun _ hc => isDigit_of_mem_natDigits hc
  have hlt := digitsValue_lt hall
  rwa [digitsValue_natDigits] at hlt

/-- A positive number is at least the power of ten of its highest digit. -/
theorem tenTo_digitCount_le {n : Nat} (hn : 0 < n) : tenTo (digitCount n - 1) ≤ n := by
  refine Nat.le_of_not_lt fun hlt => ?_
  by_cases hone : digitCount n - 1 = 0
  · rw [hone, tenTo_zero] at hlt
    omega
  · have hle : digitCount n ≤ digitCount n - 1 := length_natDigits_le (by omega) hlt
    omega

/-- The power of ten of the highest digit is at most the ratio, and the next one is greater. -/
theorem highestExponent_spec {num den : Nat} (hnum : 0 < num) (hden : 0 < den) {p q : Nat} :
    ((p : Int) = highestExponent num den + q → den * tenTo p ≤ num * tenTo q) ∧
    ((p : Int) = highestExponent num den + 1 + q → num * tenTo q < den * tenTo p) := by
  rw [highestExponent]
  by_cases hge : den ≤ num
  · rw [if_pos hge]
    have hquotient : 0 < num / den := Nat.div_pos hge hden
    have hcount := digitCount_pos (num / den)
    have hlow : den * tenTo (digitCount (num / den) - 1) ≤ num * tenTo 0 := by
      have hle := (Nat.le_div_iff_mul_le hden).1 (tenTo_digitCount_le hquotient)
      rwa [Nat.mul_comm, tenTo_zero, Nat.mul_one]
    have hhigh : num * tenTo 0 < den * tenTo (digitCount (num / den)) := by
      have hlt := (Nat.div_lt_iff_lt_mul hden).1 (lt_tenTo_digitCount (num / den))
      rwa [Nat.mul_comm den, tenTo_zero, Nat.mul_one]
    constructor
    · intro hp
      exact (tenTo_le_iff (by omega)).1 hlow
    · intro hp
      exact (lt_tenTo_iff (by omega)).1 hhigh
  · rw [if_neg hge]
    -- the quotient rounded up, less one, is the greatest number below the inverse ratio
    have hdiv : (den + num - 1) / num = (den - 1) / num + 1 := by
      rw [show den + num - 1 = den - 1 + num by omega, Nat.add_div_right _ hnum]
    rw [hdiv, Nat.add_sub_cancel]
    have hquotient : 0 < (den - 1) / num := Nat.div_pos (by omega) hnum
    have hcount := digitCount_pos ((den - 1) / num)
    have hlow : den * tenTo 0 ≤ num * tenTo (digitCount ((den - 1) / num)) := by
      have hlt := (Nat.div_lt_iff_lt_mul hnum).1 (lt_tenTo_digitCount ((den - 1) / num))
      rw [Nat.mul_comm num, tenTo_zero, Nat.mul_one]
      omega
    have hhigh : num * tenTo (digitCount ((den - 1) / num) - 1) < den * tenTo 0 := by
      have hle := (Nat.le_div_iff_mul_le hnum).1 (tenTo_digitCount_le hquotient)
      rw [Nat.mul_comm num, tenTo_zero, Nat.mul_one]
      omega
    constructor
    · intro hp
      exact (tenTo_le_iff (by omega)).1 hlow
    · intro hp
      exact (lt_tenTo_iff (by omega)).1 hhigh

/-! ## The search -/

namespace Interval

variable {i : Interval}

/-- The numerator of the value over the denominator of a grid. -/
def numOn (i : Interval) (e : Int) : Nat := i.value * tenTo (-e).toNat

/-- The denominator of a grid: what one step of it is. -/
def denOn (i : Interval) (e : Int) : Nat := i.den * tenTo e.toNat

/-- Both ends are farther away than half a unit of the seventeenth digit. -/
structure IsWide (i : Interval) : Prop where
  den_pos : 0 < i.den
  lower_pos : 0 < i.lower
  lower_lt : i.lower < i.value
  below : i.value < 2 * tenTo 16 * (i.value - i.lower)
  above : i.value < 2 * tenTo 16 * (i.upper - i.value)

/-- A decimal strictly between the ends lies in the interval. -/
theorem holds_of_lt {n : Nat} {e : Int} (hlower : i.lower * tenTo (-e).toNat < n * i.denOn e)
    (hupper : n * i.denOn e < i.upper * tenTo (-e).toNat) : i.holds n e = true := by
  have hvalue : n * tenTo e.toNat * i.den = n * i.denOn e := by
    rw [denOn, Nat.mul_assoc, Nat.mul_comm i.den]
  rw [holds]
  simp only [hvalue]
  split
  · exact decide_eq_true ⟨Nat.le_of_lt hlower, Nat.le_of_lt hupper⟩
  · exact decide_eq_true ⟨hlower, hupper⟩

/-- A decimal in the interval is not beyond its ends. -/
theorem bounds_of_holds {n : Nat} {e : Int} (h : i.holds n e = true) :
    i.lower * tenTo (-e).toNat ≤ n * i.denOn e ∧ n * i.denOn e ≤ i.upper * tenTo (-e).toNat := by
  have hvalue : n * tenTo e.toNat * i.den = n * i.denOn e := by
    rw [denOn, Nat.mul_assoc, Nat.mul_comm i.den]
  rw [holds] at h
  simp only [hvalue] at h
  split at h
  · exact of_decide_eq_true h
  · have hlt := of_decide_eq_true h
    exact ⟨Nat.le_of_lt hlt.1, Nat.le_of_lt hlt.2⟩

/-- What is found on a grid is next to the value and in the interval. -/
theorem holds_of_onGrid {n : Nat} {e : Int} (h : i.onGrid e = some n) :
    i.holds n e = true ∧ n ≤ i.numOn e / i.denOn e + 1 := by
  simp only [onGrid] at h
  split at h
  next hbelow habove =>
    split at h
    · cases h
      exact ⟨hbelow, Nat.le_succ _⟩
    · split at h
      · cases h
        exact ⟨habove, Nat.le_refl _⟩
      · split at h
        · cases h
          exact ⟨hbelow, Nat.le_succ _⟩
        · cases h
          exact ⟨habove, Nat.le_refl _⟩
  next hbelow habove =>
    cases h
    exact ⟨hbelow, Nat.le_succ _⟩
  next hbelow habove =>
    cases h
    exact ⟨habove, Nat.le_refl _⟩
  next => cases h

/-- Something is found on a grid, if one of the decimals next to the value lies in the interval. -/
theorem exists_onGrid {e : Int} (h : i.holds (i.numOn e / i.denOn e) e = true ∨
    i.holds (i.numOn e / i.denOn e + 1) e = true) : ∃ n, i.onGrid e = some n := by
  rw [numOn, denOn] at h
  simp only [onGrid]
  split
  next =>
    split
    · exact ⟨_, rfl⟩
    · split
      · exact ⟨_, rfl⟩
      · split
        · exact ⟨_, rfl⟩
        · exact ⟨_, rfl⟩
  next => exact ⟨_, rfl⟩
  next => exact ⟨_, rfl⟩
  next hbelow habove =>
    rw [hbelow, habove] at h
    rcases h with h | h
    · cases h
    · cases h

/-- Something is found on the grid of the seventeenth digit: the nearer one of the two decimals next
to the value is off by half a step at most. -/
theorem IsWide.exists_onGrid (hwide : i.IsWide) {e : Int}
    (hfine : tenTo 16 * i.denOn e ≤ i.numOn e) : ∃ n, i.onGrid e = some n := by
  have hstep : 0 < i.denOn e := Nat.mul_pos hwide.den_pos (tenTo_pos _)
  have hscale := tenTo_pos (-e).toNat
  have hdiv := Nat.div_add_mod' (i.numOn e) (i.denOn e)
  have hmod := Nat.mod_lt (i.numOn e) hstep
  have hvalue : i.numOn e = i.value * tenTo (-e).toNat := rfl
  have hbelow := Nat.mul_lt_mul_of_pos_right hwide.below hscale
  have habove := Nat.mul_lt_mul_of_pos_right hwide.above hscale
  rw [Nat.mul_assoc, Nat.sub_mul, ← hvalue] at hbelow habove
  have hlower : i.lower * tenTo (-e).toNat < i.numOn e :=
    Nat.mul_lt_mul_of_pos_right hwide.lower_lt hscale
  have hten : tenTo 16 = 10000000000000000 := by decide
  rw [hten] at hfine hbelow habove
  refine Interval.exists_onGrid ?_
  by_cases hnear : 2 * (i.numOn e % i.denOn e) ≤ i.denOn e
  · -- the decimal below is the nearer one, and the lower end is farther away
    left
    refine holds_of_lt ?_ ?_
    · omega
    · omega
  · -- the decimal above is the nearer one, and the upper end is farther away
    right
    refine holds_of_lt ?_ ?_
    · rw [Nat.add_mul]
      omega
    · rw [Nat.add_mul]
      omega

/-- The search ends at a decimal in the interval. -/
theorem IsWide.exists_search (hwide : i.IsWide) (fuel : Nat) (e : Int)
    (hfine : tenTo 16 * i.denOn (e - fuel) ≤ i.numOn (e - fuel)) :
    ∃ n e', i.search (fuel + 1) e = (n, e') ∧ e - fuel ≤ e' ∧ e' ≤ e ∧ i.onGrid e' = some n := by
  induction fuel generalizing e with
  | zero =>
    obtain ⟨n, hn⟩ := hwide.exists_onGrid (e := e) (by simpa using hfine)
    refine ⟨n, e, ?_, by omega, by omega, hn⟩
    rw [search, hn]
  | succ fuel ih =>
    cases hgrid : i.onGrid e with
    | some n =>
      refine ⟨n, e, ?_, by omega, by omega, hgrid⟩
      rw [search, hgrid]
    | none =>
      have hsub : e - (fuel + 1 : Nat) = e - 1 - fuel := by omega
      obtain ⟨n, e', hsearch, hge, hle, hn⟩ := ih (e - 1) (by rwa [← hsub])
      refine ⟨n, e', ?_, by omega, by omega, hn⟩
      rw [search, hgrid]
      exact hsearch

/-- Seventeen digits suffice. -/
theorem IsWide.search_spec (hwide : i.IsWide) :
    ∃ n e, i.search 17 (highestExponent i.value i.den) = (n, e) ∧ 0 < n ∧ n ≤ tenTo 17 ∧
      i.holds n e = true := by
  have hvalue : 0 < i.value := Nat.lt_of_le_of_lt (Nat.zero_le _) hwide.lower_lt
  have hhigh {p q : Nat} := highestExponent_spec hvalue hwide.den_pos (p := p) (q := q)
  generalize highestExponent i.value i.den = e at hhigh
  have hdenOn (k : Nat) (e : Int) : tenTo k * i.denOn e = i.den * tenTo (e.toNat + k) := by
    rw [denOn, tenTo_add, Nat.mul_comm, Nat.mul_assoc]
  -- sixteen places below the highest digit the grid has a step for each unit of the last digit
  obtain ⟨n, e', hsearch, hge, hle, hgrid⟩ := hwide.exists_search 16 e (by
    rw [hdenOn]
    exact hhigh.1 (by omega))
  obtain ⟨hholds, hnext⟩ := holds_of_onGrid hgrid
  refine ⟨n, e', hsearch, ?_, ?_, hholds⟩
  · refine Nat.pos_of_ne_zero fun hzero => ?_
    have hlower := (bounds_of_holds hholds).1
    have hpos : 0 < i.lower * tenTo (-e').toNat := Nat.mul_pos hwide.lower_pos (tenTo_pos _)
    rw [hzero, Nat.zero_mul] at hlower
    omega
  · -- the value is below the power of ten above its highest digit
    have hlt : i.numOn e' < tenTo (e + 1 - e').toNat * i.denOn e' := by
      rw [hdenOn]
      exact hhigh.2 (by omega)
    have hstep : 0 < i.denOn e' := Nat.mul_pos hwide.den_pos (tenTo_pos _)
    have hquotient := (Nat.div_lt_iff_lt_mul hstep).2 hlt
    have hmono : tenTo (e + 1 - e').toNat ≤ tenTo 17 := tenTo_mono (by omega)
    omega

end Interval

/-! ## The shortest decimal -/

/-- Trailing zeros are factors of ten. -/
theorem stripZeros_spec (fuel n : Nat) (e : Int) :
    ∃ n' k, stripZeros fuel n e = (n', e + (k : Nat)) ∧ n = n' * tenTo k := by
  induction fuel generalizing n e with
  | zero => exact ⟨n, 0, by rw [stripZeros, Int.natCast_zero, Int.add_zero], by simp⟩
  | succ fuel ih =>
    rw [stripZeros]
    split
    next h =>
      obtain ⟨n', k, hstrip, hvalue⟩ := ih (n / 10) (e + 1)
      refine ⟨n', k + 1, ?_, ?_⟩
      · rw [hstrip, Int.natCast_succ, Int.add_right_comm, Int.add_assoc]
      · rw [tenTo_succ, ← Nat.mul_assoc, ← hvalue]
        omega
    next => exact ⟨n, 0, by rw [Int.natCast_zero, Int.add_zero], by simp⟩

/-- The magnitude of a finite positive double. -/
structure IsDouble (d : Dyadic) : Prop where
  m_pos : 0 < d.m
  m_lt : d.m < 0x20000000000000
  le_q : -1074 ≤ d.q
  q_le : d.q ≤ 971
  /-- A number whose lower neighbour is nearer is a power of two. -/
  lowest : d.lowest = true → d.m = 0x10000000000000

/-- The bits of a finite number other than zero. -/
theorem isDouble_ofBits {x : Double} (hfinite : x.isFinite = true) (hzero : x.magnitude ≠ 0) :
    (ofBits x.bits).IsDouble := by
  have hlt : x.magnitude < 0x7FF0000000000000 := of_decide_eq_true hfinite
  have hmagnitude : x.magnitude = x.bits.toNat % 0x8000000000000000 := rfl
  simp only [ofBits]
  split
  next hexponent =>
    have hexponent : x.bits.toNat / 0x10000000000000 % 0x800 = 0 := hexponent
    refine ⟨?_, ?_, by simp, by simp, by simp⟩
    · show 0 < x.bits.toNat % 0x10000000000000
      omega
    · show x.bits.toNat % 0x10000000000000 < 0x20000000000000
      omega
  next hexponent =>
    have hexponent : x.bits.toNat / 0x10000000000000 % 0x800 ≠ 0 := hexponent
    refine ⟨?_, ?_, ?_, ?_, ?_⟩
    · show 0 < 0x10000000000000 + x.bits.toNat % 0x10000000000000
      omega
    · show 0x10000000000000 + x.bits.toNat % 0x10000000000000 < 0x20000000000000
      omega
    · show -1074 ≤ ((x.bits.toNat / 0x10000000000000 % 0x800 : Nat) : Int) - 1075
      omega
    · show ((x.bits.toNat / 0x10000000000000 % 0x800 : Nat) : Int) - 1075 ≤ 971
      omega
    · intro hlowest
      show 0x10000000000000 + x.bits.toNat % fractionRange = 0x10000000000000
      rw [(of_decide_eq_true hlowest).1]

/-- The interval of a double is wide enough for seventeen digits. -/
theorem IsDouble.isWide {d : Dyadic} (h : d.IsDouble) : d.interval.IsWide := by
  have hpos := h.m_pos
  have hlt := h.m_lt
  have hunit : 0 < twoTo (d.q - 2).toNat := twoTo_pos _
  have hten : tenTo 16 = 10000000000000000 := by decide
  -- a lower neighbour is half as far away only from a small significand
  obtain ⟨g, hg, hgap, hsmall⟩ : ∃ g, (if d.lowest then 1 else 2) = g ∧ 0 < g ∧ g ≤ 2 ∧
      4 * d.m < 2 * tenTo 16 * g := by
    rw [hten]
    cases hlowest : d.lowest with
    | false => exact ⟨2, by simp, by decide, by decide, by omega⟩
    | true => exact ⟨1, by simp, by decide, by decide, by rw [h.lowest hlowest]; decide⟩
  have hbelow : 4 * d.m - (4 * d.m - g) = g := by omega
  have habove : 4 * d.m + 2 - 4 * d.m = 2 := by omega
  refine ⟨twoTo_pos _, ?_, ?_, ?_, ?_⟩
  · show 0 < (4 * d.m - (if d.lowest then 1 else 2)) * twoTo (d.q - 2).toNat
    rw [hg]
    exact Nat.mul_pos (by omega) hunit
  · show (4 * d.m - (if d.lowest then 1 else 2)) * twoTo (d.q - 2).toNat
      < 4 * d.m * twoTo (d.q - 2).toNat
    rw [hg]
    exact Nat.mul_lt_mul_of_pos_right (by omega) hunit
  · show 4 * d.m * twoTo (d.q - 2).toNat < 2 * tenTo 16 * (4 * d.m * twoTo (d.q - 2).toNat
      - (4 * d.m - (if d.lowest then 1 else 2)) * twoTo (d.q - 2).toNat)
    rw [hg, ← Nat.sub_mul, hbelow, ← Nat.mul_assoc]
    exact Nat.mul_lt_mul_of_pos_right hsmall.2 hunit
  · show 4 * d.m * twoTo (d.q - 2).toNat < 2 * tenTo 16 * ((4 * d.m + 2) * twoTo (d.q - 2).toNat
      - 4 * d.m * twoTo (d.q - 2).toNat)
    rw [← Nat.sub_mul, habove, ← Nat.mul_assoc, hten]
    exact Nat.mul_lt_mul_of_pos_right (by omega) hunit

/-- The upper end of the interval of any double but the greatest. -/
theorem IsDouble.upper_le {d : Dyadic} (h : d.IsDouble)
    (hbelow : d.q = 971 → d.m < 0x1FFFFFFFFFFFFF) : d.interval.upper ≤ Double.decimalLimit := by
  have hlt := h.m_lt
  have hq := h.q_le
  show (4 * d.m + 2) * twoTo (d.q - 2).toNat ≤ Double.decimalLimit
  by_cases hgreat : d.q = 971
  · -- the greatest exponent, where the limit is the upper end of the last number but one
    have hm := hbelow hgreat
    have hexponent : (d.q - 2).toNat = 969 := by omega
    have hlimit : 0x7FFFFFFFFFFFFA * twoTo 969 = Double.decimalLimit := by decide +kernel
    rw [hexponent, ← hlimit]
    exact Nat.mul_le_mul_right _ (by omega)
  · have hexponent : twoTo (d.q - 2).toNat ≤ twoTo 968 := twoTo_mono (by omega)
    have hlimit : 0x80000000000000 * twoTo 968 ≤ Double.decimalLimit := by decide +kernel
    exact Nat.le_trans (Nat.mul_le_mul (by omega) hexponent) hlimit

/-- The digits and the exponent of the shortest decimal: at most 17 digits, and a value that is not
beyond the upper end of the interval. -/
theorem IsDouble.shortest_spec {d : Dyadic} (h : d.IsDouble) :
    ∃ n e, d.shortest = (n, e) ∧ 0 < n ∧ n ≤ tenTo 17 ∧ -400 < e ∧
      (0 ≤ e → n * tenTo e.toNat ≤ d.interval.upper) := by
  have hwide := h.isWide
  obtain ⟨n, e, hsearch, hpos, hle, hholds⟩ := hwide.search_spec
  obtain ⟨hlower, hupper⟩ := Interval.bounds_of_holds hholds
  obtain ⟨n', k, hstrip, hvalue⟩ := stripZeros_spec 20 n e
  rw [Interval.denOn] at hlower hupper
  refine ⟨n', e + k, ?_, ?_, ?_, ?_, ?_⟩
  · rw [shortest, hsearch]
    exact hstrip
  · refine Nat.pos_of_ne_zero fun hzero => ?_
    rw [hzero, Nat.zero_mul] at hvalue
    omega
  · rw [hvalue] at hle
    exact Nat.le_trans (Nat.le_mul_of_pos_right _ (tenTo_pos k)) hle
  · -- a smaller exponent would take the decimal below the lower end
    refine Int.lt_of_not_ge fun hsmall => ?_
    have hden : d.interval.den ≤ twoTo 1076 := by
      have hq := h.le_q
      exact twoTo_mono (by omega)
    have hzero : e.toNat = 0 := by omega
    rw [hzero, tenTo_zero, Nat.mul_one] at hlower
    have hlimit : tenTo 17 * twoTo 1076 < tenTo 400 := by decide +kernel
    have hbelow : tenTo 400 ≤ tenTo 17 * twoTo 1076 := by
      calc tenTo 400 ≤ tenTo (-e).toNat := tenTo_mono (by omega)
        _ ≤ d.interval.lower * tenTo (-e).toNat := Nat.le_mul_of_pos_left _ hwide.lower_pos
        _ ≤ n * d.interval.den := hlower
        _ ≤ tenTo 17 * twoTo 1076 := Nat.mul_le_mul hle hden
    omega
  · -- the zeros that were taken off make up for the greater exponent
    intro he
    have hscaled : n' * d.interval.den * tenTo (k + e.toNat)
        ≤ d.interval.upper * tenTo (-e).toNat := by
      rw [hvalue] at hupper
      rw [tenTo_add]
      grind
    have hplain : n' * d.interval.den * tenTo (e + k).toNat ≤ d.interval.upper * tenTo 0 :=
      (tenTo_le_iff (by omega)).1 hscaled
    rw [tenTo_zero, Nat.mul_one] at hplain
    refine Nat.le_trans (Nat.mul_le_mul_right _ ?_) hplain
    exact Nat.le_mul_of_pos_right _ hwide.den_pos

end Dyadic

end Audience
