import Audience.Json.Decode
import Audience.Proofs.NumberText

/-! # Whole numbers in floating point

Doubles hold all whole numbers up to `2^53`, and adding one to such a number is exact. A whole
number is written with all of its digits and a zero behind the point, and read as the quotient of
ten times the number by ten. Both are exact as long as ten times the number is a double, so whole
numbers below `wholeLimit` are read back as they were written.

* **`round_eq_of_exact`** — a number that a double holds is not changed by rounding.
* **`Double.add_one_ofNat`** — counting by one.
* **`Dyadic.shortest_of_whole`** — the shortest decimal of a whole number is the number itself.
* **`Double.read_ofNat`** — the stored form of a whole number is read as the number. -/

namespace Audience

open Float.Model Float.Model.UnpackedFloat

/-! ## Exact rounding -/

/-- Significand and exponent of a double with all 53 digits. -/
structure IsNormal (m : Nat) (e : Int) : Prop where
  lower : 0x10000000000000 ≤ m
  upper : m < 0x20000000000000
  least : -1074 ≤ e
  greatest : e ≤ 971

namespace IsNormal

variable {m : Nat} {e : Int}

/-- The highest digit has its place. -/
theorem log2_eq (h : IsNormal m e) : m.log2 = 52 :=
  (Nat.log2_eq_iff (Nat.ne_of_gt (Nat.lt_of_lt_of_le (by decide) h.lower))).2 ⟨h.lower, h.upper⟩

/-- A normal number is canonical. -/
theorem isCanonical (h : IsNormal m e) : IsCanonical m e :=
  ⟨h.upper, h.least, h.greatest, fun _ => h.lower⟩

/-- A significand is positive. -/
theorem pos (h : IsNormal m e) : 0 < m := Nat.lt_of_lt_of_le (by decide) h.lower

end IsNormal

/-- Digits that are all zero are dropped without rounding. -/
theorem roundedMantissa_shift_exact (m n : Nat) :
    (ExtendedMantissa.ofMantissaAndAccuracy (m * 2 ^ n) .exact >>> n).roundedMantissa = m := by
  have hpos : 0 < 2 ^ n := Nat.two_pow_pos n
  have hmantissa :
      (ExtendedMantissa.ofMantissaAndAccuracy (m * 2 ^ n) .exact >>> n).mantissa = m := by
    rw [mantissa_shift]
    exact Nat.mul_div_cancel m hpos
  have hlower :=
    le_roundedMantissa (ExtendedMantissa.ofMantissaAndAccuracy (m * 2 ^ n) .exact >>> n)
  have hupper :=
    roundedMantissa_le (ExtendedMantissa.ofMantissaAndAccuracy (m * 2 ^ n) .exact >>> n)
  -- the digit behind the others is zero, since all digits together are no more than the significand
  have hhalves : halves (ExtendedMantissa.ofMantissaAndAccuracy (m * 2 ^ n) .exact >>> n) * 2 ^ n
      ≤ 2 * m * 2 ^ n := by
    refine Nat.le_trans (halves_shift _ _) (Nat.le_of_eq ?_)
    show 2 * (m * 2 ^ n) + 0 = _
    rw [Nat.add_zero, Nat.mul_assoc]
  have hbit := Nat.le_of_mul_le_mul_right hhalves hpos
  rw [halves, hmantissa] at hbit
  rw [hmantissa] at hlower hupper
  omega

/-- A normal number with zeros behind its digits is rounded to the number. -/
theorem roundWithAccuracy_of_exact {m : Nat} {e : Int} (h : IsNormal m e) (s : Sign) (n : Nat) :
    roundWithAccuracy Format.binary64 s (m * 2 ^ n) (e - n) .exact = .finite s m e h.pos := by
  have hlog : (m * 2 ^ n).log2 = 52 + n := by
    rw [log2_mul_two_pow (Nat.ne_of_gt h.pos), h.log2_eq]
  have hleast := h.least
  have hdropped : droppedDigits .binary64 (m * 2 ^ n) (e - n) = n := by
    rw [hasPlaces_binary64.droppedDigits_eq, hlog]
    omega
  have hrounded : rounded .binary64 (m * 2 ^ n) (e - n) .exact = m := by
    rw [rounded, hdropped, roundedMantissa_shift_exact]
  have hagain : droppedDigits .binary64 m (e - n + n) = 0 := by
    rw [hasPlaces_binary64.droppedDigits_eq, h.log2_eq]
    omega
  have hcases := roundWithAccuracy_cases .binary64 s (m * 2 ^ n) (e - n) .exact
  simp only [hdropped, hrounded, hagain, Nat.pow_zero, Nat.div_one] at hcases
  rcases hcases with ⟨hzero, -⟩ | ⟨m₁, hpos, rfl, hround⟩
  · exact absurd hzero (Nat.ne_of_gt h.pos)
  · rw [hround]
    exact finite_congr rfl (by omega)

/-- A number that a double holds is not changed by rounding: `n · 2^f = m · 2^e`, where both sides
are scaled by `2^52`. -/
theorem round_eq_of_exact {m n : Nat} {e f : Int} (h : IsNormal m e) (s : Sign) (hf : -52 ≤ f)
    (he : -52 ≤ e) (hvalue : n * 2 ^ (f + 52).toNat = m * 2 ^ (e + 52).toNat) :
    UnpackedFloat.round Format.binary64 s n f = .finite s m e h.pos := by
  have hn : n ≠ 0 := by
    rintro rfl
    have hpos := Nat.mul_pos h.pos (Nat.two_pow_pos (e + 52).toNat)
    omega
  -- both have their highest digit in the same place
  have hlog := congrArg Nat.log2 hvalue
  rw [log2_mul_two_pow hn, log2_mul_two_pow (Nat.ne_of_gt h.pos), h.log2_eq] at hlog
  have hshift : (f - Format.binary64.targetExponent (totalExponent n f)).toNat = (f - e).toNat := by
    rw [hasPlaces_binary64.targetExponent_eq]
    omega
  have hexponent : f - (f - e).toNat = e - (e - f).toNat := by omega
  have hdigits : n * 2 ^ (f - e).toNat = m * 2 ^ (e - f).toNat := by
    have hsplit : (f + 52).toNat = (f - e).toNat + (min e f + 52).toNat := by omega
    have hsplit' : (e + 52).toNat = (e - f).toNat + (min e f + 52).toNat := by omega
    rw [hsplit, hsplit', Nat.pow_add, Nat.pow_add, ← Nat.mul_assoc, ← Nat.mul_assoc] at hvalue
    exact Nat.eq_of_mul_eq_mul_right (Nat.two_pow_pos _) hvalue
  rw [UnpackedFloat.round]
  simp only [decreaseExponent, hshift, Nat.shiftLeft_eq, hdigits, hexponent]
  exact roundWithAccuracy_of_exact h s _

/-! ## Doubles by their digits -/

namespace Double

variable {m : Nat} {e : Int}

/-- The positive double of a normal number. -/
def ofNormal (h : IsNormal m e) : Double :=
  ofFloat ⟨Float.Model.pack (.finite .positive m e h.pos)⟩

/-- The machine takes the double apart again. -/
theorem unpack_ofNormal (h : IsNormal m e) :
    (ofNormal h).toFloat.toModel.unpack = .finite .positive m e h.pos := by
  show UnpackedFloat.unpack Format.binary64 (UnpackedFloat.pack Format.binary64
    (UnpackedFloat.unpack Format.binary64 (UnpackedFloat.pack Format.binary64 _))) = _
  rw [unpack_pack h.lower h.isCanonical, unpack_pack h.lower h.isCanonical]

/-- The double is a number. -/
theorem isFinite_ofNormal (h : IsNormal m e) : (ofNormal h).isFinite = true :=
  InRange.isFinite h.greatest

/-- The bits of the double: the exponent before the digits behind the first one. -/
theorem bits_ofNormal (h : IsNormal m e) : (ofNormal h).bits.toNat
    = (e + 1075).toNat * 0x10000000000000 + (m - 0x10000000000000) := by
  have hlower := h.lower
  have hupper := h.upper
  have hleast := h.least
  have hgreatest := h.greatest
  have hbiased : (e + Format.binary64.exponentBias
      + Format.binary64.mantissaBitsWithoutImplicit).toNat = (e + 1075).toNat := by
    show (e + 1023 + 52).toNat = _
    omega
  have hpack : UnpackedFloat.pack Format.binary64 (.finite .positive m e h.pos)
      = packComponents Format.binary64 .positive (BitVec.ofNat 11 (e + 1075).toNat)
        (BitVec.ofNat 52 m) := by
    simp only [UnpackedFloat.pack, hbiased]
    rw [if_neg (by show ¬2048 ≤ (e + 1075).toNat + 1; omega),
      if_pos (by show m.log2 + 1 = 53; rw [h.log2_eq])]
  show (UnpackedFloat.pack Format.binary64 (.finite .positive m e h.pos)).toNat = _
  have hexponent : (BitVec.ofNat 11 (e + 1075).toNat).toNat = (e + 1075).toNat := by
    rw [BitVec.toNat_ofNat]
    exact Nat.mod_eq_of_lt (by omega)
  have hfraction : (BitVec.ofNat 52 m).toNat = m - 0x10000000000000 := by
    rw [BitVec.toNat_ofNat]
    show m % 0x10000000000000 = _
    omega
  have hsign : (0#1 ++ BitVec.ofNat 11 (e + 1075).toNat).toNat = (e + 1075).toNat := by
    rw [BitVec.toNat_append, hexponent]
    simp
  rw [hpack]
  show (0#1 ++ BitVec.ofNat 11 (e + 1075).toNat ++ BitVec.ofNat 52 m).toNat = _
  rw [BitVec.toNat_append, ← Nat.shiftLeft_add_eq_or_of_lt (BitVec.ofNat 52 m).isLt, hsign,
    hfraction, Nat.shiftLeft_eq]

/-- An operation that rounds to a normal number gives its double. -/
theorem lift₂_eq_ofNormal {op : Float → Float → Float} {x y : Double} (h : IsNormal m e)
    (hx : x.isFinite = true) (hy : y.isFinite = true)
    (hop : op x.toFloat y.toFloat = ⟨Float.Model.pack (.finite .positive m e h.pos)⟩) :
    lift₂ op x y = ofNormal h := by
  have hnumber : Float.isNaN ⟨Float.Model.pack (.finite .positive m e h.pos)⟩ = false := by
    show (UnpackedFloat.unpack Format.binary64 (UnpackedFloat.pack Format.binary64 _)).isNaN = false
    rw [unpack_pack h.lower h.isCanonical]
    rfl
  simp only [lift₂, isNaN_of_isFinite hx, isNaN_of_isFinite hy, hop, hnumber]
  rfl

/-! ## Whole numbers -/

/-- A normal number whose value is a whole number; both sides are scaled by `2^52`. -/
structure IsWhole (n m : Nat) (e : Int) : Prop extends IsNormal m e where
  exponent : -52 ≤ e
  value : n * 2 ^ 52 = m * 2 ^ (e + 52).toNat

/-- Each positive number below `2^53`, and each even one below `2^54`, is the value of a double. -/
theorem exists_isWhole {n : Nat} (hn : 0 < n) (hlimit : n < 0x40000000000000)
    (heven : n < 0x20000000000000 ∨ n % 2 = 0) :
    ∃ m e, IsWhole n m e ∧ e = (n.log2 : Int) - 52 := by
  have hself : 2 ^ n.log2 ≤ n := Nat.log2_self_le (by omega)
  have hnext : n < 2 ^ (n.log2 + 1) := Nat.lt_log2_self
  have hlog : n.log2 < 54 := (Nat.log2_lt (by omega)).2 hlimit
  by_cases hshort : n.log2 ≤ 52
  · -- zeros are put behind the digits
    have hpow : 2 ^ n.log2 * 2 ^ (52 - n.log2) = 0x10000000000000 := by
      rw [← Nat.pow_add, Nat.add_sub_cancel' hshort]
    have hlower := Nat.mul_le_mul_right (2 ^ (52 - n.log2)) hself
    have hupper := Nat.mul_lt_mul_of_pos_right hnext (Nat.two_pow_pos (52 - n.log2))
    rw [Nat.pow_succ, Nat.mul_right_comm, hpow] at hupper
    rw [hpow] at hlower
    refine ⟨n * 2 ^ (52 - n.log2), (n.log2 : Int) - 52, ⟨⟨hlower, hupper, by omega, by omega⟩,
      by omega, ?_⟩, rfl⟩
    have hplace : ((n.log2 : Int) - 52 + 52).toNat = n.log2 := by omega
    rw [hplace, Nat.mul_assoc, ← Nat.pow_add, Nat.sub_add_cancel hshort]
  · -- the last one of 54 digits is a zero
    have hlong : n.log2 = 53 := by omega
    have hpow : n.log2 + 1 = 54 := by omega
    rw [hlong] at hself
    have hplace : ((n.log2 : Int) - 52 + 52).toNat = 53 := by omega
    refine ⟨n / 2, (n.log2 : Int) - 52, ⟨⟨by omega, by omega, by omega, by omega⟩, by omega, ?_⟩,
      rfl⟩
    rw [hplace]
    omega

/-- The double nearest to a whole number that is the value of a double is that double. -/
theorem IsWhole.ofNat_eq {n : Nat} (h : IsWhole n m e) (hn : n < 0x10000000000000000) :
    ofNat n = ofNormal h.toIsNormal := by
  have hpos : 0 < n := by
    refine Nat.pos_of_ne_zero ?_
    rintro rfl
    have hvalue := h.value
    have := Nat.mul_pos h.pos (Nat.two_pow_pos (e + 52).toNat)
    omega
  have hround := round_eq_of_exact h.toIsNormal .positive (f := 0) (by decide) h.exponent h.value
  rw [ofNat_eq_round hpos hn, hround]
  rfl

/-- One is a whole number. -/
theorem isWhole_one : IsWhole 1 0x10000000000000 (-52) :=
  ⟨⟨by decide, by decide, by decide, by decide⟩, by decide, by decide⟩

/-- Ten is a whole number. -/
theorem isWhole_ten : IsWhole 10 0x14000000000000 (-49) :=
  ⟨⟨by decide, by decide, by decide, by decide⟩, by decide, by decide⟩

/-- Adding one to a double whose value is a whole number. -/
theorem IsWhole.add_one {n m' : Nat} {e' : Int} (h : IsWhole n m e) (h' : IsWhole (n + 1) m' e') :
    (ofNormal h.toIsNormal).add one = ofNormal h'.toIsNormal := by
  have hone : one = ofNormal isWhole_one.toIsNormal := by decide +kernel
  have hleast : min e (-52) = -52 := Int.min_eq_right h.exponent
  have hshift : (e - -52).toNat = (e + 52).toNat := by omega
  -- the exact sum, over the exponent of one
  have hsum : m * 2 ^ (e - -52).toNat + 0x10000000000000 * 2 ^ (-52 - -52 : Int).toNat
      = (n + 1) * 2 ^ 52 := by
    rw [hshift, ← h.value, Nat.add_mul]
    rfl
  have hround := round_eq_of_exact h'.toIsNormal .positive (n := (n + 1) * 2 ^ 52) (f := -52)
    (by decide) h'.exponent ((Nat.mul_one _).trans h'.value)
  rw [hone]
  refine lift₂_eq_ofNormal _ (isFinite_ofNormal _) (isFinite_ofNormal _) ?_
  show (⟨Float.Model.pack (UnpackedFloat.add Format.binary64 (ofNormal _).toFloat.toModel.unpack
    (ofNormal _).toFloat.toModel.unpack)⟩ : Float) = _
  rw [unpack_ofNormal, unpack_ofNormal]
  simp only [UnpackedFloat.add, decreaseExponent, Nat.shiftLeft_eq, hleast, Sign.apply]
  rw [← Int.natCast_add, hsum, UnpackedFloat.normalize]
  have hgt : compare (((n + 1) * 2 ^ 52 : Nat) : Int) 0 = .gt := by
    rw [Int.compare_eq_gt]
    omega
  rw [hgt]
  exact congrArg (fun u => (⟨Float.Model.pack u⟩ : Float)) hround

/-- The exponent is that of the highest digit of the whole number. -/
theorem IsWhole.bounds {n : Nat} (h : IsWhole n m e) :
    2 ^ (e + 52).toNat ≤ n ∧ n < 2 ^ (e + 53).toNat := by
  have hlower := Nat.mul_le_mul_right (2 ^ (e + 52).toNat) h.lower
  have hupper := Nat.mul_lt_mul_of_pos_right h.upper (Nat.two_pow_pos (e + 52).toNat)
  rw [← h.value] at hlower hupper
  have hexponent := h.exponent
  have hsucc : (e + 53).toNat = (e + 52).toNat + 1 := by omega
  rw [hsucc, Nat.pow_succ]
  omega

section TenTimes

variable {n m' : Nat} {e' : Int}

/-- The exponents of a number and of ten times the number are not far apart. -/
theorem IsWhole.exponent_le (h : IsWhole (10 * n) m e) (h' : IsWhole n m' e')
    (hn : n < 0x20000000000000) : e ≤ 4 ∧ e ≤ e' + 4 := by
  have hexponent := h.exponent
  have hexponent' := h'.exponent
  obtain ⟨hlower, -⟩ := h.bounds
  obtain ⟨-, hupper'⟩ := h'.bounds
  constructor
  · have hlt : 2 ^ (e + 52).toNat < 2 ^ 57 := by omega
    have := (Nat.pow_lt_pow_iff_right (by decide : 1 < 2)).1 hlt
    omega
  · have hlt : 2 ^ (e + 52).toNat < 2 ^ ((e' + 53).toNat + 4) := by
      rw [Nat.pow_add]
      omega
    have := (Nat.pow_lt_pow_iff_right (by decide : 1 < 2)).1 hlt
    omega

/-- Ten times a number is divided by ten without a remainder. -/
theorem IsWhole.mul_two_pow_eq (h : IsWhole (10 * n) m e) (hsmall : e ≤ 4) :
    m * 2 ^ 53 = n * 2 ^ (4 - e).toNat * 0x14000000000000 := by
  have hexponent := h.exponent
  refine Nat.eq_of_mul_eq_mul_right (Nat.two_pow_pos (e + 52).toNat) ?_
  have hplaces : (4 - e).toNat + (e + 52).toNat = 56 := by omega
  calc m * 2 ^ 53 * 2 ^ (e + 52).toNat
      = m * 2 ^ (e + 52).toNat * 2 ^ 53 := Nat.mul_right_comm ..
    _ = n * (2 ^ ((4 - e).toNat + (e + 52).toNat) * 0x14000000000000) := by
      rw [← h.value, hplaces]
      omega
    _ = n * 2 ^ (4 - e).toNat * 0x14000000000000 * 2 ^ (e + 52).toNat := by
      rw [Nat.pow_add]
      grind

/-- The quotient is the number with zeros behind it. -/
theorem IsWhole.quotient_eq (h' : IsWhole n m' e') (hsmall : e ≤ 4) (hnear : e ≤ e' + 4) :
    n * 2 ^ (4 - e).toNat = m' * 2 ^ (e' - e + 4).toNat := by
  have hexponent' := h'.exponent
  refine Nat.eq_of_mul_eq_mul_right (Nat.two_pow_pos 52) ?_
  have hplaces : (e' + 52).toNat + (4 - e).toNat = (e' - e + 4).toNat + 52 := by omega
  rw [Nat.mul_right_comm, h'.value, Nat.mul_assoc, Nat.mul_assoc, ← Nat.pow_add, ← Nat.pow_add,
    hplaces]

/-- Dividing ten times a whole number by ten. -/
theorem IsWhole.div_ten (h : IsWhole (10 * n) m e) (h' : IsWhole n m' e')
    (hn : n < 0x20000000000000) :
    (ofNormal h.toIsNormal).div (powerOfTen 1) = ofNormal h'.toIsNormal := by
  have hten : powerOfTen 1 = ofNormal isWhole_ten.toIsNormal := by decide +kernel
  have hexponent := h.exponent
  obtain ⟨hsmall, hnear⟩ := h.exponent_le h' hn
  have hquotient := h.mul_two_pow_eq hsmall
  have htarget : min (e - -49) (Format.binary64.targetExponent
      (totalExponent m e - totalExponent 0x14000000000000 (-49))) = e - 4 := by
    show min (e - -49) (Max.max ((m.log2 : Int) + 1 + e
      - ((Nat.log2 0x14000000000000 : Int) + 1 + -49) - 53) (-1074)) = e - 4
    rw [h.log2_eq, isWhole_ten.log2_eq]
    omega
  have hshift : (e - -49 - (e - 4)).toNat = 53 := by omega
  rw [hten]
  refine lift₂_eq_ofNormal _ (isFinite_ofNormal _) (isFinite_ofNormal _) ?_
  show (⟨Float.Model.pack (UnpackedFloat.div Format.binary64 (ofNormal _).toFloat.toModel.unpack
    (ofNormal _).toFloat.toModel.unpack)⟩ : Float) = _
  rw [unpack_ofNormal, unpack_ofNormal]
  simp only [UnpackedFloat.div, divCore, htarget, hshift, Nat.shiftLeft_eq, hquotient,
    Nat.mul_div_cancel _ (by decide : 0 < 0x14000000000000), Nat.mul_mod_left]
  have hround := roundWithAccuracy_of_exact h'.toIsNormal .positive (e' - e + 4).toNat
  have hplace : e' - (e' - e + 4).toNat = e - 4 := by omega
  rw [hplace, ← h'.quotient_eq hsmall hnear] at hround
  exact congrArg (fun u => (⟨Float.Model.pack u⟩ : Float)) hround

end TenTimes

end Double

/-! ## The shortest decimal -/

namespace Dyadic

namespace Interval

variable {i : Interval} {n : Nat}

/-- The interval of a whole number holds no other one. -/
structure IsWhole (i : Interval) (n : Nat) : Prop where
  value : i.value = n * i.den
  lower_lt : i.lower < i.value
  lt_upper : i.value < i.upper
  below : i.value < i.lower + i.den
  above : i.upper < i.value + i.den

/-- A whole decimal in the interval is the number itself. -/
theorem IsWhole.eq_of_holds (h : i.IsWhole n) {r k : Nat} (hholds : i.holds r k = true) :
    r * tenTo k = n := by
  obtain ⟨hlower, hupper⟩ := bounds_of_holds hholds
  have hgrid : r * i.denOn k = r * tenTo k * i.den := by
    rw [denOn, Int.toNat_natCast, Nat.mul_comm i.den, Nat.mul_assoc]
  have hscale : (-(k : Int)).toNat = 0 := by omega
  rw [hscale, tenTo_zero, Nat.mul_one, hgrid] at hlower hupper
  have hbelow := h.below
  have habove := h.above
  rw [h.value] at hbelow habove
  have hlt : n < r * tenTo k + 1 := by
    refine Nat.lt_of_mul_lt_mul_right (a := i.den) ?_
    rw [Nat.succ_mul]
    omega
  have hgt : r * tenTo k < n + 1 := by
    refine Nat.lt_of_mul_lt_mul_right (a := i.den) ?_
    rw [Nat.succ_mul]
    omega
  omega

/-- The number is found on the grid of whole numbers. -/
theorem IsWhole.exists_onGrid_zero (h : i.IsWhole n) (hden : 0 < i.den) :
    ∃ r, i.onGrid 0 = some r := by
  have hquotient : i.numOn 0 / i.denOn 0 = n := by
    show i.value * 1 / (i.den * 1) = n
    rw [Nat.mul_one, Nat.mul_one, h.value, Nat.mul_div_cancel n hden]
  refine exists_onGrid (.inl ?_)
  rw [hquotient]
  refine holds_of_lt ?_ ?_
  · show i.lower * 1 < n * (i.den * 1)
    rw [Nat.mul_one, Nat.mul_one, ← h.value]
    exact h.lower_lt
  · show n * (i.den * 1) < i.upper * 1
    rw [Nat.mul_one, Nat.mul_one, ← h.value]
    exact h.lt_upper

/-- The search from a whole power of ten ends at a decimal for the number. -/
theorem IsWhole.search_eq (h : i.IsWhole n) (hden : 0 < i.den) (k fuel : Nat) (hfuel : k < fuel) :
    ∃ r j : Nat, i.search fuel k = (r, (j : Int)) ∧ r * tenTo j = n := by
  induction k generalizing fuel with
  | zero =>
    obtain ⟨fuel, rfl⟩ := Nat.exists_eq_add_of_lt hfuel
    obtain ⟨r, hr⟩ := h.exists_onGrid_zero hden
    refine ⟨r, 0, ?_, h.eq_of_holds (holds_of_onGrid hr).1⟩
    have hgrid : i.onGrid ((0 : Nat) : Int) = some r := hr
    rw [Nat.zero_add, search, hgrid]
  | succ k ih =>
    obtain ⟨fuel, rfl⟩ : ∃ f, fuel = f + 1 := ⟨fuel - 1, by omega⟩
    rw [search]
    cases hgrid : i.onGrid ((k + 1 : Nat) : Int) with
    | some r => exact ⟨r, k + 1, rfl, h.eq_of_holds (holds_of_onGrid hgrid).1⟩
    | none =>
      have hnext : ((k + 1 : Nat) : Int) - 1 = k := by omega
      simp only [hnext]
      exact ih fuel (by omega)

end Interval

/-- The interval of a number without digits behind the point is in quarters of its last digit. -/
theorem den_interval {d : Dyadic} (hq : d.q ≤ 0) : d.interval.den = 4 * 2 ^ (-d.q).toNat := by
  show twoTo (2 - d.q).toNat = _
  have hsplit : (2 - d.q).toNat = 2 + (-d.q).toNat := by omega
  rw [hsplit, twoTo_eq, Nat.pow_add]

/-- The interval of a whole number. -/
theorem isWhole_interval {d : Dyadic} {n : Nat} (hn : 0 < n) (hq : d.q ≤ 0)
    (hm : d.m = n * 2 ^ (-d.q).toNat) : d.interval.IsWhole n := by
  have hden := den_interval hq
  have hunit : twoTo (d.q - 2).toNat = 1 := by
    have hzero : (d.q - 2).toNat = 0 := by omega
    rw [hzero, twoTo_zero]
  have hscaled : 4 * d.m = n * (4 * 2 ^ (-d.q).toNat) := by
    rw [hm]
    grind
  have hgreat : 4 * 2 ^ (-d.q).toNat ≤ 4 * d.m := by
    rw [hscaled]
    exact Nat.le_mul_of_pos_left _ hn
  have hpos : 0 < 2 ^ (-d.q).toNat := Nat.two_pow_pos _
  have hvalue : d.interval.value = 4 * d.m := by
    show 4 * d.m * twoTo (d.q - 2).toNat = _
    rw [hunit, Nat.mul_one]
  have hlower : d.interval.lower = 4 * d.m - (if d.lowest then 1 else 2) := by
    show (4 * d.m - (if d.lowest then 1 else 2)) * twoTo (d.q - 2).toNat = _
    rw [hunit, Nat.mul_one]
  have hupper : d.interval.upper = 4 * d.m + 2 := by
    show (4 * d.m + 2) * twoTo (d.q - 2).toNat = _
    rw [hunit, Nat.mul_one]
  constructor
  · rw [hvalue, hden, hscaled]
  · rw [hvalue, hlower]
    split <;> omega
  · rw [hvalue, hupper]
    omega
  · rw [hvalue, hlower, hden]
    split <;> omega
  · rw [hvalue, hupper, hden]
    omega

/-- The shortest decimal of a whole number is the number itself. -/
theorem shortest_of_whole {d : Dyadic} {n : Nat} (hn : 0 < n) (hlimit : n < tenTo 16)
    (hq : d.q ≤ 0) (hm : d.m = n * 2 ^ (-d.q).toNat) :
    ∃ r k : Nat, d.shortest = (r, (k : Int)) ∧ r * tenTo k = n := by
  have hwhole := isWhole_interval hn hq hm
  have hdenpos : 0 < d.interval.den := by
    have hpos := Nat.two_pow_pos (-d.q).toNat
    rw [den_interval hq]
    omega
  have hhighest : highestExponent d.interval.value d.interval.den
      = ((digitCount n - 1 : Nat) : Int) := by
    have hcount := digitCount_pos n
    rw [highestExponent, hwhole.value, if_pos (Nat.le_mul_of_pos_left _ hn),
      Nat.mul_div_cancel n hdenpos]
    omega
  have hdigits : digitCount n ≤ 16 := length_natDigits_le (by decide) hlimit
  obtain ⟨r, j, hsearch, hvalue⟩ := hwhole.search_eq hdenpos (digitCount n - 1) 17
    (by omega)
  obtain ⟨r', l, hstrip, hzeros⟩ := stripZeros_spec 20 r j
  refine ⟨r', j + l, ?_, ?_⟩
  · rw [shortest, hhighest, hsearch]
    exact hstrip
  · rw [Nat.add_comm j, tenTo_add, ← Nat.mul_assoc, ← hzeros, hvalue]

end Dyadic

/-! ## Counting and reading back -/

namespace Double

variable {m n : Nat} {e : Int}

/-- Adding one to a whole number below `2^53` is exact. -/
theorem add_one_ofNat (hn : n < 0x20000000000000) : (ofNat n).add one = ofNat (n + 1) := by
  rcases Nat.eq_zero_or_pos n with rfl | hpos
  · decide +kernel
  · obtain ⟨m, e, h, -⟩ := exists_isWhole hpos (by omega) (.inl hn)
    obtain ⟨m', e', h', -⟩ := exists_isWhole (n := n + 1) (by omega) (by omega) (by omega)
    rw [h.ofNat_eq (by omega), h'.ofNat_eq (by omega), h.add_one h']

/-- Adding zero to a whole number changes nothing. -/
theorem add_zero_ofNat (hn : n < 0x20000000000000) : (ofNat n).add zero = ofNat n := by
  rcases Nat.eq_zero_or_pos n with rfl | hpos
  · decide +kernel
  · obtain ⟨m, e, h, -⟩ := exists_isWhole hpos (by omega) (.inl hn)
    have hzero : zero.toFloat.toModel.unpack = .zero .positive := rfl
    rw [h.ofNat_eq (by omega)]
    refine lift₂_eq_ofNormal _ (isFinite_ofNormal _) (by decide) ?_
    show (⟨Float.Model.pack (UnpackedFloat.add Format.binary64 (ofNormal _).toFloat.toModel.unpack
      zero.toFloat.toModel.unpack)⟩ : Float) = _
    rw [unpack_ofNormal, hzero]
    rfl

/-- The digits of a double are in its bits. -/
theorem ofBits_ofNormal (h : IsNormal m e) :
    ∃ lowest, Dyadic.ofBits (ofNormal h).bits = ⟨m, e, lowest⟩ := by
  have hbits := bits_ofNormal h
  have hlower := h.lower
  have hupper := h.upper
  have hleast := h.least
  have hgreatest := h.greatest
  have hfraction : (ofNormal h).bits.toNat % 0x10000000000000 = m - 0x10000000000000 := by omega
  have hexponent : (ofNormal h).bits.toNat / 0x10000000000000 % 0x800 = (e + 1075).toNat := by omega
  simp only [Dyadic.ofBits, Dyadic.fractionRange, hfraction, hexponent]
  rw [if_neg (by omega)]
  have hm : 0x10000000000000 + (m - 0x10000000000000) = m := by omega
  have he : ((e + 1075).toNat : Int) - 1075 = e := by omega
  rw [hm, he]
  exact ⟨_, rfl⟩

/-- A whole number is written with a zero behind the point. -/
theorem IsWhole.numeral? (h : IsWhole n m e) (he : e ≤ 0) (hn : n < tenTo 16) :
    ∃ digits, (ofNormal h.toIsNormal).numeral? = some ⟨false, digits, ['0'], none⟩ ∧
      digitsValue (digits ++ ['0']) = 10 * n := by
  have hbits := bits_ofNormal h.toIsNormal
  have hlower := h.lower
  have hupper := h.upper
  have hexponent := h.exponent
  have hmagnitude : (ofNormal h.toIsNormal).magnitude ≠ 0 := by
    rw [magnitude]
    omega
  have hsign : (ofNormal h.toIsNormal).isNegative = false := by
    rw [isNegative]
    exact decide_eq_false (by omega)
  have hpos : 0 < n := Nat.lt_of_lt_of_le (Nat.two_pow_pos _) h.bounds.1
  have hm : m = n * 2 ^ (-e).toNat := by
    refine Nat.eq_of_mul_eq_mul_right (Nat.two_pow_pos (e + 52).toNat) ?_
    have hplaces : (-e).toNat + (e + 52).toNat = 52 := by omega
    rw [← h.value, Nat.mul_assoc, ← Nat.pow_add, hplaces]
  obtain ⟨lowest, hdyadic⟩ := ofBits_ofNormal h.toIsNormal
  obtain ⟨r, k, hshortest, hvalue⟩ :=
    Dyadic.shortest_of_whole (d := ⟨m, e, lowest⟩) hpos hn he hm
  -- the number has no more than sixteen digits, the zeros at its end included
  have hplaces : ((natDigits r).length : Int) + k ≤ positionalDigits := by
    have hr : 0 < r := by
      refine Nat.pos_of_ne_zero ?_
      rintro rfl
      omega
    have hcount := Dyadic.digitCount_pos r
    have hpow : tenTo (Dyadic.digitCount r - 1 + k) ≤ n := by
      rw [← hvalue, tenTo_add]
      exact Nat.mul_le_mul_right _ (Dyadic.tenTo_digitCount_le hr)
    have hlt : Dyadic.digitCount r - 1 + k < 16 := by
      refine Nat.lt_of_not_le fun hle => ?_
      have := tenTo_mono hle
      omega
    show ((Dyadic.digitCount r : Nat) : Int) + k ≤ 16
    omega
  refine ⟨natDigits r ++ List.replicate k '0', ?_, ?_⟩
  · simp only [Double.numeral?, isFinite_ofNormal, hmagnitude, hdyadic, hshortest, hsign,
      decimalNumeral, Int.natCast_nonneg, hplaces]
    rfl
  · have hzeros : digitsValue (List.replicate k '0' ++ ['0']) = 0 :=
      digitsValue_zeros_append k ['0']
    rw [List.append_assoc, digitsValue_append, digitsValue_natDigits, hzeros, List.length_append,
      List.length_replicate, List.length_singleton, tenTo_succ, ← hvalue]
    grind

/-- Ten times a smaller number is below `2^54`. -/
def wholeLimit : Nat := 1801439850948199

/-- A whole number below the limit is read back as it was written. -/
theorem read_ofNat (hn : n < wholeLimit) :
    Json.double? (Json.ofDouble (ofNat n)) = some (ofNat n) := by
  rcases Nat.eq_zero_or_pos n with rfl | hpos
  · decide +kernel
  · have hlimit : n < 1801439850948199 := hn
    obtain ⟨m, e, h, he⟩ := exists_isWhole hpos (by omega) (.inl (by omega))
    obtain ⟨m', e', h', -⟩ := exists_isWhole (n := 10 * n) (by omega) (by omega) (.inr (by omega))
    have hlog : n.log2 < 53 := (Nat.log2_lt (by omega)).2 (by omega)
    obtain ⟨digits, hnumeral, hdigits⟩ := h.numeral? (by omega)
      (Nat.lt_trans hn (by decide))
    have hfits : digitsValue (digits ++ ['0']) ≤ significandLimit := by
      rw [hdigits, significandLimit]
      omega
    rw [h.ofNat_eq (by omega), Json.ofDouble, hnumeral]
    show Numeral.double? _ = _
    rw [Numeral.double?_eq hfits]
    simp only [hdigits, Significand.toDouble]
    have hscaled : scaled (10 * n) (-(['0'].length : Int)) = some (ofNormal h.toIsNormal) := by
      show some (scaleDown (ofNat (10 * n)) 1) = _
      rw [scaleDown, if_pos (by decide), h'.ofNat_eq (by omega), h'.div_ten h (by omega)]
    rw [hscaled]
    rfl

end Double

end Audience
