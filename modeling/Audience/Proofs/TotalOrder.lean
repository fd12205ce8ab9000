import Audience.Proofs.Rounding

/-! # The total order of doubles

Sums and mean rewards are compared by a key that is read off the bits. The key puts doubles in the
total order of IEEE 754: numbers by their values, minus zero below zero, and the NaNs at the two
ends by their signs and the rest of their bits.

* **`Double.IsBelow x y`** — the total order, by the comparison of numbers.
* **`Double.lt_iff`** — numbers are compared like the rest of their bits with their signs.
* **`Double.isBelow_iff`** — the key is the one of the total order. -/

namespace Audience

open Float.Model Float.Model.UnpackedFloat

/-! ## Numbers that are taken apart -/

/-- The bits of significand and exponent of a number other than zero. -/
def magnitudeOf (m : Nat) (e : Int) : Int := (e + 1074) * 0x10000000000000 + m

/-- The bits of a number without its sign, and minus those for a negative one. -/
def signedBits : UnpackedFloat → Int
  | .zero _ => 0
  | .finite s m e _ => s.apply (magnitudeOf m e)
  | .infinity s => s.apply Double.infinityMagnitude
  | .notANumber => 0

/-- An infinity, or a number that is taken apart. -/
def IsComparable : UnpackedFloat → Prop
  | .infinity _ => True
  | u => IsUnpacked u

/-- What is taken apart can be compared. -/
theorem IsUnpacked.isComparable {u : UnpackedFloat} (h : IsUnpacked u) : IsComparable u := by
  cases u with
  | infinity s => trivial
  | notANumber | zero | finite => exact h

/-- Comparing is turned round when both signs change. -/
theorem swap_compare (a b : Int) : (compare a b).swap = compare (-a) (-b) := by
  rcases lt_trichotomy a b with hlt | rfl | hgt
  · rw [compare_lt_iff_lt.2 hlt, compare_gt_iff_gt.2 (Int.neg_lt_neg hlt)]
    rfl
  · rw [compare_eq_iff_eq.2 rfl, compare_eq_iff_eq.2 rfl]
    rfl
  · rw [compare_gt_iff_gt.2 hgt, compare_lt_iff_lt.2 (Int.neg_lt_neg hgt)]
    rfl

namespace IsCanonical

variable {m m' : Nat} {e e' : Int}

/-- The bits of a number other than zero are between those of zero and infinity. -/
theorem magnitudeOf_bounds (h : IsCanonical m e) (hm : 0 < m) :
    0 < magnitudeOf m e ∧ magnitudeOf m e < Double.infinityMagnitude := by
  obtain ⟨hsignificand, hleast, hgreatest, -⟩ := h
  simp only [magnitudeOf, Double.infinityMagnitude]
  omega

/-- Comparing exponents and then significands is comparing bits. -/
theorem compare_eq (h : IsCanonical m e) (h' : IsCanonical m' e') :
    (compare e e').then (compare m m') = compare (magnitudeOf m e) (magnitudeOf m' e') := by
  obtain ⟨hm, hleast, -, hnormal⟩ := h
  obtain ⟨hm', hleast', -, hnormal'⟩ := h'
  simp only [magnitudeOf]
  rcases lt_trichotomy e e' with hlt | rfl | hgt
  · -- the greater exponent is not the least one, so its significand has all its digits
    rw [compare_lt_iff_lt.2 hlt, Ordering.lt_then]
    exact (compare_lt_iff_lt.2 (by omega)).symm
  · rw [compare_eq_iff_eq.2 rfl, Ordering.eq_then]
    rcases lt_trichotomy m m' with hlt | rfl | hgt
    · rw [compare_lt_iff_lt.2 hlt, compare_lt_iff_lt.2 (by omega)]
    · rw [compare_eq_iff_eq.2 rfl, compare_eq_iff_eq.2 rfl]
    · rw [compare_gt_iff_gt.2 hgt, compare_gt_iff_gt.2 (by omega)]
  · rw [compare_gt_iff_gt.2 hgt, Ordering.gt_then]
    exact (compare_gt_iff_gt.2 (by omega)).symm

/-- Numbers other than zero and the infinities are compared by their bits. -/
theorem compare_finite (h : IsCanonical m e) (h' : IsCanonical m' e') (hm : 0 < m) (hm' : 0 < m')
    (s s' : Sign) : (UnpackedFloat.finite s m e hm).compare (.finite s' m' e' hm')
      = some (compare (s.apply (magnitudeOf m e)) (s'.apply (magnitudeOf m' e'))) := by
  have hpos := (h.magnitudeOf_bounds hm).1
  have hpos' := (h'.magnitudeOf_bounds hm').1
  have hsame := h.compare_eq h'
  cases s with
  | negative =>
    cases s' with
    | negative => exact congrArg some ((congrArg Ordering.swap hsame).trans (swap_compare _ _))
    | positive =>
      refine congrArg some (compare_lt_iff_lt.2 ?_).symm
      simp only [Sign.apply]
      omega
  | positive =>
    cases s' with
    | negative =>
      refine congrArg some (compare_gt_iff_gt.2 ?_).symm
      simp only [Sign.apply]
      omega
    | positive => exact congrArg some hsame

end IsCanonical

/-- Numbers are compared by their bits. -/
theorem compare_unpacked {u v : UnpackedFloat} (hu : IsComparable u) (hv : IsComparable v) :
    u.compare v = some (compare (signedBits u) (signedBits v)) := by
  -- zeros count as nothing whatever their signs, and infinities are beyond every number
  cases u with
  | notANumber => exact absurd hu id
  | infinity s =>
    cases v with
    | notANumber => exact absurd hv id
    | infinity s' => cases s <;> cases s' <;> rfl
    | zero s' => cases s <;> rfl
    | finite s' m e hm =>
      obtain ⟨hpos, hlt⟩ := IsCanonical.magnitudeOf_bounds hv hm
      cases s with
      | negative =>
        refine congrArg some (compare_lt_iff_lt.2 ?_).symm
        cases s' <;> simp only [signedBits, Sign.apply] <;> omega
      | positive =>
        refine congrArg some (compare_gt_iff_gt.2 ?_).symm
        cases s' <;> simp only [signedBits, Sign.apply] <;> omega
  | zero s =>
    cases v with
    | notANumber => exact absurd hv id
    | infinity s' => cases s' <;> rfl
    | zero s' => rfl
    | finite s' m e hm =>
      have hpos := (IsCanonical.magnitudeOf_bounds hv hm).1
      cases s' with
      | negative => exact congrArg some (compare_gt_iff_gt.2 (Int.neg_neg_of_pos hpos)).symm
      | positive => exact congrArg some (compare_lt_iff_lt.2 hpos).symm
  | finite s m e hm =>
    obtain ⟨hpos, hlt⟩ := IsCanonical.magnitudeOf_bounds hu hm
    cases v with
    | notANumber => exact absurd hv id
    | infinity s' =>
      cases s' with
      | negative =>
        have hgt : signedBits (.infinity .negative) < signedBits (.finite s m e hm) := by
          cases s <;> simp only [signedBits, Sign.apply] <;> omega
        rw [compare_gt_iff_gt.2 hgt]
        cases s <;> rfl
      | positive =>
        have hlt' : signedBits (.finite s m e hm) < signedBits (.infinity .positive) := by
          cases s <;> simp only [signedBits, Sign.apply] <;> omega
        rw [compare_lt_iff_lt.2 hlt']
        cases s <;> rfl
    | zero s' =>
      cases s with
      | negative => exact congrArg some (compare_lt_iff_lt.2 (Int.neg_neg_of_pos hpos)).symm
      | positive => exact congrArg some (compare_gt_iff_gt.2 hpos).symm
    | finite s' m' e' hm' => exact IsCanonical.compare_finite hu hv hm hm' s s'

namespace Double

variable {x y : Double}

/-! ## Doubles that are taken apart -/

/-- A double is a NaN exactly if its bits are. -/
theorem isNaNBits_eq (x : Double) : @isNaNBits Format.binary64 x.bits.toBitVec = x.isNaN := by
  have hexponent := toNat_unpackExponent_binary64 x.bits.toBitVec
  have hmantissa := toNat_unpackMantissa x.bits.toBitVec
  have hbits : x.bits.toBitVec.toNat = x.bits.toNat := rfl
  rw [hbits] at hexponent hmantissa
  rw [isNaNBits, isNaN, Bool.eq_iff_iff, decide_eq_true_eq, decide_eq_true_eq, magnitude,
    infinityMagnitude, ← BitVec.toNat_inj, ne_eq, ← BitVec.toNat_inj, hexponent, hmantissa]
  show _ = 0x7FF ∧ ¬_ = 0 ↔ _
  omega

/-- A double that is not a NaN is taken apart by its own bits. -/
theorem unpack_toFloat (h : x.isNaN = false) :
    x.toFloat.toModel.unpack = UnpackedFloat.unpack Format.binary64 x.bits.toBitVec := by
  show UnpackedFloat.unpack Format.binary64 (UnpackedFloat.pack Format.binary64
    (UnpackedFloat.unpack Format.binary64 x.bits.toBitVec)) = _
  rw [pack_unpack, isNaNBits_eq, h]
  rfl

/-- A NaN is taken apart as no number. -/
theorem unpack_of_isNaN (h : x.isNaN = true) : x.toFloat.toModel.unpack = .notANumber := by
  show UnpackedFloat.unpack Format.binary64 (UnpackedFloat.pack Format.binary64
    (UnpackedFloat.unpack Format.binary64 x.bits.toBitVec)) = _
  rw [pack_unpack, isNaNBits_eq, if_pos h, packedNaN, UnpackedFloat.unpack]
  simp only [unpackExponent_packComponents, unpackMantissa_packComponents]
  rw [if_pos trivial, if_neg (by decide)]

/-- The sign of a double. -/
def sign (x : Double) : Sign := if x.isNegative then .negative else .positive

/-- The sign that is taken apart is the sign of the double. -/
theorem ofBitVec_unpackSign (x : Double) :
    Sign.ofBitVec (@unpackSign Format.binary64 x.bits.toBitVec) = x.sign := by
  have hlt := x.bits.toNat_lt
  have hsign : (@unpackSign Format.binary64 x.bits.toBitVec).toNat
      = x.bits.toNat / 0x8000000000000000 := by
    show (x.bits.toNat >>> 63) % 2 = _
    rw [Nat.shiftRight_eq_div_pow, Nat.mod_eq_of_lt (by omega)]
  have hzero : @unpackSign Format.binary64 x.bits.toBitVec = 0#1 ↔ ¬x.isNegative = true := by
    rw [← BitVec.toNat_inj, hsign, isNegative, decide_eq_true_eq]
    show _ = 0 ↔ _
    omega
  rw [Sign.ofBitVec, sign]
  by_cases hneg : x.isNegative = true
  · rw [if_neg (by simp [hzero, hneg]), if_pos hneg]
  · rw [if_pos (hzero.2 hneg), if_neg hneg]

/-- The magnitude of a double is its exponent with its fraction behind it. -/
theorem magnitude_eq (x : Double) :
    x.magnitude = (@unpackExponent Format.binary64 x.bits.toBitVec).toNat * 0x10000000000000
      + (@unpackMantissa Format.binary64 x.bits.toBitVec).toNat := by
  rw [magnitude, toNat_unpackExponent_binary64, toNat_unpackMantissa]
  show x.bits.toNat % _ = x.bits.toNat / _ % _ * _ + x.bits.toNat % _
  omega

/-- A double that is not a NaN has the bits of its magnitude, with its sign. -/
theorem signedBits_unpack (h : x.isNaN = false) :
    signedBits (UnpackedFloat.unpack Format.binary64 x.bits.toBitVec)
      = x.sign.apply x.magnitude := by
  rw [← ofBitVec_unpackSign, UnpackedFloat.unpack]
  simp only
  split
  case isTrue hinfinite =>
    -- the greatest exponent: an infinity, since the double is not a NaN
    split
    case isTrue hzero =>
      rw [signedBits, magnitude_eq, hinfinite, hzero]
      rfl
    case isFalse hnan =>
      have hbits := isNaNBits_eq x
      rw [h, isNaNBits, decide_eq_false_iff_not] at hbits
      exact absurd ⟨hinfinite, hnan⟩ hbits
  case isFalse =>
    split
    case isTrue hleast =>
      -- the least exponent: zero, or a number whose digits are all among the bits
      have hexponent : (@unpackExponent Format.binary64 x.bits.toBitVec).toNat = 0 := by
        rw [hleast]
        rfl
      split
      case isTrue hzero =>
        have hfraction : (@unpackMantissa Format.binary64 x.bits.toBitVec).toNat = 0 := by
          rw [hzero]
          rfl
        rw [signedBits, magnitude_eq, hexponent, hfraction]
        cases Sign.ofBitVec (@unpackSign Format.binary64 x.bits.toBitVec) <;> rfl
      case isFalse =>
        have hmagnitude : magnitudeOf (@unpackMantissa Format.binary64 x.bits.toBitVec).toNat
            (-1074) = x.magnitude := by
          rw [magnitudeOf, magnitude_eq, hexponent]
          omega
        rw [← hmagnitude, signedBits, hleast]
        rfl
    case isFalse =>
      -- the first digit of the significand is not among the bits
      have hone : (1#1 ++ @unpackMantissa Format.binary64 x.bits.toBitVec).toNat
          = 0x10000000000000 + (@unpackMantissa Format.binary64 x.bits.toBitVec).toNat := by
        rw [BitVec.toNat_append]
        exact (Nat.shiftLeft_add_eq_or_of_lt (BitVec.isLt _) 1).symm
      have hmagnitude : magnitudeOf (0x10000000000000 + (@unpackMantissa Format.binary64
          x.bits.toBitVec).toNat) ((@unpackExponent Format.binary64 x.bits.toBitVec).toNat - 1075)
            = x.magnitude := by
        rw [magnitudeOf, magnitude_eq]
        omega
      rw [signedBits, hone, ← hmagnitude]
      rfl

/-- A double that is not a NaN can be compared. -/
theorem isComparable_unpack (h : x.isNaN = false) :
    IsComparable (UnpackedFloat.unpack Format.binary64 x.bits.toBitVec) := by
  rw [isNaN, decide_eq_false_iff_not, Nat.not_lt] at h
  rcases Nat.lt_or_eq_of_le h with hlt | heq
  · exact (isUnpacked_unpack ((isFinite_iff x).1 (decide_eq_true hlt))).isComparable
  · -- the bits of an infinity
    rw [magnitude_eq, infinityMagnitude] at heq
    have hfraction := (@unpackMantissa Format.binary64 x.bits.toBitVec).isLt
    change _ < 0x10000000000000 at hfraction
    have hexponent : @unpackExponent Format.binary64 x.bits.toBitVec = -1#11 := by
      apply BitVec.eq_of_toNat_eq
      show _ = 0x7FF
      omega
    have hzero : @unpackMantissa Format.binary64 x.bits.toBitVec = 0#52 := by
      apply BitVec.eq_of_toNat_eq
      show _ = 0
      omega
    rw [UnpackedFloat.unpack]
    simp only
    rw [if_pos hexponent, if_pos hzero]
    trivial

/-- One double is less than another one if both are numbers and their magnitudes with their signs
are in this order. -/
theorem lt_iff : x.lt y = true ↔ x.isNaN = false ∧ y.isNaN = false ∧
    x.sign.apply x.magnitude < y.sign.apply y.magnitude := by
  have hlt : x.lt y = true ↔ x.toFloat.toModel.unpack.lt y.toFloat.toModel.unpack = true := by
    rw [Double.lt, decide_eq_true_eq]
    show decide _ = true ↔ _
    rw [decide_eq_true_eq]
    rfl
  rw [hlt, UnpackedFloat.lt, beq_iff_eq]
  cases hx : x.isNaN with
  | true => simp [unpack_of_isNaN hx, UnpackedFloat.compare]
  | false =>
    cases hy : y.isNaN with
    | true =>
      rw [unpack_of_isNaN hy]
      cases x.toFloat.toModel.unpack <;> simp [UnpackedFloat.compare]
    | false =>
      rw [unpack_toFloat hx, unpack_toFloat hy, compare_unpacked (isComparable_unpack hx)
        (isComparable_unpack hy), signedBits_unpack hx, signedBits_unpack hy]
      simp [compare_lt_iff_lt]

/-! ## The total order -/

/-- The total order of IEEE 754. -/
inductive IsBelow : Double → Double → Prop
  /-- Numbers are ordered by their values. -/
  | value {x y : Double} (h : x.lt y = true) : IsBelow x y
  /-- Minus zero is below zero. -/
  | zeros : IsBelow minusZero zero
  /-- A NaN with a minus sign is below all that is none. -/
  | negativeNaN {x y : Double} (hx : x.isNaN = true ∧ x.isNegative = true)
      (hy : ¬(y.isNaN = true ∧ y.isNegative = true)) : IsBelow x y
  /-- A NaN with a plus sign is above all that is none. -/
  | positiveNaN {x y : Double} (hx : ¬(x.isNaN = true ∧ x.isNegative = false))
      (hy : y.isNaN = true ∧ y.isNegative = false) : IsBelow x y
  /-- NaNs with a minus sign go down with the rest of their bits. -/
  | negativeNaNs {x y : Double} (hx : x.isNaN = true ∧ x.isNegative = true)
      (hy : y.isNaN = true ∧ y.isNegative = true) (h : y.magnitude < x.magnitude) : IsBelow x y
  /-- NaNs with a plus sign go up with the rest of their bits. -/
  | positiveNaNs {x y : Double} (hx : x.isNaN = true ∧ x.isNegative = false)
      (hy : y.isNaN = true ∧ y.isNegative = false) (h : x.magnitude < y.magnitude) : IsBelow x y

/-- Doubles with the same key are the same. -/
theorem order_inj : x.order = y.order ↔ x = y :=
  ⟨fun h => order_injective h, congrArg order⟩

/-- The key of a double with a minus sign. -/
theorem order_of_isNegative (h : x.isNegative = true) : x.order = -(x.magnitude : Int) - 1 :=
  if_pos h

/-- The key of a double with a plus sign. -/
theorem order_of_not_isNegative (h : x.isNegative = false) : x.order = x.magnitude :=
  if_neg (by simp [h])

/-- Apart from the two zeros, numbers are ordered by their values. -/
theorem lt_iff_order_lt (hx : x.isNaN = false) (hy : y.isNaN = false) :
    x.lt y = true ↔ x.order < y.order ∧ ¬(x = minusZero ∧ y = zero) := by
  have hzeros : x = minusZero ∧ y = zero ↔ x.order = -1 ∧ y.order = 0 := by
    rw [← order_inj, ← order_inj]
    rfl
  -- the keys of negative doubles are one lower than minus their bits: only the zeros tell
  rw [lt_iff, hzeros, sign, sign]
  cases hx' : x.isNegative <;> cases hy' : y.isNegative <;>
    simp only [hx, hy, order_of_isNegative, order_of_not_isNegative, hx', hy', Sign.apply,
      true_and, if_true, Bool.false_eq_true, if_false] <;>
    omega

/-- The keys of the NaNs with a minus sign are the lowest ones. -/
theorem order_lt_iff : x.order < -(infinityMagnitude : Int) - 1 ↔
    x.isNaN = true ∧ x.isNegative = true := by
  rw [isNaN, decide_eq_true_eq]
  cases hx : x.isNegative with
  | true =>
    rw [order_of_isNegative hx, and_iff_left rfl]
    omega
  | false =>
    rw [order_of_not_isNegative hx]
    simp only [Bool.false_eq_true, and_false, iff_false]
    omega

/-- The keys of the NaNs with a plus sign are the highest ones. -/
theorem lt_order_iff : (infinityMagnitude : Int) < x.order ↔
    x.isNaN = true ∧ x.isNegative = false := by
  rw [isNaN, decide_eq_true_eq]
  cases hx : x.isNegative with
  | true =>
    rw [order_of_isNegative hx]
    simp only [Bool.true_eq_false, and_false, iff_false]
    omega
  | false =>
    rw [order_of_not_isNegative hx, and_iff_left rfl]
    omega

/-- The key puts doubles in the total order. -/
theorem isBelow_iff : x.IsBelow y ↔ x.order < y.order := by
  constructor
  · intro h
    cases h with
    | value h =>
      obtain ⟨hx, hy, -⟩ := lt_iff.1 h
      exact ((lt_iff_order_lt hx hy).1 h).1
    | zeros => decide
    | negativeNaN hx hy =>
      rw [← order_lt_iff] at hx hy
      omega
    | positiveNaN hx hy =>
      rw [← lt_order_iff] at hx hy
      omega
    | negativeNaNs hx hy h =>
      rw [order_of_isNegative hx.2, order_of_isNegative hy.2]
      omega
    | positiveNaNs hx hy h =>
      rw [order_of_not_isNegative hx.2, order_of_not_isNegative hy.2]
      exact Int.ofNat_lt.2 h
  · intro h
    by_cases hx : x.isNaN = true ∧ x.isNegative = true
    · by_cases hy : y.isNaN = true ∧ y.isNegative = true
      · rw [order_of_isNegative hx.2, order_of_isNegative hy.2] at h
        exact .negativeNaNs hx hy (by omega)
      · exact .negativeNaN hx hy
    · by_cases hy : y.isNaN = true ∧ y.isNegative = false
      · by_cases hx' : x.isNaN = true ∧ x.isNegative = false
        · rw [order_of_not_isNegative hx'.2, order_of_not_isNegative hy.2] at h
          exact .positiveNaNs hx' hy (Int.ofNat_lt.1 h)
        · exact .positiveNaN hx' hy
      · -- neither is a NaN: one with the other sign would be on the wrong side
        have hx' : ¬(x.isNaN = true ∧ x.isNegative = false) := by
          rw [← lt_order_iff] at hy ⊢
          omega
        have hy' : ¬(y.isNaN = true ∧ y.isNegative = true) := by
          rw [← order_lt_iff] at hx ⊢
          omega
        have hxnumber : x.isNaN = false := by grind
        have hynumber : y.isNaN = false := by grind
        by_cases hzeros : x = minusZero ∧ y = zero
        · rw [hzeros.1, hzeros.2]
          exact .zeros
        · exact .value ((lt_iff_order_lt hxnumber hynumber).2 ⟨h, hzeros⟩)

end Double

end Audience
