import Mathlib
import Audience.Number.Double

/-! # Rounding that stays finite

The arithmetic of doubles takes its operands apart into a significand and an exponent, computes
exactly and rounds. A result that is not too great rounds to a number a double can hold, so adding a
small number to a number and dividing it by one that is one at least never give an infinity.

* **`IsUnpacked u`** — a number as it is taken apart, and **`InRange u`**, one that can be put
  together.
* **`HasPlaces spec p l`** — a format with its places and its least exponent, and
  **`HasPlaces.roundWithAccuracy_normal`**, what rounding to it gives and how far it goes up.
* **`inRange_roundWithAccuracy`** — which numbers can be held after rounding.
* **`Double.isFinite_add`**, **`Double.isFinite_div`**, **`Double.isFinite_mul`** — results that are
  numbers. -/

namespace Audience

open Float.Model Float.Model.UnpackedFloat

/-! ## Bits -/

/-- The exponent in the bits of a number. -/
theorem toNat_unpackExponent (spec : Format) (b : BitVec spec.numBits) : (unpackExponent b).toNat
    = b.toNat / 2 ^ spec.mantissaBitsWithoutImplicit % 2 ^ spec.exponentBits := by
  have hbits : spec.mantissaBitsWithoutImplicit + spec.exponentBits - 1
      - spec.mantissaBitsWithoutImplicit + 1 = spec.exponentBits := by
    have hpos := spec.he
    omega
  simp only [unpackExponent]
  simp [Nat.shiftRight_eq_div_pow, hbits]

/-- The exponent in the bits of a double. -/
theorem toNat_unpackExponent_binary64 (b : BitVec 64) :
    (@unpackExponent Format.binary64 b).toNat = b.toNat / 0x10000000000000 % 0x800 :=
  toNat_unpackExponent Format.binary64 b

/-- The fraction in the bits of a number. -/
theorem toNat_unpackMantissa (b : BitVec 64) :
    (@unpackMantissa Format.binary64 b).toNat = b.toNat % 0x10000000000000 := by
  simp only [unpackMantissa]
  simp

/-- A double is a number exactly if its exponent is not the greatest one. -/
theorem Double.isFinite_iff (x : Double) : x.isFinite = true ↔
    (@unpackExponent Format.binary64 x.bits.toBitVec).toNat < 0x7FF := by
  rw [toNat_unpackExponent_binary64, isFinite, magnitude, infinityMagnitude, decide_eq_true_eq]
  have hbits : x.bits.toBitVec.toNat = x.bits.toNat := rfl
  rw [hbits]
  omega

/-- Significand and exponent of a double that is a number other than zero. -/
structure IsCanonical (m : Nat) (e : Int) : Prop where
  significand : m < 0x20000000000000
  least : -1074 ≤ e
  greatest : e ≤ 971
  normal : -1074 < e → 0x10000000000000 ≤ m

/-- A number that is taken apart: zero, or another one in canonical form. -/
def IsUnpacked : UnpackedFloat → Prop
  | .zero _ => True
  | .finite _ m e _ => IsCanonical m e
  | _ => False

/-- The bits of a number are taken apart. -/
theorem isUnpacked_unpack {b : BitVec 64}
    (h : (@unpackExponent Format.binary64 b).toNat < 0x7FF) :
    IsUnpacked (UnpackedFloat.unpack Format.binary64 b) := by
  have hmantissa := toNat_unpackMantissa b
  have hlt : b.toNat % 0x10000000000000 < 0x10000000000000 := Nat.mod_lt _ (by decide)
  rw [UnpackedFloat.unpack]
  simp only [Format.exponentBias]
  split
  case isTrue hinfinite =>
    rw [hinfinite] at h
    exact absurd h (by decide)
  case isFalse =>
    split
    case isTrue hzero =>
      split
      · trivial
      · rw [IsUnpacked, hzero]
        exact ⟨by omega, by decide, by decide, fun h => absurd h (by decide)⟩
    case isFalse hexponent =>
      have hpos : (@unpackExponent Format.binary64 b).toNat ≠ 0 := by
        intro hzero
        exact hexponent (BitVec.eq_of_toNat_eq hzero)
      have hone : (1#1 ++ @unpackMantissa Format.binary64 b).toNat
          = 0x10000000000000 + b.toNat % 0x10000000000000 := by
        rw [BitVec.toNat_append, hmantissa]
        exact (Nat.shiftLeft_add_eq_or_of_lt hlt 1).symm
      rw [IsUnpacked, hone]
      have hexponent : ((@unpackExponent Format.binary64 b).toNat : Int)
          - (((2 ^ (Format.binary64.exponentBits - 1) - 1 : Nat) : Int)
            + (Format.binary64.mantissaBitsWithoutImplicit : Int))
          = (@unpackExponent Format.binary64 b).toNat - 1075 := rfl
      rw [hexponent]
      exact ⟨by omega, by omega, by omega, fun _ => by omega⟩

/-! ## Numbers put together -/

/-- A rounded number that a double can hold. -/
def InRange : UnpackedFloat → Prop
  | .zero _ => True
  | .finite _ _ e _ => e ≤ 971
  | _ => False

/-- What has been taken apart can be held. -/
theorem IsUnpacked.inRange {u : UnpackedFloat} (h : IsUnpacked u) : InRange u := by
  cases u with
  | zero s => trivial
  | finite s m e hm => exact h.greatest
  | infinity | notANumber => exact h

/-- The exponent of components that are put together. -/
theorem exponent_pack {u : UnpackedFloat} (h : InRange u) :
    (unpackExponent (UnpackedFloat.pack Format.binary64 u)).toNat < 0x7FF := by
  cases u with
  | zero s =>
    rw [UnpackedFloat.pack, packedZero, unpackExponent_packComponents]
    decide
  | finite s m e hm =>
    have he : e ≤ 971 := h
    have hbiased : (e + Format.binary64.exponentBias
        + Format.binary64.mantissaBitsWithoutImplicit).toNat = (e + 1075).toNat := by
      show (e + 1023 + 52).toNat = _
      omega
    simp only [UnpackedFloat.pack, hbiased]
    rw [if_neg (by show ¬2048 ≤ (e + 1075).toNat + 1; omega)]
    split
    · rw [unpackExponent_packComponents, BitVec.toNat_ofNat]
      exact Nat.lt_of_le_of_lt (Nat.mod_le _ _) (by omega)
    · rw [unpackExponent_packComponents]
      decide
  | infinity | notANumber => exact absurd h id

/-- The double of a number that it can hold is finite. -/
theorem InRange.isFinite {u : UnpackedFloat} (h : InRange u) :
    (Double.ofFloat ⟨Float.Model.pack u⟩).isFinite = true :=
  (Double.isFinite_iff _).2 (exponent_pack h)

/-- A double that is a number is one for the machine, too. -/
theorem Double.isUnpacked_toFloat {x : Double} (h : x.isFinite = true) :
    IsUnpacked x.toFloat.toModel.unpack := by
  refine isUnpacked_unpack (exponent_pack ?_)
  exact (isUnpacked_unpack ((isFinite_iff x).1 h)).inRange

/-- Numbers of the same significand and exponent. -/
theorem finite_congr {s : Sign} {m m' : Nat} {e e' : Int} {h : 0 < m} {h' : 0 < m'} (hm : m = m')
    (he : e = e') : UnpackedFloat.finite s m e h = .finite s m' e' h' := by
  subst hm he
  rfl

/-- Components that are put together and taken apart again. -/
theorem unpack_packComponents {s : Sign} {b : BitVec 11} {f : BitVec 52} (hb : 0 < b.toNat)
    (hb' : b.toNat < 0x7FF) : ∃ h, UnpackedFloat.unpack Format.binary64
      (packComponents Format.binary64 s b f)
        = .finite s (0x10000000000000 + f.toNat) ((b.toNat : Int) - 1075) h := by
  have hmantissa : (1#1 ++ f).toNat = 0x10000000000000 + f.toNat := by
    rw [BitVec.toNat_append]
    exact (Nat.shiftLeft_add_eq_or_of_lt f.isLt 1).symm
  have hinfinite : b ≠ -1#11 := by
    rintro rfl
    exact absurd hb' (by decide)
  have hzero : b ≠ 0#11 := by
    rintro rfl
    exact absurd hb (by decide)
  have hsign : Sign.ofBitVec s.toBitVec = s := by cases s <;> rfl
  simp only [UnpackedFloat.unpack, unpackExponent_packComponents, unpackMantissa_packComponents,
    unpackSign_packComponents, hsign]
  rw [if_neg hinfinite, if_neg hzero]
  exact ⟨by omega, finite_congr hmantissa rfl⟩

/-- A normal number that is put together and taken apart again. -/
theorem unpack_pack {s : Sign} {m : Nat} {e : Int} {h : 0 < m} (hm : 0x10000000000000 ≤ m)
    (hcanonical : IsCanonical m e) : UnpackedFloat.unpack Format.binary64
      (UnpackedFloat.pack Format.binary64 (.finite s m e h)) = .finite s m e h := by
  obtain ⟨hm', he, he', _⟩ := hcanonical
  have hlog : m.log2 + 1 = Format.binary64.mantissaBits := by
    rw [(Nat.log2_eq_iff (k := 52) (Nat.ne_of_gt h)).2 ⟨hm, hm'⟩]
    rfl
  have hbiased : (e + Format.binary64.exponentBias
      + Format.binary64.mantissaBitsWithoutImplicit).toNat = (e + 1075).toNat := by
    show (e + 1023 + 52).toNat = _
    omega
  simp only [UnpackedFloat.pack, hbiased]
  rw [if_neg (by show ¬2048 ≤ (e + 1075).toNat + 1; omega), if_pos hlog]
  have hexponent : (BitVec.ofNat 11 (e + 1075).toNat).toNat = (e + 1075).toNat := by
    rw [BitVec.toNat_ofNat]
    exact Nat.mod_eq_of_lt (by omega)
  obtain ⟨h', hunpack⟩ := unpack_packComponents (s := s) (b := BitVec.ofNat 11 (e + 1075).toNat)
    (f := BitVec.ofNat 52 m) (by omega) (by omega)
  refine hunpack.trans ?_
  have hfraction : 0x10000000000000 + (BitVec.ofNat 52 m).toNat = m := by
    rw [BitVec.toNat_ofNat]
    show 0x10000000000000 + m % 0x10000000000000 = m
    omega
  have hexponent' : ((BitVec.ofNat 11 (e + 1075).toNat).toNat : Int) - 1075 = e := by
    rw [hexponent]
    omega
  exact finite_congr hfraction hexponent'

/-! ## Rounding -/

/-- The digits of a number before rounding, with the one behind them: in halves. -/
def halves (em : ExtendedMantissa) : Nat := 2 * em.mantissa + em.roundBit.toNat

/-- Shifting drops digits. -/
theorem halves_shift (em : ExtendedMantissa) (n : Nat) :
    halves (em >>> n) * 2 ^ n ≤ halves em := by
  induction n with
  | zero => exact Nat.le_of_eq (Nat.mul_one _)
  | succ n ih =>
    -- one more shift moves the last digit behind the others, so the halves are the old mantissa
    have hstep : halves (em >>> (n + 1)) = (em >>> n).mantissa := by
      show 2 * ((em >>> n).mantissa / 2) + ((em >>> n).mantissa % 2 != 0).toNat = _
      rcases Nat.mod_two_eq_zero_or_one (em >>> n).mantissa with hmod | hmod
      · simp [hmod]
        omega
      · simp [hmod]
        omega
    calc halves (em >>> (n + 1)) * 2 ^ (n + 1)
        = 2 * (em >>> n).mantissa * 2 ^ n := by rw [hstep, Nat.pow_succ]; grind
      _ ≤ halves (em >>> n) * 2 ^ n := Nat.mul_le_mul_right _ (Nat.le_add_right _ _)
      _ ≤ halves em := ih

/-- Rounding adds one at most, and only if the digit behind is set. -/
theorem roundedMantissa_le (em : ExtendedMantissa) :
    em.roundedMantissa ≤ em.mantissa + em.roundBit.toNat := by
  obtain ⟨m, r, s⟩ := em
  cases r <;> cases s <;>
    simp [ExtendedMantissa.roundedMantissa, ExtendedMantissa.accuracy, Accuracy.roundToNearestEven]
  omega

/-- The mantissa after shifting. -/
theorem mantissa_shift (em : ExtendedMantissa) (n : Nat) :
    (em >>> n).mantissa = em.mantissa / 2 ^ n := by
  induction n with
  | zero => exact (Nat.div_one _).symm
  | succ n ih =>
    show (em >>> n).mantissa / 2 = _
    rw [ih, Nat.div_div_eq_div_mul, Nat.pow_succ]

/-- The significand before rounding. -/
theorem mantissa_ofMantissaAndAccuracy (m : Nat) (acc : Accuracy) :
    (ExtendedMantissa.ofMantissaAndAccuracy m acc).mantissa = m := by
  cases acc with
  | exact => rfl
  | inexact o => cases o <;> rfl

/-- A format with `p` places behind the first digit of a significand and the least exponent `l`. -/
structure HasPlaces (spec : Format) (p : Nat) (l : Int) : Prop where
  behind : spec.mantissaBitsWithoutImplicit = p
  least : spec.minExponent = l

/-- The format of doubles. -/
theorem hasPlaces_binary64 : HasPlaces Format.binary64 52 (-1074) := ⟨rfl, rfl⟩

/-- The format of singles. -/
theorem hasPlaces_binary32 : HasPlaces Format.binary32 23 (-149) := ⟨rfl, rfl⟩

/-- How many binary digits of a significand a format has no place for. -/
def droppedDigits (spec : Format) (m : Nat) (e : Int) : Nat :=
  (spec.targetExponent (totalExponent m e) - e).toNat

/-- A significand rounded to the digits that a format has places for. -/
def rounded (spec : Format) (m : Nat) (e : Int) (acc : Accuracy) : Nat :=
  (ExtendedMantissa.ofMantissaAndAccuracy m acc >>> droppedDigits spec m e).roundedMantissa

/-- A number is rounded, and shifted once more if it has become a digit longer. -/
theorem roundWithAccuracy_cases (spec : Format) (s : Sign) (m : Nat) (e : Int) (acc : Accuracy) :
    let e₁ := e + droppedDigits spec m e
    let n := droppedDigits spec (rounded spec m e acc) e₁
    (rounded spec m e acc / 2 ^ n = 0 ∧ roundWithAccuracy spec s m e acc = .zero s) ∨
      ∃ m₁ h, m₁ = rounded spec m e acc / 2 ^ n ∧
        roundWithAccuracy spec s m e acc = .finite s m₁ (e₁ + n) h := by
  intro e₁ n
  let em := ExtendedMantissa.ofMantissaAndAccuracy (rounded spec m e acc) .exact >>> n
  have hround : roundWithAccuracy spec s m e acc = if h : em.mantissa = 0 then .zero s
      else .finite s em.mantissa (e₁ + n) (Nat.pos_of_ne_zero h) := rfl
  have hmantissa : em.mantissa = rounded spec m e acc / 2 ^ n := mantissa_shift _ _
  by_cases hzero : em.mantissa = 0
  · left
    rw [hround, dif_pos hzero, ← hmantissa]
    exact ⟨hzero, rfl⟩
  · right
    refine ⟨em.mantissa, Nat.pos_of_ne_zero hzero, hmantissa, ?_⟩
    rw [hround, dif_neg hzero]

/-- Rounding takes nothing away. -/
theorem le_roundedMantissa (em : ExtendedMantissa) : em.mantissa ≤ em.roundedMantissa := by
  obtain ⟨m, r, s⟩ := em
  cases r <;> cases s <;>
    simp [ExtendedMantissa.roundedMantissa, ExtendedMantissa.accuracy, Accuracy.roundToNearestEven]

/-- A rounded significand, when as many digits are dropped as it has beyond `p + 1`: it has `p + 1`
digits or is the next power of two, and it is no more than half a unit beyond the exact one. -/
theorem rounded_bounds {p m n : Nat} (hm : 2 ^ p * 2 ^ n ≤ m) (hm' : m < 2 ^ (p + 1) * 2 ^ n) :
    let r := (ExtendedMantissa.ofMantissaAndAccuracy m .exact >>> n).roundedMantissa
    2 ^ p ≤ r ∧ r ≤ 2 ^ (p + 1) ∧ r * 2 ^ n ≤ m + 2 ^ n / 2 := by
  intro r
  have hpos : 0 < 2 ^ n := Nat.two_pow_pos n
  have hmantissa : (ExtendedMantissa.ofMantissaAndAccuracy m .exact >>> n).mantissa = m / 2 ^ n :=
    mantissa_shift _ _
  have hlower := le_roundedMantissa (ExtendedMantissa.ofMantissaAndAccuracy m .exact >>> n)
  have hupper := roundedMantissa_le (ExtendedMantissa.ofMantissaAndAccuracy m .exact >>> n)
  have hbit := Bool.toNat_le (ExtendedMantissa.ofMantissaAndAccuracy m .exact >>> n).roundBit
  have hhalves : halves (ExtendedMantissa.ofMantissaAndAccuracy m .exact >>> n) * 2 ^ n ≤ 2 * m :=
    halves_shift _ _
  rw [hmantissa] at hlower hupper
  rw [halves, hmantissa] at hhalves
  generalize (ExtendedMantissa.ofMantissaAndAccuracy m .exact >>> n).roundBit.toNat = bit at *
  have hdiv : 2 ^ p ≤ m / 2 ^ n := (Nat.le_div_iff_mul_le hpos).2 hm
  have hdiv' : m / 2 ^ n < 2 ^ (p + 1) := (Nat.div_lt_iff_lt_mul hpos).2 hm'
  refine ⟨Nat.le_trans hdiv hlower, by omega, ?_⟩
  -- twice the rounded significand is at most one more than the digits with the one behind them
  have htwice : 2 * r ≤ 2 * (m / 2 ^ n) + bit + 1 := by omega
  have hscaled : 2 * (r * 2 ^ n) ≤ (2 * (m / 2 ^ n) + bit) * 2 ^ n + 2 ^ n := by
    rw [← Nat.mul_assoc, ← Nat.succ_mul]
    exact Nat.mul_le_mul_right _ htwice
  omega

namespace HasPlaces

variable {spec : Format} {p : Nat} {l : Int}

/-- The exponent that a number is rounded to: that of its last place, or the least one. -/
theorem targetExponent_eq (h : HasPlaces spec p l) (m : Nat) (e : Int) :
    spec.targetExponent (totalExponent m e) = max ((m.log2 : Int) + e - p) l := by
  have hbits : (spec.mantissaBits : Int) = 1 + p := by
    rw [Format.mantissaBits, h.behind, Int.natCast_add]
    rfl
  rw [Format.targetExponent, totalExponent, hbits, h.least]
  omega

/-- The digits beyond the places are dropped, and those below the least exponent. -/
theorem droppedDigits_eq (h : HasPlaces spec p l) (m : Nat) (e : Int) :
    droppedDigits spec m e = (max ((m.log2 : Int) + e - p) l - e).toNat := by
  rw [droppedDigits, h.targetExponent_eq]

/-- A significand that has been rounded is a digit longer only if it has become a power of two. -/
theorem droppedDigits_of_bounds (h : HasPlaces spec p l) {r : Nat} {e : Int} (hr : 2 ^ p ≤ r)
    (hr' : r ≤ 2 ^ (p + 1)) (he : l ≤ e) :
    droppedDigits spec r e = if r = 2 ^ (p + 1) then 1 else 0 := by
  have hlog : r.log2 = if r = 2 ^ (p + 1) then p + 1 else p := by
    split
    case isTrue heq => rw [heq, Nat.log2_two_pow]
    case isFalse hne =>
      have hzero : r ≠ 0 := Nat.ne_of_gt (Nat.lt_of_lt_of_le (Nat.two_pow_pos p) hr)
      exact (Nat.log2_eq_iff hzero).2 ⟨hr, Nat.lt_of_le_of_ne hr' hne⟩
  rw [h.droppedDigits_eq, hlog]
  split <;> omega

/-- A number of at least `p + 1` digits that is not too small is rounded to one with `p + 1`
digits. -/
theorem roundWithAccuracy_normal (h : HasPlaces spec p l) (s : Sign) {m : Nat} {e : Int}
    (hm : p ≤ m.log2) (hnormal : l + p ≤ m.log2 + e) : ∃ (m₁ n' : Nat) (h₁ : 0 < m₁),
      roundWithAccuracy spec s m e .exact = .finite s m₁ (e + (m.log2 - p : Nat) + n') h₁ ∧
      2 ^ p ≤ m₁ ∧ m₁ < 2 ^ (p + 1) ∧ n' ≤ 1 ∧
      m₁ * 2 ^ (m.log2 - p + n') ≤ m + 2 ^ (m.log2 - p) / 2 := by
  have hn : droppedDigits spec m e = m.log2 - p := by
    rw [h.droppedDigits_eq]
    omega
  have hzero : m ≠ 0 := by
    rintro rfl
    have hplaces := spec.hm
    rw [h.behind] at hplaces
    rw [Nat.log2_zero] at hm
    omega
  have hlower : 2 ^ p * 2 ^ (m.log2 - p) ≤ m := by
    rw [← Nat.pow_add, Nat.add_sub_cancel' hm]
    exact Nat.log2_self_le hzero
  have hupper : m < 2 ^ (p + 1) * 2 ^ (m.log2 - p) := by
    rw [← Nat.pow_add, Nat.add_right_comm, Nat.add_sub_cancel' hm]
    exact Nat.lt_log2_self
  -- so as many digits are dropped as there are beyond `p + 1`
  obtain ⟨hr, hr', hbound⟩ := rounded_bounds hlower hupper
  have hrounded : rounded spec m e .exact = (ExtendedMantissa.ofMantissaAndAccuracy m .exact
      >>> (m.log2 - p)).roundedMantissa := by rw [rounded, hn]
  rw [← hrounded] at hr hr' hbound
  have hleast : l ≤ e + droppedDigits spec m e := by
    rw [hn]
    omega
  have hn' := h.droppedDigits_of_bounds hr hr' hleast
  have hpos : 0 < 2 ^ p := Nat.two_pow_pos p
  have hpower : 2 ^ (p + 1) = 2 ^ p * 2 := Nat.pow_succ ..
  rcases roundWithAccuracy_cases spec s m e .exact with ⟨hvanish, _⟩ | ⟨m₁, h₁, hm₁, hfinite⟩
  · rw [hn'] at hvanish
    split at hvanish <;> omega
  · rw [hn'] at hm₁ hfinite
    rw [hn] at hfinite
    generalize hcount : (if rounded spec m e .exact = 2 ^ (p + 1) then 1 else 0) = n' at *
    have hback : m₁ * 2 ^ n' ≤ rounded spec m e .exact := by
      rw [hm₁]
      exact Nat.div_mul_le_self _ _
    refine ⟨m₁, n', h₁, hfinite, ?_, ?_, ?_, ?_⟩
    · split at hcount <;> subst hcount <;> omega
    · split at hcount <;> subst hcount <;> omega
    · split at hcount <;> omega
    · rw [Nat.pow_add, Nat.mul_comm (2 ^ (m.log2 - p)), ← Nat.mul_assoc]
      exact Nat.le_trans (Nat.mul_le_mul_right _ hback) hbound

end HasPlaces

/-! ## Doubles in range -/

/-- A significand that is rounded to 53 digits has 54 at most, and no more than 53 if it was far
enough below the next power of two. -/
theorem log2_roundedMantissa (em : ExtendedMantissa) (n : Nat)
    (hm : em.mantissa < 0x20000000000000 * 2 ^ n) :
    (em >>> n).roundedMantissa.log2 ≤ 53 ∧
      (halves em < 0x3FFFFFFFFFFFFF * 2 ^ n → (em >>> n).roundedMantissa.log2 ≤ 52) := by
  have hle := roundedMantissa_le (em >>> n)
  have hbit : (em >>> n).roundBit.toNat ≤ 1 := Bool.toNat_le _
  have hmantissa : (em >>> n).mantissa < 0x20000000000000 := by
    rw [mantissa_shift]
    exact Nat.div_lt_of_lt_mul (by rwa [Nat.mul_comm])
  have hlog : ∀ {r k : Nat}, r < 2 ^ (k + 1) → r.log2 ≤ k := by
    intro r k hr
    by_cases hzero : r = 0
    · rw [hzero]
      exact Nat.zero_le _
    · exact Nat.le_of_lt_succ ((Nat.log2_lt hzero).2 hr)
  constructor
  · exact hlog (by omega)
  · intro hhalves
    have hpos : 0 < 2 ^ n := Nat.two_pow_pos n
    have hshift : halves (em >>> n) < 0x3FFFFFFFFFFFFF :=
      Nat.lt_of_mul_lt_mul_right (Nat.lt_of_le_of_lt (halves_shift em n) hhalves)
    rw [halves] at hshift
    exact hlog (by omega)

/-- Rounding stays in range below the middle between the greatest number and the next power of
two. -/
theorem inRange_roundWithAccuracy {s : Sign} {m : Nat} {e : Int} {acc : Accuracy} (he : e ≤ 971)
    (hm : halves (.ofMantissaAndAccuracy m acc) < 0x3FFFFFFFFFFFFF * 2 ^ (971 - e).toNat) :
    InRange (roundWithAccuracy Format.binary64 s m e acc) := by
  have hmantissa := mantissa_ofMantissaAndAccuracy m acc
  have hsmall : 2 * m ≤ halves (.ofMantissaAndAccuracy m acc) := by
    rw [halves, hmantissa]
    exact Nat.le_add_right _ _
  -- the highest digit is not beyond the one of the greatest number
  have hlog : (m.log2 : Int) ≤ 52 + (971 - e) := by
    by_cases hzero : m = 0
    · rw [hzero, Nat.log2_zero]
      omega
    · have hlt : m < 2 ^ (53 + (971 - e).toNat) := by
        rw [Nat.pow_add]
        omega
      have hlog := (Nat.log2_lt hzero).2 hlt
      omega
  have hn : (droppedDigits .binary64 m e : Int)
      = max (max ((m.log2 : Int) + e - 52) (-1074) - e) 0 := by
    rw [hasPlaces_binary64.droppedDigits_eq]
    omega
  have hdigits : m < 0x20000000000000 * 2 ^ droppedDigits .binary64 m e := by
    have hself : m < 2 ^ (m.log2 + 1) := Nat.lt_log2_self
    have hpow : 2 ^ (m.log2 + 1) ≤ 2 ^ 53 * 2 ^ droppedDigits .binary64 m e := by
      rw [← Nat.pow_add]
      exact Nat.pow_le_pow_right (by decide) (by omega)
    exact Nat.lt_of_lt_of_le hself hpow
  obtain ⟨hfar, hnear⟩ := log2_roundedMantissa (.ofMantissaAndAccuracy m acc)
    (droppedDigits .binary64 m e) (by rwa [hmantissa])
  -- only for the greatest exponent a significand of 54 digits would be too long
  have hrounded : ((rounded .binary64 m e acc).log2 : Int)
      + (e + droppedDigits .binary64 m e) ≤ 1023 := by
    by_cases hgreatest : e + droppedDigits .binary64 m e = 971
    · have hgap : (971 - e).toNat = droppedDigits .binary64 m e := by omega
      rw [hgap] at hm
      have hshort : (rounded .binary64 m e acc).log2 ≤ 52 := hnear hm
      omega
    · have hlong : (rounded .binary64 m e acc).log2 ≤ 53 := hfar
      omega
  have hn' := hasPlaces_binary64.droppedDigits_eq (rounded .binary64 m e acc)
    (e + droppedDigits .binary64 m e)
  rcases roundWithAccuracy_cases .binary64 s m e acc with ⟨_, hzero⟩ | ⟨m₁, _, _, hfinite⟩
  · rw [hzero]
    trivial
  · rw [hfinite]
    show _ ≤ (971 : Int)
    omega

/-- Exact numbers are rounded in the same way. -/
theorem inRange_round {s : Sign} {m : Nat} {e : Int} (he : e ≤ 971)
    (hm : 2 * m < 0x3FFFFFFFFFFFFF * 2 ^ (971 - e).toNat) :
    InRange (UnpackedFloat.round Format.binary64 s m e) := by
  rw [UnpackedFloat.round]
  simp only [decreaseExponent]
  generalize (e - Format.binary64.targetExponent (totalExponent m e)).toNat = n
  refine inRange_roundWithAccuracy (by omega) ?_
  have hexponent : (971 - (e - n)).toNat = (971 - e).toNat + n := by omega
  rw [hexponent, Nat.pow_add, ← Nat.mul_assoc, Nat.shiftLeft_eq]
  show 2 * (m * 2 ^ n) + 0 < _
  rw [Nat.add_zero, ← Nat.mul_assoc]
  exact Nat.mul_lt_mul_of_pos_right hm (Nat.two_pow_pos n)

/-- Numbers with a sign are rounded in the same way. -/
theorem inRange_normalize {i e : Int} {s : Sign} (he : e ≤ 971)
    (hi : 2 * i.natAbs < 0x3FFFFFFFFFFFFF * 2 ^ (971 - e).toNat) :
    InRange (UnpackedFloat.normalize Format.binary64 i e s) := by
  rw [UnpackedFloat.normalize]
  cases compare i 0 with
  | lt => exact inRange_round he (Nat.lt_of_le_of_lt (by omega) hi)
  | eq => trivial
  | gt => exact inRange_round he (Nat.lt_of_le_of_lt (by omega) hi)

/-! ## Arithmetic -/

/-- Whether a number is so small that adding it to another one does not lead out of range. -/
def isAddend : UnpackedFloat → Bool
  | .zero _ => true
  | .finite _ m e _ => decide (m ≤ 0x20000000000000 ∧ e ≤ 916)
  | _ => false

/-- The magnitude of a sum is at most the sum of the magnitudes. -/
theorem natAbs_apply_add_apply (s s' : Sign) (m n : Nat) :
    (s.apply m + s'.apply n).natAbs ≤ m + n := by
  cases s <;> cases s' <;> simp only [Sign.apply] <;> omega

/-- Adding a small number to a number stays in range. -/
theorem inRange_add {u v : UnpackedFloat} (hu : IsUnpacked u) (hv : isAddend v = true) :
    InRange (UnpackedFloat.add Format.binary64 u v) := by
  cases u with
  | infinity | notANumber => exact absurd hu id
  | zero s =>
    cases v with
    | infinity | notANumber => cases hv
    | zero s' =>
      rw [UnpackedFloat.add]
      split <;> trivial
    | finite s' m e hm =>
      have he : e ≤ 916 := (of_decide_eq_true hv).2
      show e ≤ 971
      omega
  | finite s m e hm =>
    cases v with
    | infinity | notANumber => cases hv
    | zero s' => exact hu.inRange
    | finite s' m' e' hm' =>
      obtain ⟨hm', he'⟩ : m' ≤ 0x20000000000000 ∧ e' ≤ 916 := of_decide_eq_true hv
      have hsig := hu.significand
      have he := hu.greatest
      simp only [UnpackedFloat.add, decreaseExponent, Nat.shiftLeft_eq]
      generalize hleast : min e e' = least
      refine inRange_normalize (by omega) ?_
      have habs := natAbs_apply_add_apply s s' (m * 2 ^ (e - least).toNat)
        (m' * 2 ^ (e' - least).toNat)
      have hgap : (971 - least).toNat = 55 + (916 - least).toNat := by omega
      have hpow : 2 ^ (971 - least).toNat = 0x80000000000000 * 2 ^ (916 - least).toNat := by
        rw [hgap, Nat.pow_add]
      have hleft : m * 2 ^ (e - least).toNat
          ≤ 0x1FFFFFFFFFFFFF * 2 ^ (971 - least).toNat :=
        Nat.mul_le_mul (by omega) (Nat.pow_le_pow_right (by decide) (by omega))
      have hright : m' * 2 ^ (e' - least).toNat
          ≤ 0x20000000000000 * 2 ^ (916 - least).toNat :=
        Nat.mul_le_mul hm' (Nat.pow_le_pow_right (by decide) (by omega))
      have hpos : 0 < 2 ^ (916 - least).toNat := Nat.two_pow_pos _
      omega

/-- Whether a number is one at least, so that dividing by it makes nothing greater. -/
def isDivisor : UnpackedFloat → Bool
  | .finite _ m e _ => decide (0x10000000000000 ≤ m ∧ -52 ≤ e)
  | _ => false

/-- A quotient before rounding is not beyond the exact one. -/
theorem halves_quotient (m : Nat) {d : Nat} :
    halves (.ofMantissaAndAccuracy (m / d) (accuracyOfFraction (m % d) d)) * d ≤ 2 * m := by
  have hdiv := Nat.div_add_mod m d
  have hround : (ExtendedMantissa.ofMantissaAndAccuracy (m / d)
      (accuracyOfFraction (m % d) d)).roundBit.toNat * d ≤ 2 * (m % d) := by
    rw [accuracyOfFraction]
    split
    · show 0 * d ≤ _
      omega
    · cases hcompare : compare (2 * (m % d)) d with
      | lt =>
        show 0 * d ≤ _
        omega
      | eq =>
        rw [Nat.compare_eq_eq] at hcompare
        show 1 * d ≤ _
        omega
      | gt =>
        rw [Nat.compare_eq_gt] at hcompare
        show 1 * d ≤ _
        omega
  rw [halves, mantissa_ofMantissaAndAccuracy, Nat.add_mul, Nat.mul_assoc, Nat.mul_comm (m / d)]
  omega

/-- Dividing a number by one that is one at least stays in range. -/
theorem inRange_div {u v : UnpackedFloat} (hu : IsUnpacked u) (hv : isDivisor v = true) :
    InRange (UnpackedFloat.div Format.binary64 u v) := by
  cases v with
  | infinity | notANumber | zero => cases hv
  | finite s' m' e' hm' =>
    obtain ⟨hm', he'⟩ : 0x10000000000000 ≤ m' ∧ -52 ≤ e' := of_decide_eq_true hv
    cases u with
    | infinity | notANumber => exact absurd hu id
    | zero s => trivial
    | finite s m e hm =>
      have hsig := hu.significand
      have he := hu.greatest
      have hlog : m.log2 ≤ 52 := Nat.le_of_lt_succ ((Nat.log2_lt (by omega)).2 hsig)
      have hlog' : 52 ≤ m'.log2 := (Nat.le_log2 (by omega)).2 hm'
      simp only [UnpackedFloat.div, divCore, Nat.shiftLeft_eq]
      have htarget : min (e - e') (Format.binary64.targetExponent
          (totalExponent m e - totalExponent m' e')) ≤ 971 := by
        refine Int.le_trans (Int.min_le_right _ _) ?_
        show max ((m.log2 : Int) + 1 + e - ((m'.log2 : Int) + 1 + e') - 53) (-1074) ≤ 971
        omega
      have hleft : min (e - e') (Format.binary64.targetExponent
          (totalExponent m e - totalExponent m' e')) ≤ e - e' := Int.min_le_left _ _
      generalize min (e - e') (Format.binary64.targetExponent
          (totalExponent m e - totalExponent m' e')) = target at *
      refine inRange_roundWithAccuracy htarget ?_
      have hquotient := halves_quotient (m * 2 ^ (e - e' - target).toNat) (d := m')
      refine Nat.lt_of_mul_lt_mul_right (Nat.lt_of_le_of_lt hquotient ?_)
      -- the divisor makes up for the digits that are shifted in
      have hshift : 2 ^ (e - e' - target).toNat ≤ 0x10000000000000 * 2 ^ (971 - target).toNat := by
        show _ ≤ 2 ^ 52 * _
        rw [← Nat.pow_add]
        exact Nat.pow_le_pow_right (by decide) (by omega)
      have hdividend : m * 2 ^ (e - e' - target).toNat
          ≤ 0x1FFFFFFFFFFFFF * (0x10000000000000 * 2 ^ (971 - target).toNat) :=
        Nat.mul_le_mul (by omega) hshift
      have hdivisor : 0x3FFFFFFFFFFFFF * 2 ^ (971 - target).toNat * 0x10000000000000
          ≤ 0x3FFFFFFFFFFFFF * 2 ^ (971 - target).toNat * m' := Nat.mul_le_mul_left _ hm'
      have hpos : 0 < 2 ^ (971 - target).toNat := Nat.two_pow_pos _
      omega

namespace Double

/-- A number is not a NaN. -/
theorem isNaN_of_isFinite {x : Double} (h : x.isFinite = true) : x.isNaN = false := by
  rw [isFinite, decide_eq_true_eq] at h
  exact decide_eq_false (Nat.lt_asymm h)

/-- An operation whose rounded result can be held gives a number. -/
theorem isFinite_lift₂ {op : Float → Float → Float} {x y : Double} {u : UnpackedFloat}
    (hx : x.isFinite = true) (hy : y.isFinite = true)
    (hop : op x.toFloat y.toFloat = ⟨Float.Model.pack u⟩) (hu : InRange u) :
    (lift₂ op x y).isFinite = true := by
  have hnumber : (Float.isNaN ⟨Float.Model.pack u⟩) = false := by
    have hunpacked := isUnpacked_unpack (exponent_pack hu)
    show (UnpackedFloat.unpack Format.binary64 (UnpackedFloat.pack Format.binary64 u)).isNaN
      = false
    generalize UnpackedFloat.unpack Format.binary64 (UnpackedFloat.pack Format.binary64 u) = v at *
    cases v with
    | infinity | notANumber => exact absurd hunpacked id
    | zero | finite => rfl
  simp only [lift₂, isNaN_of_isFinite hx, isNaN_of_isFinite hy, hop, hnumber]
  exact hu.isFinite

/-- Adding a small number to a number gives a number. -/
theorem isFinite_add {x y : Double} (hx : x.isFinite = true) (hy : y.isFinite = true)
    (hsmall : isAddend y.toFloat.toModel.unpack = true) : (x.add y).isFinite = true :=
  isFinite_lift₂ hx hy rfl (inRange_add (isUnpacked_toFloat hx) hsmall)

/-- Dividing a number by one that is one at least gives a number. -/
theorem isFinite_div {x y : Double} (hx : x.isFinite = true) (hy : y.isFinite = true)
    (hdivisor : isDivisor y.toFloat.toModel.unpack = true) : (x.div y).isFinite = true :=
  isFinite_lift₂ hx hy rfl (inRange_div (isUnpacked_toFloat hx) hdivisor)

/-- A product gives a number if it is exact below the middle between the greatest number and the
next power of two. -/
theorem isFinite_mul {x y : Double} {s s' : Sign} {m m' : Nat} {e e' : Int} {h : 0 < m}
    {h' : 0 < m'} (hx : x.isFinite = true) (hy : y.isFinite = true)
    (hm : x.toFloat.toModel.unpack = .finite s m e h)
    (hm' : y.toFloat.toModel.unpack = .finite s' m' e' h') (he : e + e' ≤ 971)
    (hproduct : 2 * (m * m') < 0x3FFFFFFFFFFFFF * 2 ^ (971 - (e + e')).toNat) :
    (x.mul y).isFinite = true := by
  have hround : UnpackedFloat.mul Format.binary64 x.toFloat.toModel.unpack y.toFloat.toModel.unpack
      = roundWithAccuracy Format.binary64 (s * s') (m * m') (e + e') .exact := by
    rw [hm, hm']
    rfl
  exact isFinite_lift₂ hx hy rfl (hround ▸ inRange_roundWithAccuracy he hproduct)

/-- Adding one to a number gives a number. -/
theorem isFinite_add_one {x : Double} (hx : x.isFinite = true) : (x.add one).isFinite = true :=
  isFinite_add hx (by decide) (by decide +kernel)

/-- Adding zero to a number gives a number. -/
theorem isFinite_add_zero {x : Double} (hx : x.isFinite = true) : (x.add zero).isFinite = true :=
  isFinite_add hx (by decide) (by decide +kernel)

end Double

end Audience
