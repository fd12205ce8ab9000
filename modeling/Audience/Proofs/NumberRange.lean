import Audience.Number.Real
import Audience.Proofs.Rounding

/-! # Numbers within the range of doubles

A decimal is read by one product or quotient of machine numbers. Quotients by powers of ten stay in
range, and so do products up to a limit that no decimal written for a number reaches, the greatest
number apart.

* **`Double.isFinite_mul_powerOfTen`** — decimals of up to 17 digits within the limit have a product
  in range.
* **`Numeral.isFinite_of_double?`** — a numeral that is read is read as a number. -/

namespace Audience

open Float.Model Float.Model.UnpackedFloat

namespace Double

/-- A double with this significand and exponent. -/
def Holds (x : Double) (m : Nat) (e : Int) : Prop :=
  ∃ s h, x.toFloat.toModel.unpack = .finite s m e h

/-- The double of a normal number has its significand and exponent. -/
theorem holds_ofFloat {s : Sign} {m : Nat} {e : Int} {h : 0 < m} (hm : 0x10000000000000 ≤ m)
    (hcanonical : IsCanonical m e) :
    (ofFloat ⟨Float.Model.pack (.finite s m e h)⟩).Holds m e := by
  have hunpack := unpack_pack (s := s) (h := h) hm hcanonical
  refine ⟨s, h, ?_⟩
  show UnpackedFloat.unpack Format.binary64 (UnpackedFloat.pack Format.binary64
    (UnpackedFloat.unpack Format.binary64 (UnpackedFloat.pack Format.binary64 _))) = _
  rw [hunpack, hunpack]

end Double

/-- Greater powers of ten are greater. -/
theorem tenTo_mono {k n : Nat} (h : k ≤ n) : tenTo k ≤ tenTo n :=
  Nat.pow_le_pow_right (by decide) h

/-- The power of a sum of exponents. -/
theorem tenTo_add (k n : Nat) : tenTo (k + n) = tenTo k * tenTo n := Nat.pow_add ..

/-- Greater powers of two are greater. -/
theorem twoTo_mono {k n : Nat} (h : k ≤ n) : twoTo k ≤ twoTo n :=
  Nat.pow_le_pow_right (by decide) h

/-- A power of two. -/
theorem twoTo_eq (k : Nat) : twoTo k = 2 ^ k := rfl

/-- The binary logarithm of a number that is shifted. -/
theorem log2_mul_two_pow {n : Nat} (hn : n ≠ 0) (k : Nat) : (n * 2 ^ k).log2 = n.log2 + k := by
  induction k with
  | zero => rw [Nat.pow_zero, Nat.mul_one, Nat.add_zero]
  | succ k ih =>
    have hne : n * 2 ^ k ≠ 0 := Nat.mul_ne_zero hn (Nat.ne_of_gt (Nat.two_pow_pos k))
    rw [Nat.pow_succ, ← Nat.mul_assoc, Nat.mul_comm _ 2, Nat.log2_two_mul hne, ih, Nat.add_assoc]

/-- What rounding a natural number gives. -/
theorem HasPlaces.round_natural {spec : Format} {p : Nat} {l : Int} (h : HasPlaces spec p l)
    (hl : l ≤ -p) {n : Nat} (hn : 0 < n) : ∃ (m : Nat) (e : Int) (h₁ : 0 < m),
      UnpackedFloat.round spec .positive n 0 = .finite .positive m e h₁ ∧
      2 ^ p ≤ m ∧ m < 2 ^ (p + 1) ∧ (n.log2 : Int) - p ≤ e ∧ e ≤ (n.log2 : Int) - p + 1 ∧
      m * 2 ^ (e + (p - n.log2 : Nat)).toNat
        ≤ (n + 2 ^ (n.log2 - p) / 2) * 2 ^ (p - n.log2) := by
  have hshift : (0 - spec.targetExponent (totalExponent n 0)).toNat = p - n.log2 := by
    rw [h.targetExponent_eq]
    omega
  -- a number with fewer digits is made as long as the places first
  have hlog' := log2_mul_two_pow (n := n) (by omega) (p - n.log2)
  rw [UnpackedFloat.round]
  simp only [decreaseExponent, hshift, Nat.shiftLeft_eq]
  obtain ⟨m, n', h₁, hround, hm, hm', hn', hvalue⟩ := h.roundWithAccuracy_normal .positive
    (m := n * 2 ^ (p - n.log2)) (e := 0 - (p - n.log2 : Nat)) (by omega) (by omega)
  have hdropped : (n * 2 ^ (p - n.log2)).log2 - p = n.log2 - p := by omega
  rw [hdropped] at hround hvalue
  refine ⟨m, _, h₁, hround, hm, hm', by omega, by omega, ?_⟩
  have hexponent : (0 - ((p - n.log2 : Nat) : Int) + (n.log2 - p : Nat) + n'
      + (p - n.log2 : Nat)).toNat = n.log2 - p + n' := by omega
  rw [hexponent]
  refine Nat.le_trans hvalue ?_
  rw [Nat.add_mul]
  exact Nat.add_le_add_left (Nat.le_mul_of_pos_right _ (Nat.two_pow_pos _)) _

/-- A natural number that a word can hold is rounded as it is. -/
theorem ofUInt64_ofNat (spec : Format) {n : Nat} (hn : 0 < n) (hword : n < 2 ^ 64) :
    UnpackedFloat.ofUInt64 spec (UInt64.ofNat n)
      = UnpackedFloat.round spec .positive n 0 := by
  have hsame : (UInt64.ofNat n).toNat = n := by
    rw [UInt64.toNat_ofNat']
    exact Nat.mod_eq_of_lt hword
  have hpos : compare (n : Int) 0 = .gt := Int.compare_eq_gt.2 (by omega)
  rw [UnpackedFloat.ofUInt64, UnpackedFloat.ofNat, UnpackedFloat.ofInt, UnpackedFloat.normalize,
    hsame, hpos]
  rfl

namespace Double

/-- The double nearest to a natural number is a number. -/
theorem isFinite_ofNat (n : Nat) : (ofNat n).isFinite = true := by
  refine InRange.isFinite (inRange_normalize (by decide) ?_)
  have hword : (UInt64.ofNat n).toNat < 2 ^ 64 := (UInt64.ofNat n).toNat_lt
  have hroom : 2 ^ 65 ≤ 2 ^ (971 - 0 : Int).toNat := Nat.pow_le_pow_right (by decide) (by decide)
  have habs : ((UInt64.ofNat n).toNat : Int).natAbs = (UInt64.ofNat n).toNat := rfl
  rw [habs]
  omega

/-- A natural number that a word can hold is rounded once. -/
theorem ofNat_eq_round {n : Nat} (hn : 0 < n) (hword : n < 2 ^ 64) : ofNat n
    = ofFloat ⟨Float.Model.pack (UnpackedFloat.round Format.binary64 .positive n 0)⟩ := by
  rw [← ofUInt64_ofNat Format.binary64 hn hword]
  rfl

/-- The double nearest to a natural number. -/
theorem holds_ofNat {n : Nat} (hn : 0 < n) (hn' : n < 0x10000000000000000) :
    ∃ m e, (ofNat n).Holds m e ∧ 0x10000000000000 ≤ m ∧ m < 0x20000000000000 ∧
      (n.log2 : Int) - 52 ≤ e ∧ e ≤ (n.log2 : Int) - 51 ∧
      m * 2 ^ (e + (52 - n.log2 : Nat)).toNat
        ≤ (n + 2 ^ (n.log2 - 52) / 2) * 2 ^ (52 - n.log2) := by
  obtain ⟨m, e, h, hround, hm, hm', he, he', hvalue⟩ :=
    hasPlaces_binary64.round_natural (by decide) hn
  have hlog : n.log2 < 64 := (Nat.log2_lt (by omega)).2 hn'
  refine ⟨m, e, ?_, hm, hm', he, by omega, hvalue⟩
  rw [ofNat_eq_round hn hn', hround]
  exact holds_ofFloat hm ⟨hm', by omega, by omega, fun _ => hm⟩

/-! ## Powers of ten -/

/-- Whether a number has 53 digits, is one at least, and is hardly greater than a power of ten. -/
def isNearTenTo (k : Nat) : UnpackedFloat → Bool
  | .finite _ m e _ => decide (0x10000000000000 ≤ m ∧ m < 0x20000000000000 ∧ -52 ≤ e ∧ e ≤ 971 ∧
    m * 2 ^ (e + 53).toNat ≤ 0x20000000000001 * tenTo k)
  | _ => false

/-- Powers of ten that are exact. -/
theorem isNearTenTo_small : ∀ k < 23, (powerOfTen k).isFinite = true ∧
    isNearTenTo k (powerOfTen k).toFloat.toModel.unpack = true := by
  decide +kernel

/-- The machine rounds a power of ten once. -/
theorem powerOfTen_eq {k : Nat} (hk : 22 < k) (hk' : k ≤ powerLimit) :
    powerOfTen k = ofFloat ⟨Float.Model.pack (roundWithAccuracy Format.binary64 .positive
      (2 ^ 53 * tenTo k) (-53) .exact)⟩ := by
  have hlimit : k ≤ 308 := hk'
  rw [powerOfTen, Float.ofScientific, dif_neg (by omega)]
  simp only [Bool.false_eq_true, if_false, Float.Model.ofScientific, UnpackedFloat.ofScientific]
  rw [dif_neg (by decide), if_neg (by show ¬(k : Int) > 2048; omega),
    if_neg (by show ¬(k : Int) < -(2048 + 0); omega),
    if_pos (show 0 ≤ Int.ofNat k from Int.natCast_nonneg k)]
  rfl

/-- The double nearest to a power of ten. -/
theorem holds_powerOfTen {k : Nat} (hk : k ≤ powerLimit) : (powerOfTen k).isFinite = true ∧
    ∃ m e, (powerOfTen k).Holds m e ∧ 0x10000000000000 ≤ m ∧ m < 0x20000000000000 ∧ -52 ≤ e ∧
      e ≤ 971 ∧ m * 2 ^ (e + 53).toNat ≤ 0x20000000000001 * tenTo k := by
  by_cases hsmall : k < 23
  · obtain ⟨hfinite, hnear⟩ := isNearTenTo_small k hsmall
    refine ⟨hfinite, ?_⟩
    cases hunpack : (powerOfTen k).toFloat.toModel.unpack with
    | infinity | notANumber | zero =>
      rw [hunpack] at hnear
      cases hnear
    | finite s m e h =>
      rw [hunpack] at hnear
      exact ⟨m, e, ⟨s, h, hunpack⟩, of_decide_eq_true hnear⟩
  · -- greater powers are rounded from an exact product, which has more than 53 digits
    have hpos : tenTo k ≠ 0 := Nat.ne_of_gt (tenTo_pos k)
    have hlog : (2 ^ 53 * tenTo k).log2 = (tenTo k).log2 + 53 := by
      rw [Nat.mul_comm, log2_mul_two_pow hpos]
    obtain ⟨m, n', h, hround, hm, hm', hn', hvalue⟩ :=
      hasPlaces_binary64.roundWithAccuracy_normal .positive (m := 2 ^ 53 * tenTo k) (e := -53)
        (by omega) (by omega)
    have hdropped : (2 ^ 53 * tenTo k).log2 - 52 = (tenTo k).log2 + 1 := by omega
    rw [hdropped] at hround hvalue
    have hself : 2 ^ (tenTo k).log2 ≤ tenTo k := Nat.log2_self_le hpos
    have hbound : m * 2 ^ ((tenTo k).log2 + 1 + n') ≤ 0x20000000000001 * tenTo k := by
      rw [Nat.pow_succ] at hvalue
      omega
    -- a greater exponent would make the significand too small
    have hexponent : (tenTo k).log2 + 1 + n' ≤ 1024 := by
      refine Nat.le_of_not_lt fun hlt => ?_
      have hgreat : 0x10000000000000 * twoTo 1025 ≤ m * 2 ^ ((tenTo k).log2 + 1 + n') :=
        Nat.mul_le_mul hm (twoTo_mono hlt)
      have hmono : tenTo k ≤ tenTo powerLimit := tenTo_mono hk
      have hlimit : 0x20000000000001 * tenTo powerLimit < 0x10000000000000 * twoTo 1025 := by
        decide +kernel
      omega
    have heq := powerOfTen_eq (k := k) (by omega) hk
    rw [hround] at heq
    have hgreatest : -53 + (((tenTo k).log2 + 1 : Nat) : Int) + n' ≤ 971 := by omega
    refine ⟨?_, m, -53 + ((tenTo k).log2 + 1 : Nat) + n', ?_, hm, hm', by omega, hgreatest, ?_⟩
    · rw [heq]
      exact InRange.isFinite hgreatest
    · rw [heq]
      exact holds_ofFloat hm ⟨hm', by omega, hgreatest, fun _ => hm⟩
    · have hsum : (-53 + (((tenTo k).log2 + 1 : Nat) : Int) + n' + 53).toNat
          = (tenTo k).log2 + 1 + n' := by omega
      rw [hsum]
      exact hbound

/-! ## Products -/

/-- No decimal that is written for a number below the greatest one is greater. -/
def decimalLimit : Nat := 0x3FFFFFFFFFFFFD * twoTo 970

/-- The exponents of a decimal that is not too great. -/
theorem exponents_le {n k b : Nat} {eb : Int} (hn : 0 < n) (hlimit : n * tenTo k ≤ decimalLimit)
    (hb : 0x10000000000000 ≤ b) (heb : -52 ≤ eb)
    (hpower : b * 2 ^ (eb + 53).toNat ≤ 0x20000000000001 * tenTo k) :
    (n.log2 : Int) + eb ≤ 972 := by
  -- the product of the highest digits of both factors is below the limit as well
  have hself : 2 ^ n.log2 ≤ n := Nat.log2_self_le (by omega)
  have hexact : 0x20000000000001 * decimalLimit < twoTo 1078 := by decide +kernel
  have hpow : 2 ^ (n.log2 + (52 + (eb + 53).toNat)) < twoTo 1078 := by
    calc 2 ^ (n.log2 + (52 + (eb + 53).toNat))
        = 2 ^ n.log2 * (2 ^ 52 * 2 ^ (eb + 53).toNat) := by rw [Nat.pow_add, Nat.pow_add]
      _ ≤ n * (0x20000000000001 * tenTo k) :=
        Nat.mul_le_mul hself (Nat.le_trans (Nat.mul_le_mul_right _ hb) hpower)
      _ = 0x20000000000001 * (n * tenTo k) := Nat.mul_left_comm ..
      _ ≤ 0x20000000000001 * decimalLimit := Nat.mul_le_mul_left _ hlimit
      _ < twoTo 1078 := hexact
  have hlt : n.log2 + (52 + (eb + 53).toNat) < 1078 := by
    refine Nat.lt_of_not_le fun hle => ?_
    exact absurd hpow (Nat.not_lt.2 (twoTo_mono hle))
  omega

/-- A product with a power of ten is a number, if the factor is rounded to no more than `bound` and
the product with that is small enough. -/
theorem isFinite_mul_of_bound {n k a b : Nat} {ea eb : Int} (bound : Nat) (hk : k ≤ powerLimit)
    (hfactor : (ofNat n).Holds a ea) (hpower : (powerOfTen k).Holds b eb)
    (hea : (n.log2 : Int) - 52 ≤ ea) (heb : eb ≤ 971) (hsum : ea + eb ≤ 971)
    (hbound : a * 2 ^ (ea + (52 - n.log2 : Nat)).toNat ≤ bound * 2 ^ (52 - n.log2))
    (hproduct : 2 * (bound * b) < 0x3FFFFFFFFFFFFF * 2 ^ (971 - eb).toNat) :
    ((ofNat n).mul (powerOfTen k)).isFinite = true := by
  obtain ⟨s, h, hfactor⟩ := hfactor
  obtain ⟨s', h', hpower⟩ := hpower
  refine isFinite_mul (isFinite_ofNat n) (holds_powerOfTen hk).1 hfactor hpower hsum ?_
  -- both sides are compared over the same power of two
  have hpos : 0 < 2 ^ (ea + (52 - n.log2 : Nat)).toNat := Nat.two_pow_pos _
  refine Nat.lt_of_mul_lt_mul_right (a := 2 ^ (ea + (52 - n.log2 : Nat)).toNat) ?_
  calc 2 * (a * b) * 2 ^ (ea + (52 - n.log2 : Nat)).toNat
      = a * 2 ^ (ea + (52 - n.log2 : Nat)).toNat * (2 * b) := by grind
    _ ≤ bound * 2 ^ (52 - n.log2) * (2 * b) := Nat.mul_le_mul_right _ hbound
    _ = 2 * (bound * b) * 2 ^ (52 - n.log2) := by grind
    _ < 0x3FFFFFFFFFFFFF * 2 ^ (971 - eb).toNat * 2 ^ (52 - n.log2) :=
      Nat.mul_lt_mul_of_pos_right hproduct (Nat.two_pow_pos _)
    _ = 0x3FFFFFFFFFFFFF * 2 ^ (971 - (ea + eb)).toNat
        * 2 ^ (ea + (52 - n.log2 : Nat)).toNat := by
      rw [Nat.mul_assoc, Nat.mul_assoc, ← Nat.pow_add, ← Nat.pow_add]
      congr 2
      omega

/-- Whether the greatest decimal with a power of ten is small enough. -/
def isSafeProduct (k : Nat) : UnpackedFloat → Bool
  | .finite _ m e _ =>
    decide (2 * (decimalLimit / tenTo k * m) < 0x3FFFFFFFFFFFFF * 2 ^ (971 - e).toNat)
  | _ => false

/-- The greatest powers of ten. -/
theorem isSafeProduct_great : ∀ k < 309, 292 ≤ k →
    isSafeProduct k (powerOfTen k).toFloat.toModel.unpack = true := by
  decide +kernel

/-- The double nearest to a number of up to 54 digits is no greater than any even number at or
beyond it. -/
theorem ofNat_le_even {n bound a : Nat} {ea : Int} (hn : 0 < n) (hn' : n < 0x40000000000000)
    (hbound : n ≤ bound) (heven : n < 0x20000000000000 ∨ bound % 2 = 0)
    (hea : (n.log2 : Int) - 52 ≤ ea)
    (ha : a * 2 ^ (ea + (52 - n.log2 : Nat)).toNat
      ≤ (n + 2 ^ (n.log2 - 52) / 2) * 2 ^ (52 - n.log2)) :
    a * 2 ^ (ea + (52 - n.log2 : Nat)).toNat ≤ bound * 2 ^ (52 - n.log2) := by
  have hlog : n.log2 < 54 := (Nat.log2_lt (by omega)).2 hn'
  by_cases hexact : n.log2 ≤ 52
  · -- up to 53 digits nothing is rounded
    have hzero : n.log2 - 52 = 0 := by omega
    rw [hzero, Nat.pow_zero] at ha
    exact Nat.le_trans ha (Nat.mul_le_mul_right _ hbound)
  · have hlong : n.log2 = 53 := by omega
    have hlarge : 0x20000000000000 ≤ n := by
      have hself : 2 ^ n.log2 ≤ n := Nat.log2_self_le (by omega)
      rwa [hlong] at hself
    rw [hlong] at ha hea ⊢
    obtain ⟨j, hj⟩ : ∃ j, (ea + (52 - 53 : Nat)).toNat = j + 1 :=
      ⟨(ea + (52 - 53 : Nat)).toNat - 1, by omega⟩
    rw [hj, Nat.pow_succ, ← Nat.mul_assoc] at ha ⊢
    generalize a * 2 ^ j = c at *
    simp only [Nat.reduceSub, Nat.pow_zero, Nat.mul_one, Nat.reducePow, Nat.reduceDiv] at ha ⊢
    omega

/-- The product of a factor of up to 17 digits with a power of ten is a number, unless it is beyond
what is written for any number below the greatest one. -/
theorem isFinite_mul_powerOfTen {n k : Nat} (hn : 0 < n) (hn' : n ≤ tenTo 17) (hk : k ≤ powerLimit)
    (hlimit : n * tenTo k ≤ decimalLimit) : ((ofNat n).mul (powerOfTen k)).isFinite = true := by
  have hword : n < 0x10000000000000000 := Nat.lt_of_le_of_lt hn' (by decide)
  obtain ⟨a, ea, hfactor, _, _, hea, hea', ha⟩ := holds_ofNat hn hword
  obtain ⟨_, b, eb, hpower, hb, _, heb, heb', hbound⟩ := holds_powerOfTen hk
  have hexponents := exponents_le hn hlimit hb heb hbound
  by_cases hgreat : 292 ≤ k
  · -- the factor is hardly rounded, and the product was checked
    have hquotient : n ≤ decimalLimit / tenTo k := (Nat.le_div_iff_mul_le (tenTo_pos k)).2 hlimit
    have hsafe := isSafeProduct_great k (Nat.lt_succ_of_le hk) hgreat
    obtain ⟨s, h, hunpack⟩ := hpower
    rw [hunpack] at hsafe
    refine isFinite_mul_of_bound _ hk hfactor ⟨s, h, hunpack⟩ hea heb' (by omega) ?_
      (of_decide_eq_true hsafe)
    have hmono : decimalLimit / tenTo k ≤ decimalLimit / tenTo 292 :=
      Nat.div_le_div_left (tenTo_mono hgreat) (tenTo_pos 292)
    have hfirst : decimalLimit / tenTo 292 = 17976931348623156 := by decide +kernel
    refine ofNat_le_even hn (by omega) hquotient ?_ hea ha
    by_cases hnext : k = 292
    · right
      rw [hnext, hfirst]
    · left
      have hmono' : decimalLimit / tenTo k ≤ decimalLimit / tenTo 293 :=
        Nat.div_le_div_left (tenTo_mono (by omega)) (tenTo_pos 293)
      have hsecond : decimalLimit / tenTo 293 < 0x20000000000000 := by decide +kernel
      omega
  · -- the product is far below the limit
    have hlog : n.log2 ≤ 56 := by
      have hlt : n < 2 ^ 57 := Nat.lt_of_le_of_lt hn' (by decide)
      exact Nat.le_of_lt_succ ((Nat.log2_lt (by omega)).2 hlt)
    have hround : 2 ^ (n.log2 - 52) / 2 ≤ 8 := by
      have hpow : 2 ^ (n.log2 - 52) ≤ 2 ^ 4 := Nat.pow_le_pow_right (by decide) (by omega)
      omega
    refine isFinite_mul_of_bound (tenTo 17 + 8) hk hfactor hpower hea heb' (by omega) ?_ ?_
    · exact Nat.le_trans ha (Nat.mul_le_mul_right _ (Nat.add_le_add hn' hround))
    · have hmono : tenTo k ≤ tenTo 291 := tenTo_mono (by omega)
      have hcheck : 2 * ((tenTo 17 + 8) * (0x20000000000001 * tenTo 291))
          < 0x3FFFFFFFFFFFFF * twoTo 1024 := by decide +kernel
      have hsplit : twoTo 1024 = 2 ^ (971 - eb).toNat * 2 ^ (eb + 53).toNat := by
        rw [← Nat.pow_add, ← twoTo_eq, show (971 - eb).toNat + (eb + 53).toNat = 1024 by omega]
      refine Nat.lt_of_mul_lt_mul_right (a := 2 ^ (eb + 53).toNat) ?_
      calc 2 * ((tenTo 17 + 8) * b) * 2 ^ (eb + 53).toNat
          = 2 * ((tenTo 17 + 8) * (b * 2 ^ (eb + 53).toNat)) := by
            rw [Nat.mul_assoc, Nat.mul_assoc]
        _ ≤ 2 * ((tenTo 17 + 8) * (0x20000000000001 * tenTo 291)) :=
          Nat.mul_le_mul_left _ (Nat.mul_le_mul_left _
            (Nat.le_trans hbound (Nat.mul_le_mul_left _ hmono)))
        _ < 0x3FFFFFFFFFFFFF * 2 ^ (971 - eb).toNat * 2 ^ (eb + 53).toNat := by
          rw [Nat.mul_assoc, ← hsplit]
          exact hcheck

/-! ## Numbers that are read -/

/-- The sign does not matter to whether a double is a number. -/
theorem isFinite_neg (x : Double) : x.neg.isFinite = x.isFinite := by
  have hmagnitude : x.neg.magnitude = x.magnitude := by
    rw [magnitude, magnitude, neg, UInt64.toNat_xor]
    show (x.bits.toNat ^^^ 2 ^ 63) % 2 ^ 63 = x.bits.toNat % 2 ^ 63
    rw [Nat.xor_mod_two_pow]
    simp
  rw [isFinite, isFinite, hmagnitude]

/-- A power of ten is one at least. -/
theorem isFinite_div_powerOfTen {x : Double} (hx : x.isFinite = true) {k : Nat}
    (hk : k ≤ powerLimit) : (x.div (powerOfTen k)).isFinite = true := by
  obtain ⟨hfinite, m, e, ⟨s, h, hunpack⟩, hm, _, he, _⟩ := holds_powerOfTen hk
  refine isFinite_div hx hfinite ?_
  rw [hunpack]
  exact decide_eq_true ⟨hm, he⟩

/-- Dividing by powers of ten gives a number. -/
theorem isFinite_scaleDown {x : Double} (hx : x.isFinite = true) (e : Nat) :
    (scaleDown x e).isFinite = true := by
  fun_induction scaleDown x e with
  | case1 x e he => exact isFinite_div_powerOfTen hx he
  | case2 x e he hzero => exact hx
  | case3 x e he hzero ih => exact ih (isFinite_div_powerOfTen hx (Nat.le_refl _))

/-- A significand with an exponent is read as a number. -/
theorem isFinite_of_scaled {m : Nat} {e : Int} {x : Double} (h : scaled m e = some x) :
    x.isFinite = true := by
  simp only [scaled] at h
  split at h
  · cases h
    exact isFinite_scaleDown (isFinite_ofNat m) _
  · split at h
    · split at h
      · cases h
        assumption
      · cases h
    · split at h
      · cases h
        exact isFinite_ofNat m
      · cases h

end Double

/-- A numeral is read as a number, if it is read at all. -/
theorem Numeral.isFinite_of_double? {n : Numeral} {x : Double} (h : n.double? = some x) :
    x.isFinite = true := by
  obtain ⟨y, hy, rfl⟩ := Option.map_eq_some_iff.1 h
  have hfinite : y.isFinite = true := by
    cases hexponent : n.exponent with
    | none =>
      rw [hexponent] at hy
      exact Double.isFinite_of_scaled hy
    | some e =>
      obtain ⟨neg, ds⟩ := e
      rw [hexponent] at hy
      simp only [Significand.toDouble] at hy
      split at hy
      · split at hy
        · cases hy
        · cases hy
          decide
      · exact Double.isFinite_of_scaled hy
  split
  · rw [Double.isFinite_neg]
    exact hfinite
  · exact hfinite

end Audience
