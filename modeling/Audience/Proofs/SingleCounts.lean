import Audience.Proofs.NumberRange

/-! # Counts in single precision

A count is divided by as a single. Rounding a positive whole number to a single keeps its highest
digit, so no positive count becomes zero.

* **`round_binary32_of_pos`** — a positive count is rounded to a number with 24 digits.
* **`Single.magnitude_ofNat_pos`** — the single of a positive count is not zero. -/

namespace Audience

open Float.Model Float.Model.UnpackedFloat

/-- A positive whole number that a word can hold is rounded to a number with 24 digits. -/
theorem round_binary32_of_pos {n : Nat} (hn : 0 < n) (hword : n < 2 ^ 64) : ∃ m e h,
    UnpackedFloat.round Format.binary32 .positive n 0 = .finite .positive m e h ∧ m.log2 = 23 ∧
      -23 ≤ e ∧ e ≤ 41 := by
  have hlog : n.log2 < 64 := (Nat.log2_lt (Nat.ne_of_gt hn)).2 hword
  obtain ⟨m, e, h, hround, hm, hm', he, he', -⟩ :=
    hasPlaces_binary32.round_natural (by decide) hn
  exact ⟨m, e, h, hround, (Nat.log2_eq_iff (Nat.ne_of_gt h)).2 ⟨hm, hm'⟩, by omega, by omega⟩

/-! ## Bits -/

/-- The exponent of a number with 24 digits that is put together. -/
theorem exponent_pack_binary32 {s : Sign} {m : Nat} {e : Int} {h : 0 < m} (hlog : m.log2 = 23)
    (hlower : -149 ≤ e) (hupper : e ≤ 104) :
    (unpackExponent (UnpackedFloat.pack Format.binary32 (.finite s m e h))).toNat
      = (e + 150).toNat := by
  have hbiased : (e + Format.binary32.exponentBias
      + Format.binary32.mantissaBitsWithoutImplicit).toNat = (e + 150).toNat := by
    show (e + 127 + 23).toNat = _
    omega
  have hdigits : m.log2 + 1 = Format.binary32.mantissaBits := by
    rw [hlog]
    rfl
  simp only [UnpackedFloat.pack, hbiased]
  rw [if_neg (by show ¬256 ≤ (e + 150).toNat + 1; omega), if_pos hdigits,
    unpackExponent_packComponents, BitVec.toNat_ofNat]
  exact Nat.mod_eq_of_lt (by show _ < 256; omega)

/-- The bits of a single without its sign. -/
def Single.magnitude (x : Single) : Nat := x.bits.toNat % 0x80000000

/-- The single nearest to a positive whole number is not zero. -/
theorem Single.magnitude_ofNat_pos {n : Nat} (hn : 0 < n) (hword : n < 2 ^ 64) :
    0 < (Single.ofNat n).magnitude := by
  obtain ⟨m, e, h, hround, hlog, hlower, hupper⟩ := round_binary32_of_pos hn hword
  have hbits : (Single.ofNat n).bits.toBitVec
      = UnpackedFloat.pack Format.binary32 (.finite .positive m e h) := by
    rw [← hround, ← ofUInt64_ofNat Format.binary32 hn hword]
    rfl
  -- the exponent in the bits is positive, so the bits are not all zero
  have hexponent : (@unpackExponent Format.binary32 (Single.ofNat n).bits.toBitVec).toNat
      = (Single.ofNat n).bits.toNat / 0x800000 % 0x100 := toNat_unpackExponent Format.binary32 _
  rw [hbits, exponent_pack_binary32 hlog (by omega) (by omega)] at hexponent
  rw [magnitude]
  omega

end Audience
