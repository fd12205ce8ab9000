import Audience.Text.Utf8
import Mathlib.Data.String.Basic

/-! # The order of texts by their bytes

Texts are compared by their code points. Their bytes, compared one after another, are in the same
order: a character with a greater code has greater bytes, and no character's bytes begin those of
another one.

* **`Utf8.encodeChar_append_lt`** — the first character that differs decides.
* **`Utf8.encode_lt_iff`** — the order of texts is the order of their bytes. -/

namespace Audience.Utf8

/-- Numbers of one byte are ordered as bytes. -/
theorem ofNat_lt_ofNat {m n : Nat} (hm : m < 256) (hn : n < 256) :
    UInt8.ofNat m < UInt8.ofNat n ↔ m < n := by
  rw [UInt8.lt_iff_toNat_lt, UInt8.toNat_ofNat', UInt8.toNat_ofNat', Nat.mod_eq_of_lt hm,
    Nat.mod_eq_of_lt hn]

/-- Numbers of one byte are told apart as bytes. -/
theorem ofNat_inj {m n : Nat} (hm : m < 256) (hn : n < 256) :
    UInt8.ofNat m = UInt8.ofNat n ↔ m = n := by
  rw [← UInt8.toNat_inj, UInt8.toNat_ofNat', UInt8.toNat_ofNat', Nat.mod_eq_of_lt hm,
    Nat.mod_eq_of_lt hn]

/-- A character with a greater code has greater bytes, whatever comes after it. -/
theorem encodeChar_append_lt {c d : Char} (h : c < d) (u v : List UInt8) :
    String.utf8EncodeChar c ++ u < String.utf8EncodeChar d ++ v := by
  have hcode : c.val.toNat < d.val.toNat := h
  have hlast : d.val.toNat < 0x110000 := by
    have hvalid := d.valid
    simp only [UInt32.isValidChar, Nat.isValidChar] at hvalid
    omega
  have hmiddle (k : Nat) : k / 4096 = k / 64 / 64 := by omega
  have hhigh (k : Nat) : k / 262144 = k / 64 / 64 / 64 := by omega
  -- the first byte tells the number of bytes, and it grows with it
  rw [String.utf8EncodeChar, String.utf8EncodeChar]
  generalize c.val.toNat = m at hcode
  generalize d.val.toNat = n at hcode hlast
  repeat' split
  all_goals
    simp (disch := omega) only [List.cons_append, List.nil_append, List.cons_lt_cons_iff,
      ofNat_lt_ofNat, ofNat_inj, hmiddle, hhigh]
    omega

/-- Texts in ascending order have their bytes in ascending order. -/
theorem encode_lt_encode {cs ds : List Char} (h : cs < ds) : encode cs < encode ds := by
  induction cs generalizing ds with
  | nil =>
    cases ds with
    | nil => exact absurd h (List.lt_irrefl [])
    | cons d ds =>
      -- every character has at least one byte
      obtain ⟨b, bs, hb⟩ := List.exists_cons_of_ne_nil (String.utf8EncodeChar_ne_nil (c := d))
      rw [encode, encode, List.flatMap_nil, List.flatMap_cons, hb, List.cons_append]
      exact List.nil_lt_cons _ _
  | cons c cs ih =>
    cases ds with
    | nil => exact absurd h (List.not_lt_nil _)
    | cons d ds =>
      rw [encode, encode, List.flatMap_cons, List.flatMap_cons]
      rcases List.cons_lt_cons_iff.1 h with hlt | ⟨rfl, hlt⟩
      · exact encodeChar_append_lt hlt _ _
      · exact List.append_left_lt (ih hlt)

/-- The order of texts is the order of their bytes. -/
theorem encode_lt_iff {s t : String} : encode s.toList < encode t.toList ↔ s < t := by
  refine ⟨fun h => ?_, fun h => encode_lt_encode (String.lt_iff_toList_lt.1 h)⟩
  refine Decidable.byContradiction fun hnot => ?_
  -- otherwise the texts are equal or in descending order, and so are their bytes
  by_cases heq : s = t
  · subst heq
    exact List.lt_irrefl _ h
  · have hlt : t < s := Decidable.byContradiction fun hnot' =>
      heq (String.le_antisymm (String.not_lt.1 hnot') (String.not_lt.1 hnot))
    exact List.lt_asymm h (encode_lt_encode (String.lt_iff_toList_lt.1 hlt))

end Audience.Utf8
