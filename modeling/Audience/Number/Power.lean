/-! # Powers

Powers of the two bases in which numbers are written.

* **`twoTo k`**, **`tenTo k`** — a power of two and a power of ten. -/

namespace Audience

/-- A power of two. -/
def twoTo (k : Nat) : Nat := Nat.pow 2 k

/-- A power of ten. -/
def tenTo (k : Nat) : Nat := Nat.pow 10 k

/-- The first power of two is one. -/
@[simp] theorem twoTo_zero : twoTo 0 = 1 := rfl

/-- No power of two is zero. -/
theorem twoTo_pos (k : Nat) : 0 < twoTo k := Nat.pow_pos (by decide)

/-- The first power of ten is one. -/
@[simp] theorem tenTo_zero : tenTo 0 = 1 := rfl

/-- Each power of ten is ten times the one before. -/
theorem tenTo_succ (k : Nat) : tenTo (k + 1) = tenTo k * 10 := rfl

/-- No power of ten is zero. -/
theorem tenTo_pos (k : Nat) : 0 < tenTo k := Nat.pow_pos (by decide)

/-- The power of two of the binary logarithm of a number is at most the number. -/
theorem twoTo_log2_le {n : Nat} (h : n ≠ 0) : twoTo n.log2 ≤ n := Nat.log2_self_le h

end Audience
