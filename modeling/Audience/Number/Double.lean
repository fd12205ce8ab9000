/-! # Floating-point numbers by their bits

Scores, probabilities and rewards are IEEE doubles, and embeddings are IEEE singles. Both are kept
as bit patterns, so the sign of a NaN is part of the value: the total order puts negative NaNs first
and positive ones last. An operation on a NaN gives that NaN back, and one without a result, such
as `∞ - ∞`, gives the negative NaN.

* **`Double.add`**, **`Double.sub`**, **`Double.mul`**, **`Double.div`**, **`Double.exp`** — the
  arithmetic.
* **`Double.order x`** — the key of the total order.
* **`Single.ofDouble x`** — the nearest single. -/

namespace Audience

/-- An IEEE double. -/
structure Double where
  bits : UInt64
  deriving DecidableEq, Repr

namespace Double

/-- The double as a machine number; all NaNs are one there. -/
def toFloat (x : Double) : Float := Float.ofBits x.bits

/-- The double of a machine number, with the positive NaN for a NaN. -/
def ofFloat (x : Float) : Double := ⟨x.toBits⟩

/-- The bits of a double without its sign. -/
def magnitude (x : Double) : Nat := x.bits.toNat % 0x8000000000000000

/-- Whether the sign bit is set. -/
def isNegative (x : Double) : Bool := decide (0x8000000000000000 ≤ x.bits.toNat)

/-- The magnitude of the infinities. -/
def infinityMagnitude : Nat := 0x7FF0000000000000

/-- Whether a double is a NaN. -/
def isNaN (x : Double) : Bool := decide (infinityMagnitude < x.magnitude)

/-- Whether a double is a number, neither infinite nor a NaN. -/
def isFinite (x : Double) : Bool := decide (x.magnitude < infinityMagnitude)

/-- Zero. -/
def zero : Double := ⟨0⟩

/-- One. -/
def one : Double := ⟨0x3FF0000000000000⟩

/-- Minus zero. -/
def minusZero : Double := ⟨0x8000000000000000⟩

/-- Plus infinity. -/
def infinity : Double := ⟨0x7FF0000000000000⟩

/-- Minus infinity. -/
def minusInfinity : Double := ⟨0xFFF0000000000000⟩

/-- The positive NaN. -/
def nan : Double := ⟨0x7FF8000000000000⟩

/-- The result of an operation that has none: the negative NaN. -/
def invalid : Double := ⟨0xFFF8000000000000⟩

instance : Inhabited Double := ⟨zero⟩

/-- A machine operation on doubles: a NaN operand is the result, the first of two. -/
def lift₂ (op : Float → Float → Float) (x y : Double) : Double :=
  if x.isNaN then x
  else if y.isNaN then y
  else
    let r := op x.toFloat y.toFloat
    if r.isNaN then invalid else ofFloat r

/-- The sum. -/
def add (x y : Double) : Double := lift₂ (· + ·) x y

/-- The difference. -/
def sub (x y : Double) : Double := lift₂ (· - ·) x y

/-- The product. -/
def mul (x y : Double) : Double := lift₂ (· * ·) x y

/-- The quotient. -/
def div (x y : Double) : Double := lift₂ (· / ·) x y

/-- The exponential function. -/
def exp (x : Double) : Double := if x.isNaN then x else ofFloat x.toFloat.exp

/-- The double with the other sign. -/
def neg (x : Double) : Double := ⟨x.bits ^^^ 0x8000000000000000⟩

/-- The nearest double to a natural number below `2^64`. -/
def ofNat (n : Nat) : Double := ofFloat (UInt64.ofNat n).toFloat

/-- Whether one number is below another; a NaN is comparable with nothing. -/
def lt (x y : Double) : Bool := decide (x.toFloat < y.toFloat)

/-- Whether one number is at most another; a NaN is comparable with nothing. -/
def le (x y : Double) : Bool := decide (x.toFloat ≤ y.toFloat)

/-- The greater of two numbers; a NaN gives way to the other one. -/
def max (x y : Double) : Double := if x.isNaN then y else if lt x y then y else x

/-- The key of the total order: negative NaNs, the numbers from minus to plus infinity with minus
zero before zero, positive NaNs. -/
def order (x : Double) : Int :=
  if x.isNegative then -(x.magnitude : Int) - 1 else x.magnitude

/-- Two doubles with the same key in the total order are the same. -/
theorem order_injective {x y : Double} (h : x.order = y.order) : x = y := by
  obtain ⟨a⟩ := x
  obtain ⟨b⟩ := y
  have ha := a.toNat_lt
  have hb := b.toNat_lt
  have : a.toNat = b.toNat := by
    simp only [order, isNegative, magnitude, decide_eq_true_eq] at h
    split at h <;> split at h <;> omega
  exact congrArg Double.mk (UInt64.toNat_inj.1 this)

end Double

/-- An IEEE single. -/
structure Single where
  bits : UInt32
  deriving DecidableEq, Repr

namespace Single

/-- The single as a machine number. -/
def toFloat32 (x : Single) : Float32 := Float32.ofBits x.bits

/-- The single of a machine number, with the positive NaN for a NaN. -/
def ofFloat32 (x : Float32) : Single := ⟨x.toBits⟩

/-- Zero. -/
def zero : Single := ⟨0⟩

/-- Whether a single is a NaN. -/
def isNaN (x : Single) : Bool := decide (0x7F800000 < x.bits.toNat % 0x80000000)

/-- The sum. -/
def add (x y : Single) : Single := ofFloat32 (x.toFloat32 + y.toFloat32)

/-- The product. -/
def mul (x y : Single) : Single := ofFloat32 (x.toFloat32 * y.toFloat32)

/-- The quotient. -/
def div (x y : Single) : Single := ofFloat32 (x.toFloat32 / y.toFloat32)

/-- Whether one number is below another; a NaN is comparable with nothing. -/
def lt (x y : Single) : Bool := decide (x.toFloat32 < y.toFloat32)

/-- The single nearest to a double. -/
def ofDouble (x : Double) : Single := ofFloat32 x.toFloat.toFloat32

/-- The single nearest to a natural number below `2^64`. -/
def ofNat (n : Nat) : Single := ofFloat32 (UInt64.ofNat n).toFloat32

/-- The single with the other sign. -/
def neg (x : Single) : Single := ⟨x.bits ^^^ 0x80000000⟩

end Single

end Audience
