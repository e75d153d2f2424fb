/-!
# Doubles as their 64 bits

A double is held as the 64 bits of its IEEE 754 binary64 encoding.  Everything a value needs from
it is arithmetic on those bits, so no machine float takes part and every result can be computed by
the kernel:

* `magnitude` reads a finite double as a whole number of the smallest subnormal, `2⁻¹⁰⁷⁴`;
* `ofRatio` goes the other way and rounds a quotient of naturals to the nearest double, a tie going
  to the even significand;
* `folded` is the representative used when doubles are compared as keys: one zero, one NaN.

An infinity has a larger `magnitude` than every finite double, which is what makes `signedMagnitude`
an order key on everything but NaN.
-/

set_option autoImplicit false

namespace EntitySession

/-- A power of two.  It is spelled out, so that it means the same whatever powers are in scope. -/
def twoTo (k : Nat) : Nat := Nat.pow 2 k

/-- A power of ten. -/
def tenTo (k : Nat) : Nat := Nat.pow 10 k

/-- A double, given by its IEEE 754 binary64 encoding. -/
structure Binary64 where
  /-- The encoding: sign, eleven exponent bits, fifty-two fraction bits. -/
  bits : UInt64
  deriving DecidableEq, Inhabited

namespace Binary64

/-! ## The fields of the encoding -/

/-- Whether the sign bit is set. -/
def isNegative (x : Binary64) : Bool := decide (twoTo 63 ≤ x.bits.toNat)

/-- The biased exponent. -/
def exponentField (x : Binary64) : Nat := x.bits.toNat / twoTo 52 % twoTo 11

/-- The trailing significand bits. -/
def fractionField (x : Binary64) : Nat := x.bits.toNat % twoTo 52

/-- Whether the encoding is one of the NaNs. -/
def isNaN (x : Binary64) : Bool := x.exponentField == 2047 && x.fractionField != 0

/-- Whether the encoding is an infinity. -/
def isInfinite (x : Binary64) : Bool := x.exponentField == 2047 && x.fractionField == 0

/-- Whether the encoding is a zero of either sign. -/
def isZero (x : Binary64) : Bool := x.exponentField == 0 && x.fractionField == 0

/-- The double with the given sign whose remaining 63 bits are `tail`. -/
def ofTail (negative : Bool) (tail : Nat) : Binary64 :=
  ⟨UInt64.ofNat (if negative then twoTo 63 + tail else tail)⟩

/-- Positive zero. -/
def zero : Binary64 := ⟨0⟩

/-- The NaN that stands for all of them. -/
def nan : Binary64 := ⟨0x7ff8000000000000⟩

/-- The infinity of the given sign. -/
def infinity (negative : Bool) : Binary64 := ofTail negative (2047 * twoTo 52)

/-! ## Reading a double exactly -/

/-- The significand with its hidden bit. -/
def significand (x : Binary64) : Nat :=
  if x.exponentField = 0 then x.fractionField else twoTo 52 + x.fractionField

/-- How many binary places the significand stands above the smallest subnormal. -/
def scale (x : Binary64) : Nat := x.exponentField - 1

/-- The absolute value, counted in units of `2⁻¹⁰⁷⁴`. -/
def magnitude (x : Binary64) : Nat := x.significand * twoTo x.scale

/-- The value, counted in units of `2⁻¹⁰⁷⁴`; both zeros give 0. -/
def signedMagnitude (x : Binary64) : Int :=
  if x.isNegative then -(x.magnitude : Int) else x.magnitude

/-! ## Rounding to a double -/

/-- The quotient rounded to the nearest natural, a half going to the even neighbour. -/
def roundQuotient (num den : Nat) : Nat :=
  let q := num / den
  let twice := 2 * (num % den)
  if twice < den then q
  else if den < twice then q + 1
  else q + q % 2

/-- The double nearest to `num / den`, as its bits below the sign.  The significand is rounded at
the place where it keeps 53 bits, or at the smallest subnormal; a carry out of the significand
lands in the exponent, and what is too large becomes the infinity. -/
def tailOfRatio (num den : Nat) : Nat :=
  let whole := num * twoTo 1074 / den
  let drop := if whole < twoTo 53 then 0 else whole.log2 - 52
  let tail := drop * twoTo 52 + roundQuotient (num * twoTo 1074) (den * twoTo drop)
  min tail (2047 * twoTo 52)

/-- The double nearest to `num / den` with the given sign. -/
def ofRatio (negative : Bool) (num den : Nat) : Binary64 :=
  ofTail negative (tailOfRatio num den)

/-- The double nearest to an integer. -/
def ofInt (n : Int) : Binary64 := ofRatio (decide (n < 0)) n.natAbs 1

/-- The double nearest to `digits · 10 ^ exponent`.  A value far outside the range of the format
is answered without computing its power of ten. -/
def ofDecimal (negative : Bool) (digits : Nat) (exponent : Int) : Binary64 :=
  let places := ((Nat.toDigits 10 digits).length : Int) + exponent
  if digits = 0 then ofTail negative 0
  else if 310 < places then infinity negative
  else if places < -330 then ofTail negative 0
  else if 0 ≤ exponent then ofRatio negative (digits * tenTo exponent.toNat) 1
  else ofRatio negative digits (tenTo (-exponent).toNat)

/-- The double nearest to the product of two finite doubles. -/
def mul (x y : Binary64) : Binary64 :=
  ofRatio (x.isNegative != y.isNegative) (x.magnitude * y.magnitude) (twoTo (2 * 1074))

/-- The double nearest to the quotient of two finite doubles, the second not a zero. -/
def div (x y : Binary64) : Binary64 :=
  ofRatio (x.isNegative != y.isNegative) x.magnitude y.magnitude

/-- The double with the other sign. -/
def neg (x : Binary64) : Binary64 := ofTail (!x.isNegative) (x.bits.toNat % twoTo 63)

/-! ## Doubles as keys -/

/-- The representative of a double among those that count as the same key: the zeros fold into the
positive one, and the NaNs into one. -/
def folded (x : Binary64) : Binary64 :=
  if x.isZero then zero else if x.isNaN then nan else x

theorem folded_zero : folded zero = zero := by decide

theorem folded_nan : folded nan = nan := by decide

theorem folded_folded (x : Binary64) : x.folded.folded = x.folded := by
  unfold folded
  split
  · exact folded_zero
  · split
    · exact folded_nan
    · rfl

end Binary64

end EntitySession
