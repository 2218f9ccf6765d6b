/-!
# Double-precision numbers

A double-precision number is its 64-bit pattern. Reading the pattern, comparing, cutting
to an integer and rounding a fraction to the nearest pattern are exact integer arithmetic,
so that every result can be computed inside a proof.
-/

namespace SearchSql

/-- A double-precision number: one sign bit, eleven exponent bits and fifty-two fraction bits. -/
structure Binary64 where
  /-- The whole pattern, with the sign in the highest bit. -/
  bits : UInt64
deriving DecidableEq, Inhabited

namespace Binary64

/-- The sign bit is the highest one. -/
def isNegative (x : Binary64) : Bool :=
  0x8000000000000000 ≤ x.bits.toNat

/-- The eleven bits under the sign. -/
def exponentField (x : Binary64) : Nat :=
  x.bits.toNat / 0x10000000000000 % 0x800

/-- The lowest fifty-two bits. -/
def fraction (x : Binary64) : Nat :=
  x.bits.toNat % 0x10000000000000

/-- A number is finite unless all its exponent bits are set. -/
def isFinite (x : Binary64) : Bool :=
  x.exponentField != 2047

/-- A pattern with all exponent bits and some fraction bit set is no number. -/
def isNaN (x : Binary64) : Bool :=
  x.exponentField == 2047 && x.fraction != 0

/-- A finite pattern is a number. -/
theorem isNaN_of_isFinite {x : Binary64} (h : x.isFinite = true) : x.isNaN = false := by
  rw [isFinite, bne_iff_ne] at h
  rw [isNaN, beq_eq_false_iff_ne.mpr h, Bool.false_and]

/-- Both zeros have no bit set below the sign. -/
def isZero (x : Binary64) : Bool :=
  x.bits.toNat % 0x8000000000000000 == 0

/-- The integer significand, which has a hidden bit unless the exponent field is zero. -/
def significand (x : Binary64) : Nat :=
  if x.exponentField = 0 then x.fraction else 0x10000000000000 + x.fraction

/-- The power of two that the significand of a finite number is multiplied by. -/
def exponent (x : Binary64) : Int :=
  if x.exponentField = 0 then -1074 else (x.exponentField : Int) - 1075

/-- The numerator of the magnitude of a finite number over a power of two. -/
def numerator (x : Binary64) : Nat :=
  x.significand * Nat.pow 2 x.exponent.toNat

/-- The power of two below the numerator of the magnitude. -/
def denominator (x : Binary64) : Nat :=
  Nat.pow 2 (-x.exponent).toNat

/-- Numbers compare by value: the two zeros are equal, and no number equals a pattern that is
no number. -/
def equals (x y : Binary64) : Bool :=
  !x.isNaN && !y.isNaN && (x.bits == y.bits || (x.isZero && y.isZero))

/-- The nearest whole number to a fraction, a half going to the even neighbour. -/
def roundHalfEven (num den : Nat) : Nat :=
  let below := num / den
  let rest := 2 * (num % den)
  if rest > den || (rest == den && below % 2 == 1) then below + 1 else below

/-- The fraction is at least the given power of two. -/
def atLeastTwoPow (num den : Nat) (power : Int) : Bool :=
  den * Nat.pow 2 power.toNat ≤ num * Nat.pow 2 (-power).toNat

/-- The exponent of the last significand bit with which a fraction is rounded: it leaves
fifty-three bits, and never lies below the last bit of the subnormal numbers. -/
def lastBitExponent (num den : Nat) : Int :=
  let guess : Int := (Nat.log2 num : Int) - (Nat.log2 den : Int)
  let leading := if atLeastTwoPow num den guess then guess else guess - 1
  max (-1074) (leading - 52)

/-- The pattern of a magnitude without its sign, counted in steps of the last bit. A carry out of
the significand moves to the next exponent, and too large a magnitude gives infinity. -/
def magnitudeBits (significand : Nat) (exponent : Int) : Nat :=
  min ((exponent + 1074).toNat * 0x10000000000000 + significand) 0x7FF0000000000000

/-- The double nearest to a fraction with the given sign, a half going to the even pattern. -/
def ofRatio (negative : Bool) (num den : Nat) : Binary64 :=
  let magnitude :=
    if num = 0 then 0
    else
      let q := lastBitExponent num den
      magnitudeBits (roundHalfEven (num * Nat.pow 2 (-q).toNat) (den * Nat.pow 2 q.toNat)) q
  ⟨UInt64.ofNat (magnitude + if negative then 0x8000000000000000 else 0)⟩

/-- The double nearest to an integer. -/
def ofInt (i : Int) : Binary64 :=
  ofRatio (i < 0) i.natAbs 1

/-- The positive zero. -/
def zero : Binary64 := ⟨0⟩

/-- The number one. -/
def one : Binary64 := ofInt 1

/-- A finite number without its fractional part. -/
def truncate (x : Binary64) : Int :=
  let whole : Int := x.numerator / x.denominator
  if x.isNegative then -whole else whole

/-- Cutting to a signed 64-bit integer stops at the ends of the range; what is no number gives
zero. -/
def toInt64 (x : Binary64) : Int64 :=
  if x.isNaN then 0
  else if x.isFinite then
    Int64.ofIntClamp x.truncate
  else if x.isNegative then Int64.minValue
  else Int64.maxValue

end Binary64

/-- A single-precision number: one sign bit, eight exponent bits and twenty-three fraction bits. -/
structure Binary32 where
  /-- The whole pattern, with the sign in the highest bit. -/
  bits : UInt32
deriving DecidableEq, Inhabited

namespace Binary32

/-- Every single-precision number is a double: widening changes no value, and keeps the fraction
bits of a pattern that is no number. -/
def toBinary64 (x : Binary32) : Binary64 :=
  let pattern := x.bits.toNat
  let negative : Bool := 0x80000000 ≤ pattern
  let field := pattern / 0x800000 % 0x100
  let fraction := pattern % 0x800000
  if field = 255 then
    let quiet := if fraction = 0 then 0 else 0x8000000000000
    ⟨UInt64.ofNat (((0x7FF0000000000000 + fraction * 0x20000000) ||| quiet) +
      if negative then 0x8000000000000000 else 0)⟩
  else if field = 0 then
    Binary64.ofRatio negative fraction (Nat.pow 2 149)
  else
    Binary64.ofRatio negative ((0x800000 + fraction) * Nat.pow 2 field) (Nat.pow 2 150)

end Binary32

end SearchSql
