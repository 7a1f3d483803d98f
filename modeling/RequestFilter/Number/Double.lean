/-! # Double-precision numbers

A double is its 64 bits in the binary interchange format: a sign, eleven bits of
exponent and 52 bits of fraction.  This module says which number the bits stand
for and which double lies nearest to a decimal number.
-/

namespace RequestFilter

/-- A double-precision number, given by its bits. -/
structure Double where
  /-- Sign, exponent and fraction, from the highest bit down. -/
  bits : UInt64
deriving DecidableEq, Repr, Inhabited

namespace Double

/-- Two to the power of 52, the number of bits of the fraction. -/
def fractionSize : Nat := 0x10000000000000

/-- The sign bit. -/
def signBit : Nat := 0x8000000000000000

/-- The bits of infinity without a sign: all bits of the exponent and none of the fraction. -/
def infinityBits : Nat := 0x7ff0000000000000

/-- What a double stands for, its sign apart. -/
inductive Magnitude where
  /-- No number. -/
  | nan
  /-- More than every finite number. -/
  | infinite
  /-- The number `significand * 2 ^ exponent`. -/
  | finite (significand : Nat) (exponent : Int)
deriving DecidableEq, Repr

/-- The sign bit is set. -/
def isNegative (x : Double) : Bool :=
  signBit ≤ x.bits.toNat

/-- The eleven bits of the exponent. -/
def exponentField (x : Double) : Nat :=
  x.bits.toNat / fractionSize % 2048

/-- The 52 bits of the fraction. -/
def fractionField (x : Double) : Nat :=
  x.bits.toNat % fractionSize

/-- The magnitude that the exponent and the fraction denote. -/
def magnitude (x : Double) : Magnitude :=
  if x.exponentField = 2047 then
    if x.fractionField = 0 then .infinite else .nan
  else if x.exponentField = 0 then .finite x.fractionField (-1074)
  else .finite (fractionSize + x.fractionField) (x.exponentField - 1075)

/-- The double is no number. -/
def isNaN (x : Double) : Bool :=
  x.magnitude = .nan

/-- The double is zero, of either sign. -/
def isZero (x : Double) : Bool :=
  match x.magnitude with
  | .finite 0 _ => true
  | _ => false

/-- The double with a given sign and the bits of a nonnegative one. -/
def ofParts (negative : Bool) (rest : Nat) : Double :=
  ⟨UInt64.ofNat ((if negative then signBit else 0) + rest)⟩

/-- The integer nearest to a quotient; of two equally near the even one. -/
def roundedQuotient (numerator denominator : Nat) : Nat :=
  let quotient := numerator / denominator
  let twice := 2 * (numerator % denominator)
  if twice < denominator then quotient
  else if denominator < twice then quotient + 1
  else quotient + quotient % 2

/-- The bits of the nonnegative double nearest to a positive quotient, infinity when the
quotient is too large. -/
def bitsOfQuotient (numerator denominator : Nat) : Nat :=
  let estimate : Int := (numerator.log2 : Int) - denominator.log2 - 52
  let isBelow (exponent : Int) : Bool :=
    numerator * Nat.pow 2 (-exponent).toNat <
      fractionSize * denominator * Nat.pow 2 exponent.toNat
  let fitted := if isBelow estimate then estimate - 1 else estimate
  let exponent := max fitted (-1074)
  let significand :=
    roundedQuotient (numerator * Nat.pow 2 (-exponent).toNat)
      (denominator * Nat.pow 2 exponent.toNat)
  min infinityBits ((exponent + 1074).toNat * fractionSize + significand)

/-- Infinity under a sign. -/
def infinity (negative : Bool) : Double :=
  ofParts negative infinityBits

/-- A double that is no number. -/
def noNumber : Double :=
  ofParts false (infinityBits + 1)

/-- The double nearest to `digits * 10 ^ exponent` under a sign. -/
def ofDecimal (negative : Bool) (digits : Nat) (exponent : Int) : Double :=
  let leading := (Nat.toDigits 10 digits).length + exponent
  if digits = 0 ∨ leading < -330 then ofParts negative 0
  else if 320 < leading then infinity negative
  else
    ofParts negative
      (bitsOfQuotient (digits * Nat.pow 10 exponent.toNat) (Nat.pow 10 (-exponent).toNat))

/-- The double nearest to an integer. -/
def ofInteger (value : Int) : Double :=
  ofDecimal (value < 0) value.natAbs 0

/-- The double is infinite, of either sign. -/
def isInfinite (x : Double) : Bool :=
  x.magnitude = .infinite

end Double

end RequestFilter
