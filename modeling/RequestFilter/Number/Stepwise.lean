import RequestFilter.Number.Decimal

/-! # Decimals read in steps

A quick way to read a decimal number, which may miss the nearest double: the
digits that a word of 64 bits holds are rounded to a double first, and that is
then multiplied or divided by the double nearest to the power of ten.  Each step
rounds to the nearest double.
-/

namespace RequestFilter

namespace Double

/-- A finite double as a quotient, its sign apart. -/
def quotient (x : Double) : Nat × Nat :=
  match x.magnitude with
  | .finite significand exponent =>
    (significand * Nat.pow 2 exponent.toNat, Nat.pow 2 (-exponent).toNat)
  | _ => (0, 1)

/-- The nonnegative double nearest to a quotient. -/
def ofQuotient (numerator denominator : Nat) : Double :=
  ofParts false (if numerator = 0 then 0 else bitsOfQuotient numerator denominator)

/-- The double nearest to the product of two nonnegative ones. -/
def times (x y : Double) : Double :=
  ofQuotient (x.quotient.1 * y.quotient.1) (x.quotient.2 * y.quotient.2)

/-- The double nearest to the quotient of a nonnegative double and a positive one. -/
def dividedBy (x y : Double) : Double :=
  ofQuotient (x.quotient.1 * y.quotient.2) (x.quotient.2 * y.quotient.1)

/-- The largest power of ten that a double comes near to. -/
def maxPower : Nat := 308

/-- The double nearest to a power of ten. -/
def powerOfTen (exponent : Nat) : Double :=
  ofDecimal false 1 exponent

/-- A nonnegative double times a power of ten, unless that is too large. -/
def scaledUp? (x : Double) (places : Nat) : Option Double :=
  if x.isZero then some x
  else if maxPower < places then none
  else
    let product := x.times (powerOfTen places)
    if product.isInfinite then none else some product

/-- A nonnegative double divided by a power of ten, in as many steps as the power needs. -/
def scaledDown (x : Double) (places : Nat) : Double :=
  if x.isZero then x
  else if places ≤ maxPower then x.dividedBy (powerOfTen places)
  else scaledDown (x.dividedBy (powerOfTen maxPower)) (places - maxPower)
termination_by places
decreasing_by
  have : 0 < maxPower := by decide
  omega

end Double

namespace Number

/-- Appends digits to a number as long as a word of 64 bits holds it: the number, and the digits that
are left. -/
def appendDigits (value : Nat) : List Char → Nat × List Char
  | [] => (value, [])
  | digit :: rest =>
    let next := 10 * value + (digit.toNat - '0'.toNat)
    if next < UInt64.size then appendDigits next rest else (value, digit :: rest)

/-- The double of a written number, read in steps: digits that no longer fit into the word count as
zeros before the point, and do not count after it.  There is none for a number that is too large. -/
def Decimal.stepwise? (decimal : Decimal) : Option Double :=
  let (whole, uncounted) := appendDigits 0 decimal.whole
  let (digits, dropped) := appendDigits whole decimal.fraction
  let exponent := decimal.exponent + uncounted.length - (decimal.fraction.length - dropped.length)
  let start := Double.ofDecimal false digits 0
  let scaled? :=
    match exponent with
    | .ofNat places => start.scaledUp? places
    | .negSucc places => some (start.scaledDown (places + 1))
  scaled?.map fun scaled => .ofParts decimal.negative scaled.bits.toNat

end Number

end RequestFilter
