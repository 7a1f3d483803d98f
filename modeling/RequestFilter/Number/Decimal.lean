import RequestFilter.Number.Digits
import RequestFilter.Number.Double

/-! # Written decimals

A written decimal number: a sign, digits, digits after a point and a power of
ten.  The readers of the document formats split their numbers into these parts
and take the double nearest to them.
-/

namespace RequestFilter.Number

/-- The parts of a written decimal number. -/
structure Decimal where
  /-- The number has a minus sign. -/
  negative : Bool
  /-- The digits before the point. -/
  whole : List Char
  /-- The digits after the point. -/
  fraction : List Char
  /-- The power of ten. -/
  exponent : Int
deriving Repr

/-- The double nearest to a written decimal number. -/
def Decimal.toDouble (decimal : Decimal) : Double :=
  .ofDecimal decimal.negative (ofDigits (decimal.whole ++ decimal.fraction))
    (decimal.exponent - decimal.fraction.length)

/-- Splits a text at its first exponent mark and reads what follows the mark; without a mark the
power is zero. -/
def splitExponent? (text : List Char) : Option (List Char × Int) :=
  match text.span fun c => c ≠ 'e' ∧ c ≠ 'E' with
  | (mantissa, []) => some (mantissa, 0)
  | (mantissa, _ :: power) => (readInt? power).map fun exponent => (mantissa, exponent)

/-- Splits a text at its first point; without a point nothing follows it. -/
def splitPoint (text : List Char) : List Char × Option (List Char) :=
  match text.span (· ≠ '.') with
  | (whole, []) => (whole, none)
  | (whole, _ :: fraction) => (whole, some fraction)

/-- A minus sign in front, or the lack of one. -/
def splitMinus : List Char → Bool × List Char
  | '-' :: rest => (true, rest)
  | rest => (false, rest)

/-- A minus or plus sign in front, or the lack of one. -/
def splitSign : List Char → Bool × List Char
  | '-' :: rest => (true, rest)
  | '+' :: rest => (false, rest)
  | rest => (false, rest)

/-- Digits that are not empty, and start with a zero only if they are a single one. -/
def isCanonicalWhole (digits : List Char) : Bool :=
  digits ≠ [] && digits.all Char.isDigit && (digits.head? ≠ some '0' || digits.length = 1)

/-- Digits that are not empty. -/
def isDigits (digits : List Char) : Bool :=
  digits ≠ [] && digits.all Char.isDigit

end RequestFilter.Number
