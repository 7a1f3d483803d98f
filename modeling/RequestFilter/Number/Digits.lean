import RequestFilter.Text.Blank

/-! # Decimal digits and row counts

Runs of ASCII digits and the numbers they denote.  A count of rows is an unsigned
64-bit number.  As text it is a run of ASCII digits, with any number of leading
zeros, after an optional plus sign and between any blanks.
-/

namespace RequestFilter

namespace Number

/-- The number that a run of decimal digits denotes. -/
def ofDigits (digits : List Char) : Nat :=
  digits.foldl (fun value digit => 10 * value + (digit.toNat - '0'.toNat)) 0

/-- Reads a nonempty run of ASCII digits and nothing else. -/
def readNat? (text : List Char) : Option Nat :=
  if text ≠ [] ∧ text.all Char.isDigit then some (ofDigits text) else none

/-- Reads an optional sign and a nonempty run of ASCII digits. -/
def readInt? : List Char → Option Int
  | '-' :: digits => (readNat? digits).map fun n => -(n : Int)
  | '+' :: digits => (readNat? digits).map Int.ofNat
  | digits => (readNat? digits).map Int.ofNat

/-- The signed 64-bit word of an integer that fits into one. -/
def int64? (value : Int) : Option Int64 :=
  if Int64.minValue.toInt ≤ value ∧ value ≤ Int64.maxValue.toInt then some (Int64.ofInt value)
  else none

/-- A number in decimal, with zeros in front up to the given width. -/
def padded (width n : Nat) : String :=
  let digits := Nat.toDigits 10 n
  String.ofList (List.replicate (width - digits.length) '0' ++ digits)

end Number

/-- A number of rows. -/
abbrev Count := UInt64

namespace Count

/-- The count with a given value, if 64 bits hold it. -/
def ofNat? (n : Nat) : Option Count :=
  if small : n < UInt64.size then some (UInt64.ofNatLT n small) else none

/-- The count that an integer is, if it is not negative. -/
def ofInt64? (value : Int64) : Option Count :=
  if 0 ≤ value.toInt then ofNat? value.toInt.toNat else none

/-- Reads digits after an optional plus sign. -/
def ofDigits? : List Char → Option Count
  | '+' :: digits => Number.readNat? digits >>= ofNat?
  | digits => Number.readNat? digits >>= ofNat?

/-- Reads a count from a text, whatever blanks surround it. -/
def ofText? (text : String) : Option Count :=
  ofDigits? (Text.trim text.toList)

end Count

end RequestFilter
