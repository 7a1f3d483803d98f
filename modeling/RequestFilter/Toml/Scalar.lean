import RequestFilter.Calendar.Date
import RequestFilter.Number.Decimal
import RequestFilter.Toml.Basic

/-! # TOML scalars

The values of TOML that are written without quotes: truth values, integers in
four bases, floating-point numbers, dates and times.
-/

namespace RequestFilter.Toml

/-- Every underscore stands between two digits.  What stands in front of the text may count as a
digit. -/
def isGrouped (isDigit : Char → Bool) (afterDigit : Bool) : List Char → Bool
  | [] => true
  | c :: rest =>
    if c = '_' then afterDigit && rest.head?.any isDigit && isGrouped isDigit false rest
    else isGrouped isDigit (isDigit c) rest

/-- A text without its underscores. -/
def ungrouped (text : List Char) : List Char :=
  text.filter (· ≠ '_')

/-- A run that starts with a zero and goes on. -/
def hasLeadingZero (digits : List Char) : Bool :=
  digits.head? = some '0' && digits.length ≠ 1

/-- The value of a digit in any base up to sixteen. -/
def digitValue (c : Char) : Nat :=
  if c.isDigit then c.toNat - '0'.toNat
  else if 'a' ≤ c ∧ c ≤ 'f' then c.toNat - 'a'.toNat + 10
  else if 'A' ≤ c ∧ c ≤ 'F' then c.toNat - 'A'.toNat + 10
  else 16

/-- The number of a grouped run of digits in a base; an empty run has no value. -/
def numberInBase? (base : Nat) (digits : List Char) : Option Toml :=
  let isDigit (c : Char) : Bool := digitValue c < base
  if (ungrouped digits).all isDigit && isGrouped isDigit false digits then
    match ungrouped digits with
    | [] => some .valueless
    | digits =>
      some (.integer
        ((digits.foldl (fun value digit => base * value + digitValue digit) 0 : Nat) : Int))
  else none

/-- An integer: decimal with a sign, or in another base without one.  Underscores group the digits,
and one may follow the sign.  After the first underscore other characters may follow, as long as
the digits of some base stand around the underscores; with them the integer has no value. -/
def integer? : List Char → Option Toml
  | '0' :: 'x' :: digits => numberInBase? 16 digits
  | '0' :: 'o' :: digits => numberInBase? 8 digits
  | '0' :: 'b' :: digits => numberInBase? 2 digits
  | decimal => do
    let (negative, unsigned) := Number.splitSign decimal
    let rest := unsigned.dropWhile Char.isDigit
    guard (unsigned ≠ [] ∧ (rest = [] ∨ rest.head? = some '_'))
    guard (rest.all fun c => c ≠ ' ' ∧ c ≠ '.' ∧ c ≠ 'e' ∧ c ≠ 'E')
    guard (¬hasLeadingZero unsigned)
    guard (isGrouped (digitValue · < 16) (unsigned ≠ decimal) unsigned)
    let digits := ungrouped unsigned
    if digits.all Char.isDigit then
      let value := Number.ofDigits digits
      some (.integer (if negative then -(value : Int) else value))
    else some .valueless

/-- A floating-point number: infinity, no number, or digits with a fraction or an exponent.
Underscores group the digits, and one may follow the sign. -/
def double? (text : List Char) : Option Toml := do
  let (negative, unsigned) := Number.splitSign text
  if unsigned = ['i', 'n', 'f'] then some (.double (.infinity negative))
  else if unsigned = ['n', 'a', 'n'] then some (.double .noNumber)
  else
    guard (isGrouped Char.isDigit (unsigned ≠ text) unsigned)
    let (mantissa, power) := unsigned.span fun c => c ≠ 'e' ∧ c ≠ 'E'
    let (whole, fraction) := Number.splitPoint mantissa
    guard (power ≠ [] ∨ fraction ≠ none)
    guard (¬hasLeadingZero whole)
    let (down, exponent) := Number.splitSign (power.drop 1)
    guard (Number.isDigits (ungrouped whole))
    guard (fraction.all fun digits => Number.isDigits (ungrouped digits))
    guard (power = [] ∨ Number.isDigits (ungrouped exponent))
    let exponent := Number.ofDigits (ungrouped exponent)
    let value := (Number.Decimal.mk negative (ungrouped whole) (ungrouped (fraction.getD []))
      (if down then -(exponent : Int) else exponent)).toDouble
    some (if value.isInfinite then .valueless else .double value)

/-- Two digits that denote less than a bound. -/
def twoDigits? (bound : Nat) (tens ones : Char) : Option Nat := do
  let value ← Number.readNat? [tens, ones]
  if value < bound then some value else none

/-- Reads a date, normalized, and what follows it. -/
def readDate? : List Char → Option (String × List Char)
  | y₁ :: y₂ :: y₃ :: y₄ :: '-' :: m₁ :: m₂ :: '-' :: d₁ :: d₂ :: rest => do
    let year ← Number.readNat? [y₁, y₂, y₃, y₄]
    let month ← Number.readNat? [m₁, m₂]
    let day ← Number.readNat? [d₁, d₂]
    let date ← Date.ofParts? year month day
    some (date.text, rest)
  | _ => none

/-- The fraction of a second down to nanoseconds, without zeros after its first digit at its
end. -/
def fractionText (digits : List Char) : String :=
  match ((digits.take 9).reverse.dropWhile (· = '0')).reverse with
  | [] => ".0"
  | digits => "." ++ String.ofList digits

/-- Reads the seconds of a time of day, normalized, and what follows them; they may be left out,
and the 60th second is a leap second. -/
def readSeconds? : List Char → Option (String × List Char)
  | ':' :: s₁ :: s₂ :: rest => do
    let second ← twoDigits? 61 s₁ s₂
    let seconds := ":" ++ Number.padded 2 second
    match rest with
    | '.' :: more =>
      let digits := more.takeWhile Char.isDigit
      if digits = [] then none
      else some (seconds ++ fractionText digits, more.dropWhile Char.isDigit)
    | _ => some (seconds, rest)
  | rest => some ("", rest)

/-- Reads a time of day, normalized, and what follows it. -/
def readTime? : List Char → Option (String × List Char)
  | h₁ :: h₂ :: ':' :: m₁ :: m₂ :: rest => do
    let hour ← twoDigits? 24 h₁ h₂
    let minute ← twoDigits? 60 m₁ m₂
    let (seconds, rest) ← readSeconds? rest
    some (Number.padded 2 hour ++ ":" ++ Number.padded 2 minute ++ seconds, rest)
  | _ => none

/-- Reads the offset of a time from universal time, or the lack of one, up to the end. -/
def readOffset? : List Char → Option String
  | [] => some ""
  | ['Z'] => some "Z"
  | ['z'] => some "Z"
  | [sign, h₁, h₂, ':', m₁, m₂] => do
    guard (sign = '+' ∨ sign = '-')
    let hour ← twoDigits? 24 h₁ h₂
    let minute ← twoDigits? 60 m₁ m₂
    let sign := if hour = 0 ∧ minute = 0 then '+' else sign
    some (String.singleton sign ++ Number.padded 2 hour ++ ":" ++ Number.padded 2 minute)
  | _ => none

/-- A date, a time, or a date and a time with or without an offset, normalized. -/
def moment? (text : List Char) : Option String :=
  match readDate? text with
  | some (date, []) => some date
  | some (date, separator :: rest) => do
    guard (separator = 'T' ∨ separator = 't' ∨ separator = ' ')
    let (time, rest) ← readTime? rest
    let offset ← readOffset? rest
    some (date ++ "T" ++ time ++ offset)
  | none => do
    let (time, rest) ← readTime? text
    if rest = [] then some time else none

/-- The value of a scalar written without quotes. -/
def scalar? (text : List Char) : Option Toml :=
  if text = ['t', 'r', 'u', 'e'] then some (.flag true)
  else if text = ['f', 'a', 'l', 's', 'e'] then some (.flag false)
  else integer? text <|> double? text <|> (moment? text).map .moment

end RequestFilter.Toml
