import RequestFilter.Number.Shortest

/-! # Layouts of doubles

How the shortest decimal of a double is laid out as text: which magnitudes are
written positionally, whether an integral value shows a fraction, and how an
exponent is marked.
-/

namespace RequestFilter.Double

/-- The choices that a written form of doubles makes. -/
structure Layout where
  /-- Which of two equally near decimals is taken. -/
  tie : Tie
  /-- The powers of ten of the leading digit that are written positionally, first and last;
  all of them if absent. -/
  positional : Option (Int × Int)
  /-- A positional integral value ends in `.0`. -/
  showsFraction : Bool
  /-- A nonnegative exponent has a plus sign. -/
  marksPlus : Bool
deriving Repr

/-- The form for plain text: the digits alone, never an exponent. -/
def Layout.plain : Layout := ⟨.away, none, false, false⟩

/-- The form for diagnostics: always recognizable as a double, with an exponent below `1e-4` and
from `1e16` on. -/
def Layout.diagnostic : Layout := ⟨.away, some (-4, 15), true, false⟩

/-- The form inside documents: always recognizable as a double, with a signed exponent below
`1e-5` and from `1e16` on. -/
def Layout.document : Layout := ⟨.even, some (-5, 15), true, true⟩

/-- Digits with a point after the first `point` places, filled up with zeros on either side. -/
def positionalText (showsFraction : Bool) (digits : List Char) (point : Int) : List Char :=
  if point ≤ 0 then ['0', '.'] ++ List.replicate (-point).toNat '0' ++ digits
  else if (digits.length : Int) ≤ point then
    digits ++ List.replicate (point.toNat - digits.length) '0' ++
      (if showsFraction then ['.', '0'] else [])
  else digits.take point.toNat ++ ['.'] ++ digits.drop point.toNat

/-- Digits with a point after the first of them, times a power of ten. -/
def exponentText (marksPlus : Bool) (digits : List Char) (exponent : Int) : List Char :=
  let mantissa := match digits with
    | first :: second :: more => first :: '.' :: second :: more
    | short => short
  let sign := if exponent < 0 then ['-'] else if marksPlus then ['+'] else []
  mantissa ++ ['e'] ++ sign ++ Nat.toDigits 10 exponent.natAbs

/-- A finite magnitude in a layout. -/
def magnitudeText (layout : Layout) (significand : Nat) (exponent : Int) : List Char :=
  if significand = 0 then if layout.showsFraction then ['0', '.', '0'] else ['0']
  else
    let (decimal, power) := shortest layout.tie significand exponent
    let digits := Nat.toDigits 10 decimal
    let leading : Int := digits.length + power - 1
    let isPositional := match layout.positional with
      | none => true
      | some (first, last) => first ≤ leading && leading ≤ last
    if isPositional then positionalText layout.showsFraction digits (leading + 1)
    else exponentText layout.marksPlus digits leading

/-- A double as text in a layout. -/
def text (layout : Layout) (x : Double) : String :=
  let sign := if x.isNegative then "-" else ""
  match x.magnitude with
  | .nan => "NaN"
  | .infinite => sign ++ "inf"
  | .finite significand exponent =>
    sign ++ String.ofList (magnitudeText layout significand exponent)

end RequestFilter.Double
