import RequestFilter.Json.Basic
import RequestFilter.Number.Stepwise
import RequestFilter.Text.Reading

/-! # Reading JSON text

Reads exactly the grammar of JSON; a bound on the depth of brackets can be set.  A
repeated name in an object keeps its first place and takes its last value, and a
number too large for a double is refused.  Other numbers than integers of 64 bits
are read in steps, so that the double may be a little off the number.
-/

namespace RequestFilter.Json

open Text

/-- The blanks that may stand between the tokens of JSON. -/
def isSpace (c : Char) : Bool :=
  c = ' ' || c = '\n' || c = '\r' || c = '\t'

/-- Reads what follows a backslash: a short escape, or the four digits of a code unit; two units
together may stand for one character. -/
def readEscape : (text : List Char) → Option (Char × Rest text)
  | 'u' :: rest => do
    let unit ← leadingHex? 4 rest
    if 0xd800 ≤ unit ∧ unit < 0xdc00 then
      guard ((rest.drop 4).take 2 = ['\\', 'u'])
      let low ← leadingHex? 4 (rest.drop 6)
      guard (0xdc00 ≤ low ∧ low < 0xe000)
      let char ← charOfCodePoint? (0x10000 + (unit - 0xd800) * 0x400 + (low - 0xdc00))
      some (char, .skip _ 10 rest)
    else
      let char ← charOfCodePoint? unit
      some (char, .skip _ 4 rest)
  | '"' :: rest => some ('"', .tail _ rest)
  | '\\' :: rest => some ('\\', .tail _ rest)
  | '/' :: rest => some ('/', .tail _ rest)
  | 'b' :: rest => some ('\x08', .tail _ rest)
  | 'f' :: rest => some ('\x0c', .tail _ rest)
  | 'n' :: rest => some ('\n', .tail _ rest)
  | 'r' :: rest => some ('\r', .tail _ rest)
  | 't' :: rest => some ('\t', .tail _ rest)
  | _ => none

/-- Reads the rest of a string after its opening quote. -/
def readString (text : List Char) : Option (List Char × Rest text) :=
  match text with
  | [] => none
  | '"' :: rest => some ([], .tail _ rest)
  | '\\' :: rest => do
    let (char, afterEscape) ← readEscape rest
    let (chars, last) ← readString afterEscape.val
    some (char :: chars, last.within (by
      have := afterEscape.property
      simp only [List.length_cons]; omega))
  | char :: rest =>
    if char < ' ' then none
    else do
      let (chars, last) ← readString rest
      some (char :: chars, last.within (by simp only [List.length_cons]; omega))
termination_by text.length
decreasing_by
  · have := afterEscape.property
    simp only [List.length_cons]; omega
  · simp only [List.length_cons]; omega

/-- The value of a written number.  An integer of 64 bits, with a sign or without one, stays an
integer; minus zero is none. -/
def numberOf? (text : List Char) : Option Json := do
  let (negative, unsigned) := Number.splitMinus text
  let (mantissa, exponent) ← Number.splitExponent? unsigned
  let (whole, fraction) := Number.splitPoint mantissa
  guard (Number.isCanonicalWhole whole)
  guard (fraction.all Number.isDigits)
  let magnitude := Number.ofDigits whole
  let value : Int := if negative then -(magnitude : Int) else magnitude
  if unsigned = whole ∧ ¬(negative ∧ magnitude = 0) ∧ Int64.minValue.toInt ≤ value ∧
      value < UInt64.size then some (.integer value)
  else (Number.Decimal.mk negative whole (fraction.getD []) exponent).stepwise?.map .double

/-- The characters that words and numbers are made of. -/
def isPlainChar (c : Char) : Bool :=
  c.isAlphanum || c = '-' || c = '+' || c = '.'

/-- The value of a word or a number. -/
def plainOf? (token : List Char) : Option Json :=
  if token = ['n', 'u', 'l', 'l'] then some .null
  else if token = ['t', 'r', 'u', 'e'] then some (.bool true)
  else if token = ['f', 'a', 'l', 's', 'e'] then some (.bool false)
  else numberOf? token

/-- Reads a scalar that is no string. -/
def readPlain (text : List Char) : Option (Json × Rest text) :=
  let token := text.takeWhile isPlainChar
  if nonempty : token ≠ [] then
    (plainOf? token).map fun value => (value, Rest.drop token text nonempty (by
      exact (List.takeWhile_sublist _).length_le))
  else none

mutual

/-- Reads one value, after any blanks.  There is room for so many brackets inside each other. -/
def readValue (room : Nat) (text : List Char) : Option (Json × Rest text) :=
  match split : text.dropWhile isSpace with
  | [] => none
  | '"' :: rest => do
    let (chars, last) ← readString rest
    some (.string (String.ofList chars),
      last.within (Nat.le_of_lt (length_lt_of_dropWhile_eq_cons split)))
  | '[' :: rest =>
    match room, close : rest.dropWhile isSpace with
    | 0, _ => none
    | _ + 1, ']' :: last => some (.array [], ⟨last, by
        have := length_lt_of_dropWhile_eq_cons split
        have := length_lt_of_dropWhile_eq_cons close
        omega⟩)
    | room + 1, _ => do
      let (items, last) ← readItems room rest
      some (.array items, last.within (Nat.le_of_lt (length_lt_of_dropWhile_eq_cons split)))
  | '\x7b' :: rest =>
    match room, close : rest.dropWhile isSpace with
    | 0, _ => none
    | _ + 1, '\x7d' :: last => some (.object [], ⟨last, by
        have := length_lt_of_dropWhile_eq_cons split
        have := length_lt_of_dropWhile_eq_cons close
        omega⟩)
    | room + 1, _ => do
      let (members, last) ← readMembers room rest
      some (.object (mergedMembers members),
        last.within (Nat.le_of_lt (length_lt_of_dropWhile_eq_cons split)))
  | first :: rest => do
    let (value, last) ← readPlain (first :: rest)
    some (value, last.within (by
      have := length_lt_of_dropWhile_eq_cons split
      simp only [List.length_cons]; omega))
termination_by (text.length, 0)
decreasing_by
  all_goals
    have := length_lt_of_dropWhile_eq_cons split
    exact Prod.Lex.left _ _ this

/-- Reads the items of an array from the first one to the closing bracket. -/
def readItems (room : Nat) (text : List Char) : Option (List Json × Rest text) := do
  let (item, afterItem) ← readValue room text
  match split : afterItem.val.dropWhile isSpace with
  | ']' :: last => some ([item], ⟨last, by
      have := length_lt_of_dropWhile_eq_cons split
      have := afterItem.property
      omega⟩)
  | ',' :: rest =>
    let (items, last) ← readItems room rest
    some (item :: items, last.within (by
      have := length_lt_of_dropWhile_eq_cons split
      have := afterItem.property
      omega))
  | _ => none
termination_by (text.length, 1)
decreasing_by
  · exact Prod.Lex.right _ (by decide)
  · have := length_lt_of_dropWhile_eq_cons split
    have := afterItem.property
    exact Prod.Lex.left _ _ (by omega)

/-- Reads the members of an object from the first one to the closing brace. -/
def readMembers (room : Nat) (text : List Char) : Option (List (String × Json) × Rest text) :=
  match opening : text.dropWhile isSpace with
  | '"' :: inName => do
    let (name, afterName) ← readString inName
    match colon : afterName.val.dropWhile isSpace with
    | ':' :: beforeValue =>
      let (value, afterValue) ← readValue room beforeValue
      let member := (String.ofList name, value)
      match split : afterValue.val.dropWhile isSpace with
      | '\x7d' :: last => some ([member], ⟨last, by
          have := length_lt_of_dropWhile_eq_cons opening
          have := length_lt_of_dropWhile_eq_cons colon
          have := length_lt_of_dropWhile_eq_cons split
          have := afterName.property
          have := afterValue.property
          omega⟩)
      | ',' :: rest =>
        let (members, last) ← readMembers room rest
        some (member :: members, last.within (by
          have := length_lt_of_dropWhile_eq_cons opening
          have := length_lt_of_dropWhile_eq_cons colon
          have := length_lt_of_dropWhile_eq_cons split
          have := afterName.property
          have := afterValue.property
          omega))
      | _ => none
    | _ => none
  | _ => none
termination_by (text.length, 1)
decreasing_by
  · have := length_lt_of_dropWhile_eq_cons opening
    have := length_lt_of_dropWhile_eq_cons colon
    have := afterName.property
    exact Prod.Lex.left _ _ (by omega)
  · have := length_lt_of_dropWhile_eq_cons opening
    have := length_lt_of_dropWhile_eq_cons colon
    have := length_lt_of_dropWhile_eq_cons split
    have := afterName.property
    have := afterValue.property
    exact Prod.Lex.left _ _ (by omega)

end

/-- Reads a whole text as one value in which so many brackets may stand inside each other. -/
def ofTextWithin? (depth : Nat) (text : String) : Option Json := do
  let (value, rest) ← readValue depth text.toList
  if rest.val.all isSpace then some value else none

/-- Reads a whole text as one value of any depth: a text opens no more brackets than it has
characters. -/
def ofText? (text : String) : Option Json :=
  ofTextWithin? text.length text

end RequestFilter.Json
