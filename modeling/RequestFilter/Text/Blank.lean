/-! # Blank characters

The characters with the Unicode property White_Space, the blanks that stand within
a line, and a text without the blanks at its two ends.  A property of characters is
given as a list of closed ranges of code points.  A text may also start with a byte
order mark, which is not part of what it says.
-/

namespace RequestFilter.Text

/-- A character lies in one of the closed ranges of code points. -/
def inRanges (ranges : List (Nat × Nat)) (c : Char) : Bool :=
  ranges.any fun range => range.1 ≤ c.toNat && c.toNat ≤ range.2

/-- The code points with the property White_Space. -/
def blankRanges : List (Nat × Nat) :=
  [(0x9, 0xd), (0x20, 0x20), (0x85, 0x85), (0xa0, 0xa0), (0x1680, 0x1680), (0x2000, 0x200a),
    (0x2028, 0x2029), (0x202f, 0x202f), (0x205f, 0x205f), (0x3000, 0x3000)]

/-- A character is blank when it has the property White_Space. -/
def isBlank (c : Char) : Bool :=
  inRanges blankRanges c

/-- Blanks within a line: spaces and tabs. -/
def isLineBlank (c : Char) : Bool :=
  c = ' ' || c = '\t'

/-- The text between the characters to skip at its start and those at its end. -/
def trimWhile (skips : Char → Bool) (text : List Char) : List Char :=
  ((text.dropWhile skips).reverse.dropWhile skips).reverse

/-- The text between the blanks at its start and the blanks at its end. -/
def trim (text : List Char) : List Char :=
  trimWhile isBlank text

/-- A text without a byte order mark at its start. -/
def withoutMark : List Char → List Char
  | '\ufeff' :: rest => rest
  | unmarked => unmarked

end RequestFilter.Text
