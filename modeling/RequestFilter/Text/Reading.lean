/-! # Readers of texts

A reader that has consumed something returns a strictly shorter text.  The type
of such texts carries the proof, so that readers which call themselves on what
is left terminate.  Readers of escapes share the hexadecimal digits by which a
character is named.
-/

namespace RequestFilter.Text

/-- What is left of a text after a nonempty part of it has been read. -/
abbrev Rest (text : List Char) := { rest : List Char // rest.length < text.length }

/-- What is left of a text is also left of a longer one. -/
def Rest.within {shorter text : List Char} (rest : Rest shorter)
    (shorter_le : shorter.length ≤ text.length) : Rest text :=
  ⟨rest.val, Nat.lt_of_lt_of_le rest.property shorter_le⟩

/-- Everything after the first character. -/
def Rest.tail (first : Char) (rest : List Char) : Rest (first :: rest) :=
  ⟨rest, Nat.lt_succ_self rest.length⟩

/-- Everything after the first character and so many more. -/
def Rest.skip (first : Char) (count : Nat) (rest : List Char) : Rest (first :: rest) :=
  ⟨rest.drop count, Nat.lt_succ_of_le (List.drop_sublist count rest).length_le⟩

/-- Everything after a nonempty token at the start. -/
def Rest.drop (token text : List Char) (nonempty : token ≠ [])
    (token_le : token.length ≤ text.length) : Rest text :=
  ⟨text.drop token.length, by
    have := List.length_pos_iff.mpr nonempty
    rw [List.length_drop]; omega⟩

theorem length_dropWhile_le (skips : Char → Bool) (text : List Char) :
    (text.dropWhile skips).length ≤ text.length :=
  (List.dropWhile_sublist skips).length_le

/-- The text after a skipped part and one more character is shorter. -/
theorem length_lt_of_dropWhile_eq_cons {skips : Char → Bool} {text rest : List Char} {first : Char}
    (split : text.dropWhile skips = first :: rest) : rest.length < text.length := by
  have shorter := length_dropWhile_le skips text
  rw [split, List.length_cons] at shorter
  omega

/-- The value of a hexadecimal digit. -/
def hexValue? (c : Char) : Option Nat :=
  if '0' ≤ c ∧ c ≤ '9' then some (c.toNat - '0'.toNat)
  else if 'a' ≤ c ∧ c ≤ 'f' then some (c.toNat - 'a'.toNat + 10)
  else if 'A' ≤ c ∧ c ≤ 'F' then some (c.toNat - 'A'.toNat + 10)
  else none

/-- The number that a run of hexadecimal digits denotes. -/
def hexNumber? (digits : List Char) : Option Nat :=
  digits.foldlM (fun value digit => (hexValue? digit).map (16 * value + ·)) 0

/-- The number that the first so many characters of a text denote as hexadecimal digits. -/
def leadingHex? (count : Nat) (text : List Char) : Option Nat :=
  let digits := text.take count
  if digits.length = count then hexNumber? digits else none

/-- The character with a given code point, if it is one. -/
def charOfCodePoint? (code : Nat) : Option Char :=
  if valid : code.isValidChar then some (Char.ofNatAux code valid) else none

end RequestFilter.Text
