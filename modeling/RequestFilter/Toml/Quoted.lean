import RequestFilter.Text.Blank
import RequestFilter.Text.Reading

/-! # TOML strings

The four kinds of quoted texts: basic and literal, on one line and on several.
Lines end with a newline or with a carriage return and a newline; a text on
several lines keeps them as they are written.
-/

namespace RequestFilter.Toml

open Text

/-- A character that may stand in a text on one line, or in a comment. -/
def isLineChar (c : Char) : Bool :=
  c = '\t' || (' ' ≤ c && c ≠ '\x7f')

/-- What follows the line end at the start of a text. -/
def afterLineEnd? : List Char → Option (List Char)
  | '\n' :: rest => some rest
  | '\r' :: '\n' :: rest => some rest
  | _ => none

theorem length_lt_of_afterLineEnd? {text rest : List Char} (ended : afterLineEnd? text = some rest) :
    rest.length < text.length := by
  unfold afterLineEnd? at ended
  split at ended
  · rw [Option.some.inj ended, List.length_cons]
    exact Nat.lt_succ_self _
  · rw [Option.some.inj ended, List.length_cons, List.length_cons]
    exact Nat.lt_succ_of_lt (Nat.lt_succ_self _)
  · exact absurd ended (by simp only [reduceCtorEq, not_false_eq_true])

/-- A text without the blanks and line ends at its start. -/
def skipBlankLines : List Char → List Char
  | '\r' :: '\n' :: rest => skipBlankLines rest
  | c :: rest => if isLineBlank c || c = '\n' then skipBlankLines rest else c :: rest
  | [] => []

theorem length_skipBlankLines_le (text : List Char) :
    (skipBlankLines text).length ≤ text.length := by
  fun_induction skipBlankLines text with
  | case1 rest step =>
    rw [List.length_cons, List.length_cons]
    exact Nat.le_succ_of_le (Nat.le_succ_of_le step)
  | case2 c rest _ _ step => exact Nat.le_succ_of_le step
  | case3 => exact Nat.le_refl _
  | case4 => exact Nat.le_refl _

/-- Reads what follows a backslash. -/
def readEscape : (text : List Char) → Option (Char × Rest text)
  | 'b' :: rest => some ('\x08', .tail _ rest)
  | 't' :: rest => some ('\t', .tail _ rest)
  | 'n' :: rest => some ('\n', .tail _ rest)
  | 'f' :: rest => some ('\x0c', .tail _ rest)
  | 'r' :: rest => some ('\r', .tail _ rest)
  | 'e' :: rest => some ('\x1b', .tail _ rest)
  | '"' :: rest => some ('"', .tail _ rest)
  | '\\' :: rest => some ('\\', .tail _ rest)
  | 'x' :: rest => do
    let char ← charOfCodePoint? (← leadingHex? 2 rest)
    some (char, .skip _ 2 rest)
  | 'u' :: rest => do
    let char ← charOfCodePoint? (← leadingHex? 4 rest)
    some (char, .skip _ 4 rest)
  | 'U' :: rest => do
    let char ← charOfCodePoint? (← leadingHex? 8 rest)
    some (char, .skip _ 8 rest)
  | _ => none

/-- Reads the rest of a basic text after its opening quote. -/
def readBasic (text : List Char) : Option (List Char × Rest text) :=
  match text with
  | [] => none
  | '"' :: rest => some ([], .tail _ rest)
  | '\\' :: rest => do
    let (char, afterEscape) ← readEscape rest
    let (chars, last) ← readBasic afterEscape.val
    some (char :: chars, last.within (by
      have := afterEscape.property
      simp only [List.length_cons]; omega))
  | char :: rest =>
    if isLineChar char then do
      let (chars, last) ← readBasic rest
      some (char :: chars, last.within (by simp only [List.length_cons]; omega))
    else none
termination_by text.length
decreasing_by
  · have := afterEscape.property
    simp only [List.length_cons]; omega
  · simp only [List.length_cons]; omega

/-- Reads the rest of a literal text after its opening quote. -/
def readLiteral : (text : List Char) → Option (List Char × Rest text)
  | [] => none
  | '\'' :: rest => some ([], .tail _ rest)
  | char :: rest =>
    if isLineChar char then do
      let (chars, last) ← readLiteral rest
      some (char :: chars, last.within (by simp only [List.length_cons]; omega))
    else none

/-- The end of a text on several lines after three closing quotes: up to two more quotes belong to
the text. -/
def readExtraQuotes (quote : Char) (text : List Char) :
    List Char × { rest : List Char // rest.length ≤ text.length } :=
  match text with
  | first :: second :: rest =>
    if first = quote ∧ second = quote then
      ([quote, quote], ⟨rest, by simp only [List.length_cons]; omega⟩)
    else if first = quote then ([quote], ⟨second :: rest, by simp only [List.length_cons]; omega⟩)
    else ([], ⟨first :: second :: rest, Nat.le_refl _⟩)
  | [first] =>
    if first = quote then ([quote], ⟨[], Nat.zero_le _⟩) else ([], ⟨[first], Nat.le_refl _⟩)
  | [] => ([], ⟨[], Nat.le_refl _⟩)

/-- The rest of a line that ends in a backslash, if only blanks follow the backslash: it is skipped
with the blanks and line ends after it. -/
def afterLineBreak? (text : List Char) : Option (List Char) :=
  (afterLineEnd? (text.dropWhile isLineBlank)).map skipBlankLines

theorem length_le_of_afterLineBreak? {text rest : List Char}
    (skipped : afterLineBreak? text = some rest) : rest.length ≤ text.length := by
  obtain ⟨line, ended, rfl⟩ := Option.map_eq_some_iff.mp skipped
  have blanks := length_dropWhile_le isLineBlank text
  have shorter := length_lt_of_afterLineEnd? ended
  have filler := length_skipBlankLines_le line
  omega

/-- Reads the rest of a basic text on several lines. -/
def readLongBasic (text : List Char) : Option (List Char × Rest text) :=
  match text with
  | [] => none
  | '"' :: '"' :: '"' :: rest =>
    let (quotes, last) := readExtraQuotes '"' rest
    some (quotes, ⟨last.val, by
      have := last.property
      simp only [List.length_cons]; omega⟩)
  | '\\' :: rest =>
    match skipped : afterLineBreak? rest with
    | some next => do
      let (chars, last) ← readLongBasic next
      some (chars, last.within (by
        have := length_le_of_afterLineBreak? skipped
        simp only [List.length_cons]; omega))
    | none => do
      let (char, afterEscape) ← readEscape rest
      let (chars, last) ← readLongBasic afterEscape.val
      some (char :: chars, last.within (by
        have := afterEscape.property
        simp only [List.length_cons]; omega))
  | '\r' :: '\n' :: rest => do
    let (chars, last) ← readLongBasic rest
    some ('\r' :: '\n' :: chars, last.within (by simp only [List.length_cons]; omega))
  | char :: rest =>
    if isLineChar char || char = '\n' then do
      let (chars, last) ← readLongBasic rest
      some (char :: chars, last.within (by simp only [List.length_cons]; omega))
    else none
termination_by text.length
decreasing_by
  · have := length_le_of_afterLineBreak? skipped
    simp only [List.length_cons]; omega
  · have := afterEscape.property
    simp only [List.length_cons]; omega
  · simp only [List.length_cons]; omega
  · simp only [List.length_cons]; omega

/-- Reads the rest of a literal text on several lines. -/
def readLongLiteral : (text : List Char) → Option (List Char × Rest text)
  | [] => none
  | '\'' :: '\'' :: '\'' :: rest =>
    let (quotes, last) := readExtraQuotes '\'' rest
    some (quotes, ⟨last.val, by
      have := last.property
      simp only [List.length_cons]; omega⟩)
  | '\r' :: '\n' :: rest => do
    let (chars, last) ← readLongLiteral rest
    some ('\r' :: '\n' :: chars, last.within (by simp only [List.length_cons]; omega))
  | char :: rest =>
    if isLineChar char || char = '\n' then do
      let (chars, last) ← readLongLiteral rest
      some (char :: chars, last.within (by simp only [List.length_cons]; omega))
    else none

/-- A line end right after the opening quotes is not part of the text. -/
def afterFirstLineEnd (text : List Char) : { rest : List Char // rest.length ≤ text.length } :=
  match ended : afterLineEnd? text with
  | some rest => ⟨rest, Nat.le_of_lt (length_lt_of_afterLineEnd? ended)⟩
  | none => ⟨text, Nat.le_refl _⟩

/-- Reads a quoted text on one line. -/
def readQuoted : (text : List Char) → Option (String × Rest text)
  | '"' :: rest => do
    let (chars, last) ← readBasic rest
    some (String.ofList chars, last.within (by simp only [List.length_cons]; omega))
  | '\'' :: rest => do
    let (chars, last) ← readLiteral rest
    some (String.ofList chars, last.within (by simp only [List.length_cons]; omega))
  | _ => none

/-- Reads a quoted text of any kind. -/
def readText (text : List Char) : Option (String × Rest text) :=
  match text with
  | '"' :: '"' :: '"' :: rest => do
    let start := afterFirstLineEnd rest
    let (chars, last) ← readLongBasic start.val
    some (String.ofList chars, last.within (by
      have := start.property
      simp only [List.length_cons]; omega))
  | '\'' :: '\'' :: '\'' :: rest => do
    let start := afterFirstLineEnd rest
    let (chars, last) ← readLongLiteral start.val
    some (String.ofList chars, last.within (by
      have := start.property
      simp only [List.length_cons]; omega))
  | other => readQuoted other

end RequestFilter.Toml
