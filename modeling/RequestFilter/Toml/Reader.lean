import RequestFilter.Text.Blank
import RequestFilter.Toml.Quoted
import RequestFilter.Toml.Scalar

/-! # Reading TOML text

Reads TOML 1.1, up to a depth of brackets: statements on lines of their own, with
comments and blank lines between them, and values that may run over several
lines only inside brackets and long texts.
-/

namespace RequestFilter.Toml

open Text

/-- The characters of names without quotes. -/
def isBareChar (c : Char) : Bool :=
  c.isAlphanum || c = '_' || c = '-'

/-- How many brackets may stand inside each other, and how many names may make up a dotted key. -/
def maxDepth : Nat := 80

/-- Reads one name of a dotted key. -/
def readName (text : List Char) : Option (String × Rest text) :=
  let bare := text.takeWhile isBareChar
  if nonempty : bare ≠ [] then
    some (String.ofList bare,
      .drop bare text nonempty (List.takeWhile_sublist _).length_le)
  else readQuoted text

/-- Reads a dotted key after any blanks; blanks may surround the dots.  There is room for so many
names. -/
def readPath (room : Nat) (text : List Char) : Option (Path × Rest text) :=
  match room with
  | 0 => none
  | room + 1 => do
    let start := text.dropWhile isLineBlank
    have start_le : start.length ≤ text.length := length_dropWhile_le _ _
    let (name, afterName) ← readName start
    match split : afterName.val.dropWhile isLineBlank with
    | '.' :: rest =>
      let (path, last) ← readPath room rest
      some (⟨name :: path.parents, path.name⟩, last.within (by
        have := length_lt_of_dropWhile_eq_cons split
        have := afterName.property
        omega))
    | _ => some (⟨[], name⟩, afterName.within start_le)

/-- Skips blanks, line ends and comments; `inComment` while a comment lasts.  A comment holds only
characters that may stand on a line. -/
def afterFiller? (inComment : Bool) : List Char → Option (List Char)
  | [] => some []
  | '\r' :: '\n' :: rest => afterFiller? false rest
  | c :: rest =>
    if c = '\n' then afterFiller? false rest
    else if inComment then if isLineChar c then afterFiller? true rest else none
    else if isLineBlank c then afterFiller? false rest
    else if c = '#' then afterFiller? true rest
    else some (c :: rest)

theorem length_le_of_afterFiller? {inComment : Bool} {text rest : List Char}
    (skipped : afterFiller? inComment text = some rest) : rest.length ≤ text.length := by
  fun_induction afterFiller? inComment text with
  | case1 => exact Nat.le_of_eq (congrArg List.length (Option.some.inj skipped).symm)
  | case2 inComment text step =>
    exact Nat.le_succ_of_le (Nat.le_succ_of_le (step skipped))
  | case3 => rename_i step; exact Nat.le_succ_of_le (step skipped)
  | case4 => rename_i step; exact Nat.le_succ_of_le (step skipped)
  | case5 => exact absurd skipped (by simp only [reduceCtorEq, not_false_eq_true])
  | case6 => rename_i step; exact Nat.le_succ_of_le (step skipped)
  | case7 => rename_i step; exact Nat.le_succ_of_le (step skipped)
  | case8 => exact Nat.le_of_eq (congrArg List.length (Option.some.inj skipped).symm)

/-- Skips blanks, line ends and comments. -/
def skipFiller (text : List Char) : Option { rest : List Char // rest.length ≤ text.length } :=
  match skipped : afterFiller? false text with
  | some rest => some ⟨rest, length_le_of_afterFiller? skipped⟩
  | none => none

/-- The characters of scalars without quotes: all but those that part the tokens of a document. -/
def isScalarChar (c : Char) : Bool :=
  c ∉ ['=', ',', '[', ']', '\x7b', '\x7d', '#', ' ', '\t', '\r', '\n']

/-- A scalar that has come to blanks goes on after them with such a character. -/
def goesOn (c : Char) : Bool :=
  isScalarChar c && c ≠ '.' && c ≠ '"' && c ≠ '\''

/-- The scalar at the start of a text: a run of its characters, over the blanks between them.  So a
date goes on with a time, and a word with what follows it on its line. -/
def scalarToken : List Char → List Char
  | [] => []
  | c :: rest =>
    if isScalarChar c || (isLineBlank c && (rest.dropWhile isLineBlank).head?.any goesOn) then
      c :: scalarToken rest
    else []

theorem scalarToken_isPrefix (text : List Char) : scalarToken text <+: text := by
  fun_induction scalarToken text with
  | case1 => exact List.prefix_refl _
  | case2 c rest _ step => exact List.cons_prefix_cons.mpr ⟨rfl, step⟩
  | case3 => exact List.nil_prefix

/-- Reads a scalar without quotes. -/
def readScalar (text : List Char) : Option (Toml × Rest text) :=
  let token := scalarToken text
  if nonempty : token ≠ [] then
    (scalar? token).map fun value =>
      (value, .drop token text nonempty (scalarToken_isPrefix text).length_le)
  else none

mutual

/-- Reads a value.  There is room for so many brackets inside each other. -/
def readValue (room : Nat) (text : List Char) : Option (Toml × Rest text) :=
  match text with
  | '"' :: rest => do
    let (chars, last) ← readText ('"' :: rest)
    some (.text chars, last)
  | '\'' :: rest => do
    let (chars, last) ← readText ('\'' :: rest)
    some (.text chars, last)
  | '[' :: rest =>
    match room with
    | 0 => none
    | room + 1 => do
      let (items, last) ← readItems room rest
      some (.array items, last.within (by simp only [List.length_cons]; omega))
  | '\x7b' :: rest =>
    match room with
    | 0 => none
    | room + 1 => do
      let (pairs, last) ← readPairs room rest
      let table ← inlineTable? pairs
      some (table, last.within (by simp only [List.length_cons]; omega))
  | first :: rest => readScalar (first :: rest)
  | [] => none
termination_by (text.length, 0)
decreasing_by
  all_goals exact Prod.Lex.left _ _ (by simp only [List.length_cons]; omega)

/-- Reads the items of an array up to its closing bracket; a comma may follow the last one. -/
def readItems (room : Nat) (text : List Char) : Option (List Toml × Rest text) := do
  let start ← skipFiller text
  match opening : start.val with
  | ']' :: last => some ([], ⟨last, by
      have := start.property
      rw [opening, List.length_cons] at this
      omega⟩)
  | first :: more =>
    let (item, afterItem) ← readValue room (first :: more)
    let separator ← skipFiller afterItem.val
    match split : separator.val with
    | ']' :: last => some ([item], ⟨last, by
        have := start.property
        have := afterItem.property
        have := separator.property
        rw [split, List.length_cons] at this
        rw [opening] at *
        omega⟩)
    | ',' :: rest =>
      let (items, last) ← readItems room rest
      some (item :: items, last.within (by
        have := start.property
        have := afterItem.property
        have := separator.property
        rw [split, List.length_cons] at this
        rw [opening] at *
        omega))
    | _ => none
  | [] => none
termination_by (text.length, 1)
decreasing_by
  · have bound := start.property
    rw [opening] at bound
    rcases Nat.lt_or_eq_of_le bound with shorter | same
    · exact Prod.Lex.left _ _ shorter
    · rw [same]
      exact Prod.Lex.right _ (by decide)
  · have := start.property
    have := afterItem.property
    have := separator.property
    rw [split, List.length_cons] at this
    rw [opening] at *
    exact Prod.Lex.left _ _ (by omega)

/-- Reads the pairs of an inline table up to its closing brace; a comma may follow the last one. -/
def readPairs (room : Nat) (text : List Char) : Option (List (Path × Toml) × Rest text) := do
  let start ← skipFiller text
  match opening : start.val with
  | '\x7d' :: last => some ([], ⟨last, by
      have := start.property
      rw [opening, List.length_cons] at this
      omega⟩)
  | first :: more =>
    let (path, afterPath) ← readPath maxDepth (first :: more)
    let beforeEquals ← skipFiller afterPath.val
    match equals : beforeEquals.val with
    | '=' :: afterEquals =>
      let beforeValue ← skipFiller afterEquals
      let (value, afterValue) ← readValue room beforeValue.val
      let separator ← skipFiller afterValue.val
      match split : separator.val with
      | '\x7d' :: last => some ([(path, value)], ⟨last, by
          have := start.property
          have := afterPath.property
          have := beforeEquals.property
          have := beforeValue.property
          have := afterValue.property
          have := separator.property
          rw [split, List.length_cons] at this
          rw [equals, List.length_cons] at *
          rw [opening] at *
          omega⟩)
      | ',' :: rest =>
        let (pairs, last) ← readPairs room rest
        some ((path, value) :: pairs, last.within (by
          have := start.property
          have := afterPath.property
          have := beforeEquals.property
          have := beforeValue.property
          have := afterValue.property
          have := separator.property
          rw [split, List.length_cons] at this
          rw [equals, List.length_cons] at *
          rw [opening] at *
          omega))
      | _ => none
    | _ => none
  | [] => none
termination_by (text.length, 1)
decreasing_by
  · have := start.property
    have := afterPath.property
    have := beforeEquals.property
    have := beforeValue.property
    rw [equals, List.length_cons] at *
    rw [opening] at *
    exact Prod.Lex.left _ _ (by omega)
  · have := start.property
    have := afterPath.property
    have := beforeEquals.property
    have := beforeValue.property
    have := afterValue.property
    have := separator.property
    rw [split, List.length_cons] at this
    rw [equals, List.length_cons] at *
    rw [opening] at *
    exact Prod.Lex.left _ _ (by omega)

end

/-- Reads one statement, up to the end of its line or a comment. -/
def readStatement (text : List Char) : Option (Statement × Rest text) :=
  match text with
  | '[' :: '[' :: rest => do
    let (path, afterPath) ← readPath maxDepth rest
    match split : afterPath.val.dropWhile isLineBlank with
    | ']' :: ']' :: last => some (.row path, ⟨last, by
        have := length_lt_of_dropWhile_eq_cons split
        have := afterPath.property
        simp only [List.length_cons] at *; omega⟩)
    | _ => none
  | '[' :: rest => do
    let (path, afterPath) ← readPath maxDepth rest
    match split : afterPath.val.dropWhile isLineBlank with
    | ']' :: last => some (.header path, ⟨last, by
        have := length_lt_of_dropWhile_eq_cons split
        have := afterPath.property
        simp only [List.length_cons] at *; omega⟩)
    | _ => none
  | other => do
    let (path, afterPath) ← readPath maxDepth other
    match split : afterPath.val.dropWhile isLineBlank with
    | '=' :: beforeValue =>
      let (value, afterValue) ← readValue maxDepth (beforeValue.dropWhile isLineBlank)
      have start_le := length_dropWhile_le isLineBlank beforeValue
      some (.pair path value, afterValue.within (by
        have := length_lt_of_dropWhile_eq_cons split
        have := afterPath.property
        omega))
    | _ => none

/-- What follows a statement on its line: nothing but blanks and a comment. -/
def atLineEnd (text : List Char) : Bool :=
  match text.dropWhile isLineBlank with
  | [] => true
  | '#' :: _ => true
  | other => (afterLineEnd? other).isSome

/-- Reads the statements of a document. -/
def readStatements (text : List Char) : Option (List Statement) := do
  let start ← skipFiller text
  if start.val = [] then some []
  else
    let (statement, afterStatement) ← readStatement start.val
    if atLineEnd afterStatement.val then
      let statements ← readStatements afterStatement.val
      some (statement :: statements)
    else none
termination_by text.length
decreasing_by
  have := start.property
  have := afterStatement.property
  omega

/-- The table that a document states. -/
def ofText? (implied : Implied) (text : String) : Option Members := do
  ofStatements? implied (← readStatements (withoutMark text.toList))

end RequestFilter.Toml
