import Mathlib.Data.List.Forall2
import RequestFilter.Sql.Filtering

/-! # What patterns match

A data source reads a pattern as pieces (`pieces?`): a backslash makes the next
character stand for itself, a percent sign stands for any characters and an
underscore for any one.  A pattern matches the texts that its pieces take part by
part, where a character takes those that count as the same (`Matches`).

A text that is set into a pattern becomes pieces that stand for its characters
and nothing else (`pieces?_likeLiteral`).  The pattern of a filter therefore
matches exactly the texts that have the text of the filter, as it stands, at
their start or anywhere (`exists_pattern_matches_iff`).
-/

namespace RequestFilter

/-- A content has a text at a place, up to characters that count as the same. -/
def Pattern.Finds (same : Char → Char → Prop) (text content : List Char) : Pattern → Prop
  | .startsWith => ∃ start rest, content = start ++ rest ∧ List.Forall₂ same text start
  | .contains => ∃ before part rest, content = before ++ (part ++ rest) ∧
      List.Forall₂ same text part

namespace Sql

/-- A piece of a pattern. -/
inductive Piece where
  /-- A character that stands for itself. -/
  | literal (c : Char)
  /-- Any one character. -/
  | one
  /-- Any characters, or none. -/
  | any
deriving DecidableEq, Repr

/-- The pieces of a pattern.  A pattern that ends with a backslash before nothing is refused. -/
def pieces? : List Char → Option (List Piece)
  | [] => some []
  | ['\\'] => none
  | '\\' :: c :: rest => (pieces? rest).map (.literal c :: ·)
  | '%' :: rest => (pieces? rest).map (.any :: ·)
  | '_' :: rest => (pieces? rest).map (.one :: ·)
  | c :: rest => (pieces? rest).map (.literal c :: ·)

section Matching

variable (same : Char → Char → Prop)

/-- A piece takes a part of a text. -/
def Piece.Takes : Piece → List Char → Prop
  | .literal c, part => ∃ d, part = [d] ∧ same c d
  | .one, part => ∃ d, part = [d]
  | .any, _ => True

/-- Pieces take a text part by part. -/
def TakeAll : List Piece → List Char → Prop
  | [], text => text = []
  | piece :: rest, text =>
    ∃ part after, text = part ++ after ∧ piece.Takes same part ∧ TakeAll rest after

/-- A pattern matches a text. -/
def Matches (pattern text : String) : Prop :=
  ∃ pieces, pieces? pattern.toList = some pieces ∧ TakeAll same pieces text.toList

variable {same}

/-- Two rows of pieces take a text when it falls into two texts that they take. -/
theorem takeAll_append {pieces others : List Piece} {text : List Char} :
    TakeAll same (pieces ++ others) text ↔
      ∃ first second, text = first ++ second ∧ TakeAll same pieces first ∧
        TakeAll same others second := by
  induction pieces generalizing text with
  | nil =>
      constructor
      · intro takes
        exact ⟨[], text, rfl, rfl, takes⟩
      · rintro ⟨_, second, rfl, rfl, takes⟩
        exact takes
  | cons piece pieces ih =>
      constructor
      · rintro ⟨part, after, rfl, takes, rest⟩
        obtain ⟨first, second, rfl, firstTakes, secondTakes⟩ := ih.mp rest
        exact ⟨part ++ first, second, (List.append_assoc ..).symm,
          ⟨part, first, rfl, takes, firstTakes⟩, secondTakes⟩
      · rintro ⟨_, second, rfl, ⟨part, first, rfl, takes, firstTakes⟩, secondTakes⟩
        exact ⟨part, first ++ second, List.append_assoc .., takes,
          ih.mpr ⟨first, second, rfl, firstTakes, secondTakes⟩⟩

/-- Pieces that stand for the characters of a text take the same text. -/
theorem takeAll_map_literal {text content : List Char} :
    TakeAll same (text.map .literal) content ↔ List.Forall₂ same text content := by
  induction text generalizing content with
  | nil => exact List.forall₂_nil_left_iff.symm
  | cons c text ih =>
      constructor
      · rintro ⟨_, after, rfl, ⟨d, rfl, alike⟩, rest⟩
        exact .cons alike (ih.mp rest)
      · rintro (_ | ⟨alike, rest⟩)
        exact ⟨[_], _, rfl, ⟨_, rfl, alike⟩, ih.mpr rest⟩

theorem takeAll_any_cons {pieces : List Piece} {text : List Char} :
    TakeAll same (.any :: pieces) text ↔
      ∃ before after, text = before ++ after ∧ TakeAll same pieces after := by
  simp only [TakeAll, Piece.Takes, true_and]

/-- Characters before a percent sign take what begins with them. -/
theorem takeAll_map_literal_any {text content : List Char} :
    TakeAll same (text.map .literal ++ [.any]) content ↔
      ∃ start rest, content = start ++ rest ∧ List.Forall₂ same text start := by
  have takes (rest : List Char) : TakeAll same [.any] rest :=
    takeAll_any_cons.mpr ⟨rest, [], (List.append_nil rest).symm, rfl⟩
  simp only [takeAll_append, takeAll_map_literal, takes, and_true]

end Matching

section Escaping

/-- A character that is set into a pattern stands for itself, whatever follows it. -/
theorem pieces?_likeChar (c : Char) (rest : List Char) :
    pieces? (likeChar c ++ rest) = (pieces? rest).map (.literal c :: ·) := by
  unfold likeChar
  split
  · rfl
  · rename_i plain
    obtain ⟨backslash, percent, underscore⟩ := not_or.mp plain |>.imp_right not_or.mp
    rw [List.singleton_append, pieces?]
    · exact fun same _ => backslash same
    · exact fun _ _ same _ => backslash same
    · exact percent
    · exact underscore

/-- So does a text. -/
theorem pieces?_flatMap_likeChar (text rest : List Char) :
    pieces? (text.flatMap likeChar ++ rest) = (pieces? rest).map (text.map .literal ++ ·) := by
  induction text with
  | nil => exact Option.map_id'.symm
  | cons c text ih =>
      rw [List.flatMap_cons, List.append_assoc, pieces?_likeChar, ih, Option.map_map]
      rfl

theorem pieces?_likeLiteral (text rest : String) :
    pieces? (likeLiteral text ++ rest).toList =
      (pieces? rest.toList).map (text.toList.map .literal ++ ·) := by
  rw [String.toList_append, likeLiteral, String.toList_ofList, pieces?_flatMap_likeChar]

/-- The pieces of the pattern of a filter. -/
theorem pieces?_likePattern (place : Pattern) (text : String) :
    pieces? (likePattern place text).toList =
      some (match place with
        | .startsWith => text.toList.map .literal ++ [.any]
        | .contains => .any :: (text.toList.map .literal ++ [.any])) := by
  cases place with
  | startsWith => exact pieces?_likeLiteral text "%"
  | contains =>
      rw [likePattern, String.append_assoc, String.toList_append]
      change (pieces? (likeLiteral text ++ "%").toList).map _ = _
      rw [pieces?_likeLiteral]
      rfl

/-- A backslash at the end of a text does not reach the percent sign behind it. -/
example : pieces? (likePattern .startsWith "_%\\").toList =
    some [.literal '_', .literal '%', .literal '\\', .any] := by decide

/-- The pattern of a filter matches the texts that have the text of the filter in its place. -/
theorem matches_likePattern_iff (same : Char → Char → Prop) (place : Pattern)
    (text content : String) :
    Matches same (likePattern place text) content ↔
      place.Finds same text.toList content.toList := by
  unfold Matches
  simp only [pieces?_likePattern, Option.some.injEq, exists_eq_left']
  cases place with
  | startsWith => exact takeAll_map_literal_any
  | contains =>
      simp only [takeAll_any_cons, takeAll_map_literal_any]
      constructor
      · rintro ⟨before, _, whole, part, rest, rfl, alike⟩
        exact ⟨before, part, rest, whole, alike⟩
      · rintro ⟨before, part, rest, whole, alike⟩
        exact ⟨before, _, whole, part, rest, rfl, alike⟩

/-- Sets a backslash before each of one character in a text. -/
def escape (special : Char) (text : List Char) : List Char :=
  text.flatMap fun c => if c = special then ['\\', c] else [c]

/-- Sets a backslash before the three characters that mean something in a pattern, one after the
other; the backslash itself comes first. -/
def escaped (text : String) : String :=
  String.ofList (escape '_' (escape '%' (escape '\\' text.toList)))

/-- The three characters can be escaped in one pass as well. -/
theorem likeLiteral_eq_escaped (text : String) : likeLiteral text = escaped text := by
  unfold likeLiteral escaped escape
  rw [List.flatMap_assoc, List.flatMap_assoc]
  congr 2
  funext c
  by_cases backslash : c = '\\'
  · subst backslash
    rfl
  by_cases percent : c = '%'
  · subst percent
    rfl
  by_cases underscore : c = '_'
  · subst underscore
    rfl
  simp only [likeChar, backslash, percent, underscore, or_self, ↓reduceIte, List.flatMap_cons,
    List.flatMap_nil, List.append_nil]

end Escaping

/-- **The text of a filter is matched as it stands.**  A filter that looks for a text at the start
or anywhere stores one pattern, whatever the selection and the column, provided that the names of
the column are identifiers.  Whatever characters count as the same, the pattern matches exactly the
contents that have the text, character by character, at the start or anywhere. -/
theorem exists_pattern_matches_iff (same : Char → Char → Prop) (place : Pattern) (text : String) :
    ∃ pattern : String,
      (∀ (select : Select) (column : Column),
        Filterable.wherePattern select column place text =
          (checkedColumn column).map fun column => select.addCondition (.like column pattern)) ∧
      ∀ content : String,
        Matches same pattern content ↔ place.Finds same text.toList content.toList := by
  refine ⟨likePattern place text, fun select column => ?_, matches_likePattern_iff same place text⟩
  change (checkedColumn column >>= fun column =>
    pure (select.addCondition (.like column (likePattern place text)))) = _
  cases checkedColumn column <;> rfl

end Sql

end RequestFilter
