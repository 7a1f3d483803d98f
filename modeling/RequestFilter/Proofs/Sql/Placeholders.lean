import Mathlib.Data.List.TakeWhile
import RequestFilter.Proofs.Sql.Unambiguous

/-! # Placeholders and values

The values of a statement are bound by number: behind a dollar sign stands the
place of a value.  A written condition has one placeholder, that of its own place
(`Condition.placeholders_text`), and nothing else in a statement has a dollar
sign, since no identifier has one.  So the placeholders of a statement count the
conditions, and each names the place of the value that its condition binds
(`Select.numbered_of_written`).
-/

namespace RequestFilter.Sql

section Scanning

/-- The placeholders of a text: for each dollar sign the digits that follow it. -/
def placeholders : List Char → List (List Char)
  | [] => []
  | c :: rest =>
    if c = '$' then rest.takeWhile Char.isDigit :: placeholders rest else placeholders rest

variable {text rest : List Char}

theorem placeholders_eq_nil_iff : placeholders text = [] ↔ '$' ∉ text := by
  induction text with
  | nil => simp only [placeholders, List.not_mem_nil, not_false_eq_true]
  | cons c rest ih =>
      by_cases dollar : c = '$'
      · simp only [placeholders, dollar, ↓reduceIte, reduceCtorEq, List.mem_cons, true_or,
          not_true_eq_false]
      · simp only [placeholders, dollar, ↓reduceIte, ih, List.mem_cons, eq_comm (a := '$'),
          false_or]

/-- A text whose digits are not continued has its own placeholders. -/
theorem placeholders_append (ends : ∀ c ∈ rest.head?, c.isDigit = false) :
    placeholders (text ++ rest) = placeholders text ++ placeholders rest := by
  have digits (run : List Char) :
      (run ++ rest).takeWhile Char.isDigit = run.takeWhile Char.isDigit := by
    by_cases within : ∀ c ∈ run, c.isDigit = true
    · rw [takeWhile_append_of_ends within ends, List.takeWhile_eq_self_iff.mpr within]
    · rw [List.takeWhile_append, if_neg]
      intro same
      have whole := (List.takeWhile_prefix Char.isDigit).eq_of_length same
      exact within (List.takeWhile_eq_self_iff.mp whole)
  induction text with
  | nil => rfl
  | cons c text ih =>
      simp only [List.cons_append, placeholders, digits, ih]
      split <;> rfl

theorem placeholders_append_of_not_mem (free : '$' ∉ text) :
    placeholders (text ++ rest) = placeholders rest := by
  induction text with
  | nil => rfl
  | cons c text ih =>
      rw [List.mem_cons, not_or] at free
      rw [List.cons_append, placeholders, if_neg (Ne.symm free.1), ih free.2]

/-- A dollar sign before a run of digits is the placeholder of the run. -/
theorem placeholders_dollar {digits : List Char} (within : ∀ c ∈ digits, c.isDigit = true)
    (ends : ∀ c ∈ rest.head?, c.isDigit = false) :
    placeholders ('$' :: (digits ++ rest)) = digits :: placeholders rest := by
  have free : '$' ∉ digits := fun member => absurd (within _ member) (by decide)
  rw [placeholders, if_pos rfl, takeWhile_append_of_ends within ends,
    placeholders_append_of_not_mem free]

end Scanning

section Names

theorem dollar_not_mem_quoted {name : String} (valid : IsIdentifier name) :
    '$' ∉ (quoted name).toList := by
  have free : '$' ∉ name.toList := fun member =>
    absurd (List.all_eq_true.mp valid.2 '$' member) (by decide)
  simp [quoted, free]

theorem dollar_not_mem_columnText {column : Column} (valid : IsColumn column) :
    '$' ∉ (columnText column).toList := by
  simp [columnText, dollar_not_mem_quoted valid.1, dollar_not_mem_quoted valid.2]

theorem dollar_not_mem_tableText {schema : Option String} {table : String}
    (valid : IsTable schema table) : '$' ∉ (tableText schema table).toList := by
  cases schema with
  | none => exact dollar_not_mem_quoted valid.1
  | some name =>
      simp [tableText, dollar_not_mem_quoted valid.1, dollar_not_mem_quoted (valid.2 name rfl)]

theorem dollar_not_mem_joinText {schema : Option String} {join : Join}
    (valid : join.Writable schema) : '$' ∉ (join.text schema).toList := by
  have kind : '$' ∉ join.kind.sql.toList := by cases join.kind <;> decide
  simp [Join.text, kind, dollar_not_mem_tableText valid.table, dollar_not_mem_quoted valid.relation,
    dollar_not_mem_columnText valid.anchor, dollar_not_mem_quoted valid.remote]

theorem dollar_not_mem_sortKeyText {key : SortKey} (valid : IsColumn key.column) :
    '$' ∉ key.text.toList := by
  have direction : '$' ∉ (directionSql key.direction).toList := by
    cases key.direction <;> decide
  simp [SortKey.text, dollar_not_mem_columnText valid, direction]

theorem dollar_not_mem_toString (number : Nat) : '$' ∉ (toString number).toList := fun member =>
  absurd (isDigit_of_mem_toString '$' member) (by decide)

/-- A clause is free of dollar signs when its words and its items are. -/
theorem dollar_not_mem_clauseText {introduction separator : String}
    (opening : '$' ∉ introduction.toList) (between : '$' ∉ separator.toList)
    {items : List String} (each : ∀ item ∈ items, '$' ∉ item.toList) :
    '$' ∉ (clauseText introduction separator items).toList := by
  cases items with
  | nil => exact List.not_mem_nil
  | cons first items =>
      rw [List.forall_mem_cons] at each
      have rest : '$' ∉ items.flatMap fun item => separator.toList ++ item.toList := by
        intro inside
        obtain ⟨item, member, inside⟩ := List.mem_flatMap.mp inside
        exact (List.mem_append.mp inside).elim between (each.2 item member)
      change '$' ∉ (introduction ++ separator.intercalate (first :: items)).toList
      rw [String.toList_append, toList_intercalate_cons, List.mem_append, List.mem_append]
      exact not_or.mpr ⟨opening, not_or.mpr ⟨each.1, rest⟩⟩

end Names

section Conditions

/-- What a comparator puts before its placeholder. -/
def Comparator.opening : Comparator → String
  | .operator which => which.sql ++ " "
  | .any => "= ANY("

/-- What stands behind the placeholder of a comparator until its condition ends. -/
def Comparator.closing : Comparator → String
  | .operator _ => ")"
  | .any => "))"

/-- A written condition has the placeholder of its number and no other. -/
theorem Condition.placeholders_text {condition : Condition} (valid : IsColumn condition.column)
    (number : Nat) :
    placeholders (condition.text number).toList = [(toString number).toList] := by
  have spelled : (condition.text number).toList =
      ("(" ++ columnText condition.column ++ " " ++ condition.comparator.opening).toList ++
        ('$' :: ((toString number).toList ++ condition.comparator.closing.toList)) := by
    cases how : condition.comparator <;>
      simp [Condition.text, how, Comparator.text, Comparator.opening, Comparator.closing]
  have opening : '$' ∉ condition.comparator.opening.toList := by
    cases condition.comparator with
    | operator which => cases which <;> decide
    | any => decide
  have free : '$' ∉
      ("(" ++ columnText condition.column ++ " " ++ condition.comparator.opening).toList := by
    simp [dollar_not_mem_columnText valid, opening]
  have closing : condition.comparator.closing.toList.head? = some ')' ∧
      '$' ∉ condition.comparator.closing.toList := by
    cases condition.comparator with
    | operator which => cases which <;> decide
    | any => decide
  have ends : ∀ c ∈ condition.comparator.closing.toList.head?, c.isDigit = false := by
    rw [closing.1]
    rintro c ⟨⟩
    decide
  rw [spelled, placeholders_append_of_not_mem free,
    placeholders_dollar isDigit_of_mem_toString ends, placeholders_eq_nil_iff.mpr closing.2]

/-- Items behind separators do not continue the digits of what is before them. -/
theorem head?_flatMap_ne_digit {separator : String} (spaced : separator.toList.head? = some ' ')
    (items : List String) :
    ∀ c ∈ (items.flatMap fun item => separator.toList ++ item.toList).head?,
      c.isDigit = false := by
  cases items with
  | nil => exact fun c member => absurd member (Option.not_mem_none c)
  | cons item items =>
      rw [List.flatMap_cons, List.append_assoc, List.head?_append, spaced, Option.some_or]
      rintro c ⟨⟩
      decide

/-- A clause has the placeholders of its items. -/
theorem placeholders_clauseText {introduction separator : String}
    (opening : '$' ∉ introduction.toList) (between : '$' ∉ separator.toList)
    (spaced : separator.toList.head? = some ' ') (items : List String) :
    placeholders (clauseText introduction separator items).toList =
      items.flatMap fun item => placeholders item.toList := by
  have others (items : List String) :
      placeholders (items.flatMap fun item => separator.toList ++ item.toList) =
        items.flatMap fun item => placeholders item.toList := by
    induction items with
    | nil => rfl
    | cons item items ih =>
        rw [List.flatMap_cons, List.append_assoc, placeholders_append_of_not_mem between,
          placeholders_append (head?_flatMap_ne_digit spaced items), ih, List.flatMap_cons]
  cases items with
  | nil => rfl
  | cons first items =>
      change placeholders (introduction ++ separator.intercalate (first :: items)).toList = _
      rw [String.toList_append, toList_intercalate_cons, placeholders_append_of_not_mem opening,
        placeholders_append (head?_flatMap_ne_digit spaced items), others, List.flatMap_cons]

end Conditions

/-- A condition binds the value that it compares its column with, and for a pattern its text. -/
inductive Condition.Binds : Condition → Parameter → Prop
  | compare (column : Column) (operator : Operator) (value : Parameter) :
      Binds (.compare column operator value) value
  | anyOf (column : Column) (values : Parameter) : Binds (.anyOf column values) values
  | like (column : Column) (pattern : String) : Binds (.like column pattern) (.text pattern)
  | array (column : Column) (operator : Operator) (values : Parameter) :
      Binds (.array column operator values) values

theorem Condition.binds_parameter (condition : Condition) :
    condition.Binds condition.parameter := by
  cases condition <;> constructor

namespace Select

variable {select : Select}

/-- The table and the joins are a clause without words before it. -/
theorem dollar_not_mem_fromText (writable : select.unsorted.Writable) :
    '$' ∉ select.fromText.toList := by
  have table := dollar_not_mem_tableText writable.table
  have relation := dollar_not_mem_quoted writable.relation
  have clause : select.fromText = clauseText "" " "
      ((tableText select.schema select.table ++ " AS " ++ quoted select.relation) ::
        select.joins.map (Join.text select.schema)) := (String.empty_append ..).symm
  rw [clause]
  apply dollar_not_mem_clauseText (by decide) (by decide)
  rw [List.forall_mem_cons, List.forall_mem_map]
  refine ⟨?_, fun join member => dollar_not_mem_joinText (writable.joins join member)⟩
  rw [String.toList_append, String.toList_append, List.mem_append, List.mem_append]
  exact not_or.mpr ⟨not_or.mpr ⟨table, by decide⟩, relation⟩

theorem dollar_not_mem_orderText (valid : ∀ key ∈ select.sort, IsColumn key.column) :
    '$' ∉ select.orderText.toList := by
  apply dollar_not_mem_clauseText (by decide) (by decide)
  rw [List.forall_mem_map]
  exact fun key member => dollar_not_mem_sortKeyText (valid key member)

theorem dollar_not_mem_pageSql (select : Select) : '$' ∉ select.pageSql.toList := by
  have counts (count : Option Count) :
      ∀ item ∈ count.toList.map fun count => toString count.toNat, '$' ∉ item.toList := by
    rw [List.forall_mem_map]
    exact fun count _ => dollar_not_mem_toString count.toNat
  rw [toList_pageSql, List.append_nil, List.mem_append]
  exact not_or.mpr ⟨dollar_not_mem_clauseText (by decide) (by decide) (counts select.limit),
    dollar_not_mem_clauseText (by decide) (by decide) (counts select.offset)⟩

/-- The conditions as they stand in a statement. -/
def conjuncts (select : Select) : List String :=
  (select.conditions.zipIdx 1).map fun item => item.1.text item.2

theorem getElem?_conjuncts (select : Select) (place : Nat) :
    select.conjuncts[place]? =
      select.conditions[place]?.map fun condition => condition.text (place + 1) := by
  unfold conjuncts
  rw [List.getElem?_map, List.getElem?_zipIdx, Option.map_map, Nat.add_comm 1 place]
  rfl

theorem getElem?_parameters (select : Select) {place : Nat} {condition : Condition}
    (found : select.conditions[place]? = some condition) :
    select.parameters[place]? = some condition.parameter := by
  rw [parameters, List.getElem?_map, found, Option.map_some]

/-- The placeholders of the conditions are their numbers. -/
theorem placeholders_whereText
    (valid : ∀ condition ∈ select.conditions, IsColumn condition.column) :
    placeholders select.whereText.toList =
      (List.range' 1 select.conditions.length).map fun number => (toString number).toList := by
  have each : ∀ item ∈ select.conditions.zipIdx 1,
      placeholders (item.1.text item.2).toList = [(toString item.2).toList] := fun item member =>
    Condition.placeholders_text (valid item.1 (List.fst_mem_of_mem_zipIdx member)) item.2
  calc placeholders select.whereText.toList
      = (select.conditions.zipIdx 1).flatMap fun item => [(toString item.2).toList] := by
        unfold whereText
        rw [placeholders_clauseText (by decide) (by decide) (by decide), List.flatMap_map,
          List.flatMap_congr each]
    _ = ((select.conditions.zipIdx 1).map Prod.snd).map fun number => (toString number).toList := by
        rw [← List.map_eq_flatMap, List.map_map]
        rfl
    _ = _ := by rw [List.zipIdx_map_snd]

/-- In a statement that is put together from the conditions of a selection and what stands before
and after them, every condition is bound to its value by its number. -/
structure Numbered (select : Select) (statement : Statement) (before : String)
    (conjuncts : List String) (after : String) : Prop where
  /-- The conditions are one clause of the statement. -/
  sql : statement.sql = before ++ clauseText " WHERE " " AND " conjuncts ++ after
  clause : select.whereSql [] = .ok (clauseText " WHERE " " AND " conjuncts, statement.parameters)
  /-- The clause is there when there is a condition. -/
  present : clauseText " WHERE " " AND " conjuncts ≠ "" ↔ select.conditions ≠ []
  /-- Each condition has a conjunct and a value. -/
  written : conjuncts.length = select.conditions.length
  valued : statement.parameters.length = select.conditions.length
  /-- The value at the place of a condition is the one that the condition binds. -/
  bound : ∀ (place : Nat) (condition : Condition), select.conditions[place]? = some condition →
    ∃ value, statement.parameters[place]? = some value ∧ condition.Binds value
  /-- The conjunct is what the condition is written as after the values before its own, and its one
  placeholder is the number of the place of its value. -/
  placed : ∀ (place : Nat) (condition : Condition), select.conditions[place]? = some condition →
    ∃ conjunct, conjuncts[place]? = some conjunct ∧
      condition.sql (statement.parameters.take place) =
        .ok (conjunct, statement.parameters.take (place + 1)) ∧
      placeholders conjunct.toList = [(toString (place + 1)).toList]
  /-- Nothing else has a dollar sign. -/
  freeBefore : '$' ∉ before.toList
  freeAfter : '$' ∉ after.toList
  /-- So the statement has these placeholders and no other. -/
  numbers : placeholders statement.sql.toList =
    (List.range' 1 select.conditions.length).map fun number => (toString number).toList

theorem numbered (select : Select)
    (valid : ∀ condition ∈ select.conditions, IsColumn condition.column)
    (before after : String) (freeBefore : '$' ∉ before.toList) (freeAfter : '$' ∉ after.toList)
    (ends : ∀ c ∈ after.toList.head?, c.isDigit = false) :
    select.Numbered ⟨before ++ select.whereText ++ after, select.parameters⟩ before
      select.conjuncts after where
  sql := rfl
  clause := whereSql_eq_ok_iff.mpr ⟨valid, rfl⟩
  present := by
    unfold conjuncts
    cases select.conditions with
    | nil => simp [clauseText]
    | cons condition rest => simp [clauseText]
  written := by rw [conjuncts, List.length_map, List.length_zipIdx]
  valued := by rw [parameters, List.length_map]
  bound place condition found := ⟨_, select.getElem?_parameters found, condition.binds_parameter⟩
  placed place condition found := by
    have isColumn := valid condition (List.mem_of_getElem? found)
    have value := select.getElem?_parameters found
    have earlier : (select.parameters.take place).length = place :=
      List.length_take_of_le (List.getElem?_eq_some_iff.mp value).1.le
    refine ⟨condition.text (place + 1), ?_, Condition.sql_eq_ok_iff.mpr ⟨isColumn, ?_⟩,
      Condition.placeholders_text isColumn _⟩
    · rw [getElem?_conjuncts, found, Option.map_some]
    · rw [earlier, List.take_add_one, value]
      rfl
  freeBefore := freeBefore
  freeAfter := freeAfter
  numbers := by
    rw [String.toList_append, String.toList_append, placeholders_append ends,
      placeholders_append_of_not_mem freeBefore, placeholders_eq_nil_iff.mpr freeAfter,
      List.append_nil, placeholders_whereText valid]

/-- **Placeholders and values agree.**  In a statement that returns or counts the rows of a
selection, the conditions are one clause with a conjunct for each, in order, and the statement has a
value for each.  The placeholder in the conjunct of a condition is the number of the place of its
value, and there is no other dollar sign in the statement. -/
theorem numbered_of_written {statement : Statement}
    (success : select.statement = .ok statement ∨ select.countStatement = .ok statement) :
    ∃ before conjuncts after, select.Numbered statement before conjuncts after := by
  rcases success with success | success
  · obtain ⟨-, writable, rfl⟩ := statement_eq_ok_iff.mp success
    have tables := select.dollar_not_mem_fromText { writable with sort := List.forall_mem_nil _ }
    have relation := dollar_not_mem_quoted writable.relation
    have order := dollar_not_mem_orderText writable.sort
    have page := select.dollar_not_mem_pageSql
    have ends := select.opens_orderText.head?_ne_digit (by decide)
    rw [← String.toList_append] at ends
    have bound := select.numbered writable.conditions
      ("SELECT " ++ quoted select.relation ++ ".* FROM " ++ select.fromText)
      (select.orderText ++ select.pageSql) (by simp [relation, tables]) (by simp [order, page]) ends
    rw [← String.append_assoc] at bound
    exact ⟨_, _, _, bound⟩
  · obtain ⟨-, writable, rfl⟩ := countStatement_eq_ok_iff.mp success
    have tables := dollar_not_mem_fromText writable
    have bound := select.numbered writable.conditions
      ("SELECT COUNT(*) AS total FROM " ++ select.fromText) "" (by simp [tables]) (by simp) (by simp)
    rw [String.append_empty] at bound
    exact ⟨_, _, _, bound⟩

/-- Grown people of two states whose names begin with a dollar sign. -/
def grown : Select where
  table := "people"
  schema := some "public"
  relation := "p"
  conditions := [.compare ⟨"p", "age"⟩ .greaterOrEqual (.integer 18),
    .anyOf ⟨"p", "state"⟩ (.array [.text "$1", .text "$2"]), .like ⟨"p", "name"⟩ "$%"]
  sort := [⟨.asc, ⟨"p", "name"⟩⟩]
  offset := Count.ofInt64? 20

theorem numbered_of_written_grown :
    (∃ statement, grown.statement = .ok statement ∧
      ∃ before conjuncts after, grown.Numbered statement before conjuncts after) ∧
    ∃ statement, grown.countStatement = .ok statement ∧
      ∃ before conjuncts after, grown.Numbered statement before conjuncts after :=
  ⟨⟨_, rfl, numbered_of_written (.inl rfl)⟩, ⟨_, rfl, numbered_of_written (.inr rfl)⟩⟩

end Select

end RequestFilter.Sql
