import RequestFilter.Proofs.Sql.Text

/-! # Selections that are accepted

What a selection has to be like in order to be written, said without writing it:
it is small enough, it has the relations of its columns, and its names are words
(`Select.Sound`).  The checks are spread over the writers of all parts of a
statement, but together they ask for no less and no more.  Counting the rows asks
the same of all names but the fields that the rows are sorted by, since a relation
that is present has been checked where it is introduced
(`Select.exists_statement_iff_sound`).
-/

namespace RequestFilter.Sql

open Outcome

section Words

/-- An ASCII letter, an ASCII digit or an underscore. -/
def IsWordChar (c : Char) : Prop :=
  'a' ≤ c ∧ c ≤ 'z' ∨ 'A' ≤ c ∧ c ≤ 'Z' ∨ '0' ≤ c ∧ c ≤ '9' ∨ c = '_'

instance (c : Char) : Decidable (IsWordChar c) :=
  inferInstanceAs (Decidable (_ ∨ _ ∨ _ ∨ _))

/-- A text of ASCII letters, digits and underscores, at least one of them. -/
def IsWord (text : String) : Prop :=
  text ≠ "" ∧ ∀ c ∈ text.toList, IsWordChar c

instance (text : String) : Decidable (IsWord text) :=
  inferInstanceAs (Decidable (_ ∧ _))

theorem isIdentifierChar_iff {c : Char} : isIdentifierChar c = true ↔ IsWordChar c := by
  unfold isIdentifierChar Char.isAlphanum Char.isAlpha Char.isUpper Char.isLower Char.isDigit
  simp only [Bool.or_eq_true, Bool.and_eq_true, decide_eq_true_eq]
  constructor
  · rintro (((upper | lower) | digit) | underscore)
    · exact .inr (.inl upper)
    · exact .inl lower
    · exact .inr (.inr (.inl digit))
    · exact .inr (.inr (.inr underscore))
  · rintro (lower | upper | digit | underscore)
    · exact .inl (.inl (.inr lower))
    · exact .inl (.inl (.inl upper))
    · exact .inl (.inr digit)
    · exact .inr underscore

theorem isIdentifier_iff {name : String} : IsIdentifier name ↔ IsWord name := by
  unfold IsIdentifier IsWord
  rw [List.all_eq_true, ne_eq, ne_eq, String.toList_eq_nil_iff]
  simp only [isIdentifierChar_iff]

end Words

section Names

/-- The names of a column. -/
def columnNames (column : Column) : List String :=
  [column.relation, column.field]

/-- The names of a join, without that of the schema. -/
def Join.names (join : Join) : List String :=
  [join.table, join.relation, join.remote] ++ columnNames join.anchor

/-- All names of a selection. -/
def Select.names (select : Select) : List String :=
  [select.table, select.relation] ++ select.schema.toList ++ select.joins.flatMap Join.names ++
    (select.conditions.flatMap fun condition => columnNames condition.column) ++
    select.sort.flatMap fun key => columnNames key.column

theorem isColumn_iff {column : Column} :
    IsColumn column ↔ ∀ name ∈ columnNames column, IsIdentifier name := by
  unfold IsColumn columnNames
  rw [List.forall_mem_cons, List.forall_mem_singleton]

/-- The schema is the only name of a joined table that its join does not hold. -/
theorem Join.writable_iff {schema : Option String} {join : Join} :
    join.Writable schema ↔
      (∀ name ∈ schema, IsIdentifier name) ∧ ∀ name ∈ join.names, IsIdentifier name := by
  unfold names
  simp only [List.forall_mem_append, List.forall_mem_cons, List.not_mem_nil, false_imp_iff,
    implies_true, and_true, ← isColumn_iff]
  constructor
  · rintro ⟨⟨table, schema⟩, relation, remote, anchor⟩
    exact ⟨schema, ⟨table, relation, remote⟩, anchor⟩
  · rintro ⟨schema, ⟨table, relation, remote⟩, anchor⟩
    exact ⟨⟨table, schema⟩, relation, remote, anchor⟩

theorem Select.writable_iff {select : Select} :
    select.Writable ↔ ∀ name ∈ select.names, IsIdentifier name := by
  unfold names
  simp only [List.forall_mem_append, List.forall_mem_flatMap, List.forall_mem_cons,
    List.not_mem_nil, false_imp_iff, implies_true, and_true, Option.mem_toList, ← isColumn_iff]
  constructor
  · rintro ⟨⟨table, schema⟩, relation, joins, conditions, sort⟩
    exact ⟨⟨⟨⟨⟨table, relation⟩, schema⟩, fun join member =>
      (Join.writable_iff.mp (joins join member)).2⟩, conditions⟩, sort⟩
  · rintro ⟨⟨⟨⟨⟨table, relation⟩, schema⟩, joins⟩, conditions⟩, sort⟩
    exact ⟨⟨table, schema⟩, relation, fun join member =>
      Join.writable_iff.mpr ⟨schema, joins join member⟩, conditions, sort⟩

end Names

namespace Select

/-- A selection is small enough, has the relations of its columns, and given names are words. -/
structure Sound (select : Select) (names : List String) : Prop where
  conditions : select.conditions.length ≤ 100
  joins : select.joins.length ≤ 10
  restricted : ∀ condition ∈ select.conditions, condition.column.relation ∈ select.relations
  sorted : ∀ key ∈ select.sort, key.column.relation ∈ select.relations
  anchored : ∀ join ∈ select.joins, join.anchor.relation ∈ select.relations
  spelled : ∀ name ∈ names, IsWord name

variable {select : Select} {names : List String}

theorem sound_iff :
    select.Sound names ↔ select.validate = .ok () ∧ ∀ name ∈ names, IsIdentifier name := by
  rw [validate_eq_ok_iff]
  unfold referencedColumns
  simp only [List.forall_mem_append, List.forall_mem_map, isIdentifier_iff]
  constructor
  · rintro ⟨conditions, joins, restricted, sorted, anchored, spelled⟩
    exact ⟨⟨conditions, joins, ⟨restricted, sorted⟩, anchored⟩, spelled⟩
  · rintro ⟨⟨conditions, joins, ⟨restricted, sorted⟩, anchored⟩, spelled⟩
    exact ⟨conditions, joins, restricted, sorted, anchored, spelled⟩

instance (select : Select) (names : List String) : Decidable (select.Sound names) :=
  decidable_of_iff _ sound_iff.symm

/-- The relations of a selection are among its names, sorted or not. -/
theorem mem_names_unsorted {name : String} (present : name ∈ select.relations) :
    name ∈ select.unsorted.names := by
  unfold relations at present
  rcases List.mem_cons.mp present with rfl | joined
  · simp [unsorted, Select.names]
  · obtain ⟨join, member, rfl⟩ := List.mem_map.mp joined
    have inside : join.relation ∈ select.joins.flatMap Join.names :=
      List.mem_flatMap.mpr ⟨join, member, by simp [Join.names]⟩
    simp [unsorted, Select.names, inside]

/-- The check before writing looks at nothing of the columns but their relations. -/
theorem validate_eq (select : Select) :
    select.validate =
      if maxConditions < select.conditions.length then
        .error (.tooManyConditions select.conditions.length)
      else if maxJoins < select.joins.length then .error (.tooManyJoins select.joins.length)
      else
        match (select.referencedColumns.map Column.relation).find? fun name =>
            !select.isAddressable name with
        | some name => .error (.unknownRelation name)
        | none => .ok () := by
  unfold validate
  simp only [List.find?_map, Function.comp_def]
  cases select.referencedColumns.find? fun column => !select.isAddressable column.relation <;> rfl

/-- Counting looks at nothing of the sort keys but their relations, and not at the page. -/
theorem countStatement_resorted (select : Select) {sort : List SortKey}
    (same : (sort.map fun key => key.column.relation) =
      select.sort.map fun key => key.column.relation) (limit offset : Option Count) :
    ({ select with sort, limit, offset } : Select).countStatement = select.countStatement := by
  have valid : ({ select with sort, limit, offset } : Select).validate = select.validate := by
    have columns : ({ select with sort, limit, offset } : Select).referencedColumns.map
        Column.relation = select.referencedColumns.map Column.relation := by
      unfold referencedColumns
      simp only [List.map_append, List.map_map, Function.comp_def, same]
    rw [validate_eq, validate_eq, columns]
    rfl
  unfold countStatement
  rw [valid]
  rfl

theorem exists_statement_iff :
    (∃ written, select.statement = .ok written) ↔ select.Sound select.names := by
  simp only [statement_eq_ok_iff, exists_and_left, exists_eq, and_true, writable_iff, sound_iff]

/-- A relation that is present is a name of the table or of a join, so for the relations of the sort
keys nothing is left to check when rows are counted. -/
theorem exists_countStatement_iff :
    (∃ counted, select.countStatement = .ok counted) ↔
      select.Sound (select.unsorted.names ++ select.sort.map fun key => key.column.relation) := by
  simp only [countStatement_eq_ok_iff, exists_and_left, exists_eq, and_true, writable_iff,
    sound_iff, List.forall_mem_append]
  constructor
  · rintro ⟨valid, spelled⟩
    refine ⟨valid, spelled, fun name member => ?_⟩
    obtain ⟨key, inside, rfl⟩ := List.mem_map.mp member
    have sorted := (sound_iff.mpr ⟨valid, spelled⟩).sorted key inside
    exact spelled _ (mem_names_unsorted sorted)
  · rintro ⟨valid, spelled, -⟩
    exact ⟨valid, spelled⟩

/-- What is written is counted with the same tables, conditions and values. -/
theorem counted_of_written {written : Statement} (success : select.statement = .ok written) :
    ∃ tables conditions order, select.fromSql = .ok tables ∧
      select.whereSql [] = .ok (conditions, select.parameters) ∧ select.orderSql = .ok order ∧
      written = ⟨"SELECT " ++ quoted select.relation ++ ".* FROM " ++ tables ++ conditions ++
        order ++ select.pageSql, select.parameters⟩ ∧
      select.countStatement =
        .ok ⟨"SELECT COUNT(*) AS total FROM " ++ tables ++ conditions, select.parameters⟩ := by
  obtain ⟨valid, writable, rfl⟩ := statement_eq_ok_iff.mp success
  have unsorted : select.unsorted.Writable := { writable with sort := List.forall_mem_nil _ }
  exact ⟨_, _, _, fromSql_eq_ok_iff.mpr ⟨⟨writable.table, writable.relation, writable.joins⟩, rfl⟩,
    whereSql_eq_ok_iff.mpr ⟨writable.conditions, rfl⟩, orderSql_eq_ok_iff.mpr ⟨writable.sort, rfl⟩,
    rfl, countStatement_eq_ok_iff.mpr ⟨valid, unsorted, rfl⟩⟩

/-- **What is accepted.**  A selection is written exactly when it has at most a hundred conditions
and ten joins, the relations of all its columns, and words for names.  Its rows are counted exactly
when this holds but for the fields that they are sorted by.  So what is written is also counted,
with the same tables, conditions and values, and counting does not depend on directions and fields
of sort keys or on the page. -/
theorem exists_statement_iff_sound (select : Select) :
    ((∃ written, select.statement = .ok written) ↔ select.Sound select.names) ∧
    ((∃ counted, select.countStatement = .ok counted) ↔
      select.Sound (select.unsorted.names ++ select.sort.map fun key => key.column.relation)) ∧
    (∀ written, select.statement = .ok written →
      ∃ tables conditions order, select.fromSql = .ok tables ∧
        select.whereSql [] = .ok (conditions, select.parameters) ∧ select.orderSql = .ok order ∧
        written = ⟨"SELECT " ++ quoted select.relation ++ ".* FROM " ++ tables ++ conditions ++
          order ++ select.pageSql, select.parameters⟩ ∧
        select.countStatement =
          .ok ⟨"SELECT COUNT(*) AS total FROM " ++ tables ++ conditions, select.parameters⟩) ∧
    ∀ (sort : List SortKey) (limit offset : Option Count),
      (sort.map fun key => key.column.relation) =
          (select.sort.map fun key => key.column.relation) →
        ({ select with sort, limit, offset } : Select).countStatement = select.countStatement :=
  ⟨exists_statement_iff, exists_countStatement_iff, fun _ success => counted_of_written success,
    fun _ limit offset same => select.countStatement_resorted same limit offset⟩

/-- The best players of some teams, sorted by a column whose field has a given name. -/
def players (score : String) (limit : Option Count) : Select where
  table := "players"
  schema := some "league"
  relation := "p"
  joins := [⟨.inner, "teams", "team", ⟨"p", "team_id"⟩, "id"⟩]
  conditions := [.like ⟨"team", "name"⟩ "Bl%"]
  sort := [⟨.desc, ⟨"p", score⟩⟩]
  limit := limit

theorem exists_statement_iff_sound_players :
    (¬∃ written, (players "best score" none).statement = .ok written) ∧
    (∃ counted, (players "best score" none).countStatement = .ok counted) ∧
    (∃ written, (players "score" (Count.ofInt64? 10)).statement = .ok written ∧
      ∃ tables conditions, (players "score" (Count.ofInt64? 10)).countStatement =
        .ok ⟨"SELECT COUNT(*) AS total FROM " ++ tables ++ conditions, written.parameters⟩) ∧
    (players "score" (Count.ofInt64? 10)).countStatement =
      (players "best score" none).countStatement := by
  obtain ⟨writes, counts, -, resorted⟩ := exists_statement_iff_sound (players "best score" none)
  obtain ⟨written, -, counted, -⟩ :=
    exists_statement_iff_sound (players "score" (Count.ofInt64? 10))
  refine ⟨writes.not.mpr (by decide), counts.mpr (by decide), ?_, resorted _ _ none rfl⟩
  obtain ⟨statement, success⟩ := written.mpr (by decide)
  obtain ⟨tables, conditions, order, -, -, -, rfl, counting⟩ := counted statement success
  exact ⟨_, success, tables, conditions, counting⟩

end Select

end RequestFilter.Sql
