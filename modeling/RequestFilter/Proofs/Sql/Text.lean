import RequestFilter.Proofs.Outcome
import RequestFilter.Sql.Statement

/-! # Texts of statements

The writers of statements check names while they write.  Here the two are taken
apart: what each part of a statement looks like whatever its names
(`Select.text`), and which names have to be identifiers (`Select.Writable`).  A
valid selection is written exactly when its names are identifiers, and then as
that text (`Select.statement_eq_ok_iff`).  To count its rows the names of its
sort keys are not needed (`Select.countStatement_eq_ok_iff`).
-/

namespace RequestFilter.Sql

open Outcome

/-- A name between double quotes. -/
def quoted (name : String) : String :=
  "\"" ++ name ++ "\""

theorem identifier_eq_ok_iff {name text : String} :
    identifier name = .ok text ↔ IsIdentifier name ∧ text = quoted name := by
  unfold identifier checkIdentifier
  by_cases valid : IsIdentifier name
  · simp only [valid, ↓reduceIte, true_and]
    constructor
    · intro success
      cases success
      rfl
    · rintro rfl
      rfl
  · simp only [valid, ↓reduceIte, false_and, iff_false]
    intro success
    cases success

/-- Both names of a column are identifiers. -/
def IsColumn (column : Column) : Prop :=
  IsIdentifier column.relation ∧ IsIdentifier column.field

instance (column : Column) : Decidable (IsColumn column) :=
  inferInstanceAs (Decidable (_ ∧ _))

/-- A column as its quoted relation and field. -/
def columnText (column : Column) : String :=
  quoted column.relation ++ "." ++ quoted column.field

theorem columnSql_eq_ok_iff {column : Column} {text : String} :
    columnSql column = .ok text ↔ IsColumn column ∧ text = columnText column := by
  unfold columnSql
  simp only [bind_eq_ok_iff, identifier_eq_ok_iff]
  constructor
  · rintro ⟨_, ⟨relation, rfl⟩, _, ⟨field, rfl⟩, same⟩
    cases same
    exact ⟨⟨relation, field⟩, rfl⟩
  · rintro ⟨⟨relation, field⟩, rfl⟩
    exact ⟨_, ⟨relation, rfl⟩, _, ⟨field, rfl⟩, rfl⟩

/-- How a condition compares its column with its value. -/
inductive Comparator where
  /-- By an operator. -/
  | operator (which : Operator)
  /-- As equal to an element of an array. -/
  | any
deriving DecidableEq, Repr

/-- A comparator with the placeholder of a given number. -/
def Comparator.text (number : Nat) : Comparator → String
  | .operator which => which.sql ++ " $" ++ toString number
  | .any => "= ANY($" ++ toString number ++ ")"

namespace Condition

/-- How a condition compares. -/
def comparator : Condition → Comparator
  | .compare _ operator _ => .operator operator
  | .anyOf _ _ => .any
  | .like _ _ => .operator .like
  | .array _ operator _ => .operator operator

/-- A condition without its value: its column and how it compares. -/
def outline (condition : Condition) : Column × Comparator :=
  (condition.column, condition.comparator)

/-- The value that a condition binds. -/
def parameter : Condition → Parameter
  | .compare _ _ value => value
  | .anyOf _ values => values
  | .like _ pattern => .text pattern
  | .array _ _ values => values

/-- A condition whose value has a given number. -/
def text (condition : Condition) (number : Nat) : String :=
  "(" ++ columnText condition.column ++ " " ++ condition.comparator.text number ++ ")"

/-- A condition is written without looking at its value, which is bound behind the others and has
the number of its place. -/
theorem sql_eq_map (condition : Condition) (bound : List Parameter) :
    condition.sql bound = (columnSql condition.outline.1).map fun column =>
      ("(" ++ column ++ " " ++ condition.outline.2.text (bound.length + 1) ++ ")",
        bound ++ [condition.parameter]) := by
  unfold Condition.sql outline
  cases columnSql condition.column with
  | error fault => rfl
  | ok column =>
      cases condition <;>
        refine congrArg Except.ok (Prod.ext (String.toList_injective ?_) rfl) <;>
        simp [bindNext, comparator, Comparator.text]

theorem sql_eq_ok_iff {condition : Condition} {bound : List Parameter}
    {written : String × List Parameter} :
    condition.sql bound = .ok written ↔ IsColumn condition.column ∧
      written = (condition.text (bound.length + 1), bound ++ [condition.parameter]) := by
  rw [sql_eq_map, map_eq_ok_iff]
  simp only [columnSql_eq_ok_iff]
  constructor
  · rintro ⟨_, ⟨column, rfl⟩, rfl⟩
    exact ⟨column, rfl⟩
  · rintro ⟨column, rfl⟩
    exact ⟨_, ⟨column, rfl⟩, rfl⟩

end Condition

theorem conditionTexts_eq_ok_iff {conditions : List Condition} {bound : List Parameter}
    {written : List String × List Parameter} :
    conditionTexts conditions bound = .ok written ↔
      (∀ condition ∈ conditions, IsColumn condition.column) ∧
        written = ((conditions.zipIdx (bound.length + 1)).map fun item => item.1.text item.2,
          bound ++ conditions.map Condition.parameter) := by
  induction conditions generalizing bound written with
  | nil =>
      simp only [conditionTexts, Except.ok.injEq, List.not_mem_nil, false_imp_iff, implies_true,
        true_and, List.zipIdx_nil, List.map_nil, List.append_nil]
      exact eq_comm
  | cons condition rest ih =>
      unfold conditionTexts
      rw [List.map_cons, List.append_cons]
      simp only [bind_eq_ok_iff, Condition.sql_eq_ok_iff, ih, List.forall_mem_cons,
        List.zipIdx_cons, List.map_cons]
      constructor
      · rintro ⟨_, ⟨first, rfl⟩, _, ⟨others, rfl⟩, same⟩
        cases same
        exact ⟨⟨first, others⟩, by rw [List.length_append]; rfl⟩
      · rintro ⟨⟨first, others⟩, rfl⟩
        exact ⟨_, ⟨first, rfl⟩, _, ⟨others, rfl⟩, by rw [List.length_append]; rfl⟩

/-- A sort key with its direction. -/
def SortKey.text (key : SortKey) : String :=
  columnText key.column ++ " " ++ directionSql key.direction

theorem SortKey.sql_eq_ok_iff {key : SortKey} {text : String} :
    key.sql = .ok text ↔ IsColumn key.column ∧ text = key.text := by
  unfold SortKey.sql
  simp only [bind_eq_ok_iff, columnSql_eq_ok_iff]
  constructor
  · rintro ⟨_, ⟨column, rfl⟩, same⟩
    cases same
    exact ⟨column, rfl⟩
  · rintro ⟨column, rfl⟩
    exact ⟨_, ⟨column, rfl⟩, rfl⟩

/-- The names of a table and of its schema, if there is one, are identifiers. -/
def IsTable (schema : Option String) (table : String) : Prop :=
  IsIdentifier table ∧ ∀ name ∈ schema, IsIdentifier name

instance (schema : Option String) (table : String) : Decidable (IsTable schema table) :=
  inferInstanceAs (Decidable (_ ∧ _))

/-- A table, after its schema if there is one. -/
def tableText : Option String → String → String
  | some schema, table => quoted schema ++ "." ++ quoted table
  | none, table => quoted table

theorem tableSql_eq_ok_iff {schema : Option String} {table text : String} :
    tableSql schema table = .ok text ↔ IsTable schema table ∧ text = tableText schema table := by
  unfold tableSql IsTable
  cases schema with
  | none =>
      simp only [bind_eq_ok_iff, identifier_eq_ok_iff, Option.not_mem_none, false_imp_iff,
        implies_true, and_true]
      constructor
      · rintro ⟨_, ⟨valid, rfl⟩, same⟩
        cases same
        exact ⟨valid, rfl⟩
      · rintro ⟨valid, rfl⟩
        exact ⟨_, ⟨valid, rfl⟩, rfl⟩
  | some name =>
      simp only [bind_eq_ok_iff, identifier_eq_ok_iff, Option.mem_some_iff, forall_eq']
      constructor
      · rintro ⟨_, ⟨valid, rfl⟩, _, ⟨schema, rfl⟩, same⟩
        cases same
        exact ⟨⟨valid, schema⟩, rfl⟩
      · rintro ⟨⟨valid, schema⟩, rfl⟩
        exact ⟨_, ⟨valid, rfl⟩, _, ⟨schema, rfl⟩, rfl⟩

namespace Join

/-- All names of a join are identifiers. -/
structure Writable (schema : Option String) (join : Join) : Prop where
  table : IsTable schema join.table
  relation : IsIdentifier join.relation
  remote : IsIdentifier join.remote
  anchor : IsColumn join.anchor

instance (schema : Option String) (join : Join) : Decidable (join.Writable schema) :=
  decidable_of_iff
    (IsTable schema join.table ∧ IsIdentifier join.relation ∧ IsIdentifier join.remote ∧
      IsColumn join.anchor)
    ⟨fun ⟨table, relation, remote, anchor⟩ => ⟨table, relation, remote, anchor⟩,
      fun ⟨table, relation, remote, anchor⟩ => ⟨table, relation, remote, anchor⟩⟩

/-- A join of a table in a schema. -/
def text (schema : Option String) (join : Join) : String :=
  join.kind.sql ++ " " ++ tableText schema join.table ++ " AS " ++ quoted join.relation ++ " ON " ++
    columnText join.anchor ++ " = " ++ quoted join.relation ++ "." ++ quoted join.remote

theorem sql_eq_ok_iff {schema : Option String} {join : Join} {text : String} :
    join.sql schema = .ok text ↔ join.Writable schema ∧ text = join.text schema := by
  unfold Join.sql
  simp only [bind_eq_ok_iff, tableSql_eq_ok_iff, identifier_eq_ok_iff, columnSql_eq_ok_iff]
  constructor
  · rintro ⟨_, ⟨table, rfl⟩, _, ⟨relation, rfl⟩, _, ⟨remote, rfl⟩, _, ⟨anchor, rfl⟩, same⟩
    cases same
    exact ⟨⟨table, relation, remote, anchor⟩, rfl⟩
  · rintro ⟨⟨table, relation, remote, anchor⟩, rfl⟩
    exact ⟨_, ⟨table, rfl⟩, _, ⟨relation, rfl⟩, _, ⟨remote, rfl⟩, _, ⟨anchor, rfl⟩, rfl⟩

end Join

/-- Items between separators and after an introduction; without items there is nothing. -/
def clauseText (introduction separator : String) : List String → String
  | [] => ""
  | items => introduction ++ separator.intercalate items

namespace Select

/-- All names of a selection are identifiers. -/
structure Writable (select : Select) : Prop where
  table : IsTable select.schema select.table
  relation : IsIdentifier select.relation
  joins : ∀ join ∈ select.joins, join.Writable select.schema
  conditions : ∀ condition ∈ select.conditions, IsColumn condition.column
  sort : ∀ key ∈ select.sort, IsColumn key.column

instance (select : Select) : Decidable select.Writable :=
  decidable_of_iff
    (IsTable select.schema select.table ∧ IsIdentifier select.relation ∧
      (∀ join ∈ select.joins, join.Writable select.schema) ∧
      (∀ condition ∈ select.conditions, IsColumn condition.column) ∧
      ∀ key ∈ select.sort, IsColumn key.column)
    ⟨fun ⟨table, relation, joins, conditions, sort⟩ =>
        ⟨table, relation, joins, conditions, sort⟩,
      fun ⟨table, relation, joins, conditions, sort⟩ =>
        ⟨table, relation, joins, conditions, sort⟩⟩

/-- The table and the joins. -/
def fromText (select : Select) : String :=
  " ".intercalate ((tableText select.schema select.table ++ " AS " ++ quoted select.relation) ::
    select.joins.map (Join.text select.schema))

/-- The conditions. -/
def whereText (select : Select) : String :=
  clauseText " WHERE " " AND " (select.conditions.zipIdx 1 |>.map fun item => item.1.text item.2)

/-- The values of the conditions. -/
def parameters (select : Select) : List Parameter :=
  select.conditions.map Condition.parameter

/-- The sort keys. -/
def orderText (select : Select) : String :=
  clauseText " ORDER BY " ", " (select.sort.map SortKey.text)

/-- The whole statement. -/
def text (select : Select) : String :=
  "SELECT " ++ quoted select.relation ++ ".* FROM " ++ select.fromText ++ select.whereText ++
    select.orderText ++ select.pageSql

/-- The statement that counts the rows. -/
def countText (select : Select) : String :=
  "SELECT COUNT(*) AS total FROM " ++ select.fromText ++ select.whereText

/-- A selection without its sort keys. -/
def unsorted (select : Select) : Select :=
  { select with sort := [] }

variable {select : Select} {text : String}

theorem fromSql_eq_ok_iff :
    select.fromSql = .ok text ↔
      (IsTable select.schema select.table ∧ IsIdentifier select.relation ∧
        ∀ join ∈ select.joins, join.Writable select.schema) ∧ text = select.fromText := by
  unfold fromSql
  simp only [bind_eq_ok_iff, tableSql_eq_ok_iff, identifier_eq_ok_iff,
    mapM_eq_ok_iff fun _ _ => Join.sql_eq_ok_iff]
  constructor
  · rintro ⟨_, ⟨table, rfl⟩, _, ⟨relation, rfl⟩, _, ⟨joins, rfl⟩, same⟩
    cases same
    exact ⟨⟨table, relation, joins⟩, rfl⟩
  · rintro ⟨⟨table, relation, joins⟩, rfl⟩
    exact ⟨_, ⟨table, rfl⟩, _, ⟨relation, rfl⟩, _, ⟨joins, rfl⟩, rfl⟩

theorem whereSql_eq_ok_iff {written : String × List Parameter} :
    select.whereSql [] = .ok written ↔
      (∀ condition ∈ select.conditions, IsColumn condition.column) ∧
        written = (select.whereText, select.parameters) := by
  unfold whereSql whereText parameters
  cases select.conditions with
  | nil =>
      simp only [Except.ok.injEq, List.not_mem_nil, false_imp_iff, implies_true, true_and]
      exact eq_comm
  | cons condition rest =>
      simp only [bind_eq_ok_iff, conditionTexts_eq_ok_iff]
      constructor
      · rintro ⟨_, ⟨columns, rfl⟩, same⟩
        cases same
        exact ⟨columns, rfl⟩
      · rintro ⟨columns, rfl⟩
        exact ⟨_, ⟨columns, rfl⟩, rfl⟩

theorem orderSql_eq_ok_iff :
    select.orderSql = .ok text ↔
      (∀ key ∈ select.sort, IsColumn key.column) ∧ text = select.orderText := by
  unfold orderSql orderText
  simp only [bind_eq_ok_iff, mapM_eq_ok_iff fun _ _ => SortKey.sql_eq_ok_iff]
  constructor
  · rintro ⟨texts, ⟨columns, rfl⟩, same⟩
    refine ⟨columns, ?_⟩
    cases items : select.sort.map SortKey.text <;> rw [items] at same <;> cases same <;> rfl
  · rintro ⟨columns, rfl⟩
    refine ⟨_, ⟨columns, rfl⟩, ?_⟩
    cases select.sort.map SortKey.text <;> rfl

/-- A selection is valid when it is not too large and has the relations of all its columns. -/
theorem validate_eq_ok_iff :
    select.validate = .ok () ↔ select.conditions.length ≤ maxConditions ∧
      select.joins.length ≤ maxJoins ∧
        ∀ column ∈ select.referencedColumns, column.relation ∈ select.relations := by
  have missing : (select.referencedColumns.find? fun column =>
      !select.isAddressable column.relation) = none ↔
        ∀ column ∈ select.referencedColumns, column.relation ∈ select.relations := by
    simp only [List.find?_eq_none, isAddressable, Bool.not_eq_true', decide_eq_false_iff_not,
      Decidable.not_not]
  unfold validate
  rw [← missing]
  by_cases conditions : maxConditions < select.conditions.length
  · simp only [conditions, ↓reduceIte, reduceCtorEq, false_iff]
    exact fun valid => Nat.not_le.mpr conditions valid.1
  by_cases joins : maxJoins < select.joins.length
  · simp only [conditions, joins, ↓reduceIte, reduceCtorEq, false_iff]
    exact fun valid => Nat.not_le.mpr joins valid.2.1
  simp only [conditions, joins, ↓reduceIte]
  cases select.referencedColumns.find? fun column => !select.isAddressable column.relation with
  | none =>
      simp only [true_iff]
      exact ⟨Nat.not_lt.mp conditions, Nat.not_lt.mp joins, trivial⟩
  | some column => simp only [reduceCtorEq, and_false]

/-- A statement is written exactly for a valid selection whose names are all identifiers. -/
theorem statement_eq_ok_iff {statement : Statement} :
    select.statement = .ok statement ↔
      select.validate = .ok () ∧ select.Writable ∧
        statement = ⟨select.text, select.parameters⟩ := by
  unfold Select.statement
  simp only [bind_eq_ok_iff, identifier_eq_ok_iff, fromSql_eq_ok_iff, whereSql_eq_ok_iff,
    orderSql_eq_ok_iff]
  constructor
  · rintro ⟨_, valid, _, ⟨relation, rfl⟩, _, ⟨⟨table, _, joins⟩, rfl⟩, _, ⟨conditions, rfl⟩, _,
      ⟨sort, rfl⟩, same⟩
    cases same
    exact ⟨valid, ⟨table, relation, joins, conditions, sort⟩, rfl⟩
  · rintro ⟨valid, ⟨table, relation, joins, conditions, sort⟩, rfl⟩
    exact ⟨_, valid, _, ⟨relation, rfl⟩, _, ⟨⟨table, relation, joins⟩, rfl⟩, _,
      ⟨conditions, rfl⟩, _, ⟨sort, rfl⟩, rfl⟩

/-- The rows of a selection are counted exactly when it is valid and all its names are identifiers
but perhaps those of its sort keys. -/
theorem countStatement_eq_ok_iff {statement : Statement} :
    select.countStatement = .ok statement ↔
      select.validate = .ok () ∧ select.unsorted.Writable ∧
        statement = ⟨select.countText, select.parameters⟩ := by
  unfold Select.countStatement
  simp only [bind_eq_ok_iff, fromSql_eq_ok_iff, whereSql_eq_ok_iff]
  constructor
  · rintro ⟨_, valid, _, ⟨⟨table, relation, joins⟩, rfl⟩, _, ⟨conditions, rfl⟩, same⟩
    cases same
    exact ⟨valid, ⟨table, relation, joins, conditions, List.forall_mem_nil _⟩, rfl⟩
  · rintro ⟨valid, ⟨table, relation, joins, conditions, -⟩, rfl⟩
    exact ⟨_, valid, _, ⟨⟨table, relation, joins⟩, rfl⟩, _, ⟨conditions, rfl⟩, rfl⟩

end Select

end RequestFilter.Sql
