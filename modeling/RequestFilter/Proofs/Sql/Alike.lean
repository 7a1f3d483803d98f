import RequestFilter.Proofs.Sql.Text

/-! # Selections that differ in their values

Two selections are alike when they differ in nothing but the values that they
bind.  Alike selections are written as the same text with as many values, or
refused for the same fault (`Select.Alike.statement_map_outline`), and they stay
alike under every operation that treats them alike.
-/

namespace RequestFilter.Sql

open Outcome

/-- The text of a statement and the number of its values. -/
def Statement.outline (statement : Statement) : String × Nat :=
  (statement.sql, statement.parameters.length)

theorem map_outline_pure (sql : String) (parameters : List Parameter) :
    Except.map (ε := BuildError) Statement.outline (pure ⟨sql, parameters⟩) =
      pure (sql, parameters.length) :=
  rfl

/-- Conditions without their values, which are numbered from a given number on. -/
def outlineTexts (number : Nat) (outlines : List (Column × Comparator)) :
    Except BuildError (List String) :=
  (outlines.zipIdx number).mapM fun item =>
    (columnSql item.1.1).map fun column => "(" ++ column ++ " " ++ item.1.2.text item.2 ++ ")"

/-- Conditions are written without looking at their values, which are bound behind the others. -/
theorem conditionTexts_eq_map (conditions : List Condition) (bound : List Parameter) :
    conditionTexts conditions bound =
      (outlineTexts (bound.length + 1) (conditions.map Condition.outline)).map fun texts =>
        (texts, bound ++ conditions.map Condition.parameter) := by
  induction conditions generalizing bound with
  | nil =>
      unfold conditionTexts
      rw [List.map_nil, List.append_nil]
      rfl
  | cons condition rest ih =>
      unfold conditionTexts outlineTexts
      simp only [List.map_cons, List.zipIdx_cons, List.mapM_cons, condition.sql_eq_map, bind_of_map,
        map_bind, ih]
      refine congrArg (columnSql condition.outline.1 >>= ·) (funext fun column => ?_)
      rw [List.length_append, List.append_assoc]
      rfl

namespace Select

/-- The conditions are one clause, written without looking at their values. -/
theorem whereSql_eq_map (select : Select) :
    select.whereSql [] =
      ((outlineTexts 1 (select.conditions.map Condition.outline)).map
        (clauseText " WHERE " " AND ")).map (·, select.parameters) := by
  unfold whereSql parameters
  cases select.conditions with
  | nil => rfl
  | cons condition rest =>
      -- There is a first text, so the clause is not empty.
      simp only [conditionTexts_eq_map, outlineTexts, List.map_cons, List.zipIdx_cons,
        List.mapM_cons, bind_of_map, map_bind, bind_assoc]
      rfl

/-- Two selections differ in nothing but the values that they bind. -/
structure Alike (first second : Select) : Prop where
  table : first.table = second.table
  schema : first.schema = second.schema
  relation : first.relation = second.relation
  joins : first.joins = second.joins
  conditions : first.conditions.map Condition.outline = second.conditions.map Condition.outline
  sort : first.sort = second.sort
  limit : first.limit = second.limit
  offset : first.offset = second.offset

namespace Alike

theorem refl (select : Select) : select.Alike select :=
  ⟨rfl, rfl, rfl, rfl, rfl, rfl, rfl, rfl⟩

variable {first second : Select} (alike : first.Alike second)

include alike

theorem addJoin (join : Join) : (first.addJoin join).Alike (second.addJoin join) :=
  { alike with joins := congrArg (· ++ [join]) alike.joins }

theorem addCondition {condition other : Condition} (same : condition.outline = other.outline) :
    (first.addCondition condition).Alike (second.addCondition other) := by
  refine { alike with conditions := ?_ }
  unfold Select.addCondition
  rw [List.map_append, List.map_append, alike.conditions, List.map_singleton, List.map_singleton,
    same]

theorem addSortKey (direction : Direction) (column : Column) :
    (first.addSortKey direction column).Alike (second.addSortKey direction column) :=
  { alike with sort := congrArg (· ++ [SortKey.mk direction column]) alike.sort }

theorem setLimit (count : Count) : (first.setLimit count).Alike (second.setLimit count) :=
  { alike with limit := rfl }

theorem setOffset (count : Count) : (first.setOffset count).Alike (second.setOffset count) :=
  { alike with offset := rfl }

theorem relations : first.relations = second.relations := by
  unfold Select.relations
  rw [alike.relation, alike.joins]

theorem length_conditions : first.conditions.length = second.conditions.length := by
  have lengths := congrArg List.length alike.conditions
  rwa [List.length_map, List.length_map] at lengths

theorem columns :
    first.conditions.map Condition.column = second.conditions.map Condition.column := by
  have columns := congrArg (List.map Prod.fst) alike.conditions
  rwa [List.map_map, List.map_map] at columns

theorem validate : first.validate = second.validate := by
  unfold Select.validate referencedColumns isAddressable
  rw [alike.length_conditions, alike.columns, alike.joins, alike.sort, alike.relations]

theorem fromSql : first.fromSql = second.fromSql := by
  unfold Select.fromSql
  rw [alike.schema, alike.table, alike.relation, alike.joins]

/-- The conditions of alike selections are written as the same text, or not at all. -/
theorem exists_whereSql_eq_map : ∃ text : Except BuildError String,
    first.whereSql [] = text.map (·, first.parameters) ∧
      second.whereSql [] = text.map (·, second.parameters) := by
  refine ⟨(outlineTexts 1 (first.conditions.map Condition.outline)).map
    (clauseText " WHERE " " AND "), first.whereSql_eq_map, ?_⟩
  rw [alike.conditions]
  exact second.whereSql_eq_map

theorem orderSql : first.orderSql = second.orderSql := by
  unfold Select.orderSql
  rw [alike.sort]

theorem pageSql : first.pageSql = second.pageSql := by
  unfold Select.pageSql
  rw [alike.limit, alike.offset]

theorem length_parameters : first.parameters.length = second.parameters.length := by
  unfold Select.parameters
  rw [List.length_map, List.length_map, alike.length_conditions]

/-- Alike selections are written as the same text with as many values, or not at all. -/
theorem statement_map_outline :
    first.statement.map Statement.outline = second.statement.map Statement.outline := by
  obtain ⟨text, written, otherWritten⟩ := alike.exists_whereSql_eq_map
  unfold Select.statement
  rw [written, otherWritten, alike.validate, alike.relation, alike.fromSql, alike.orderSql,
    alike.pageSql]
  simp only [bind_of_map, map_bind, map_outline_pure, alike.length_parameters]

/-- Alike selections are counted by the same text with as many values, or not at all. -/
theorem countStatement_map_outline :
    first.countStatement.map Statement.outline = second.countStatement.map Statement.outline := by
  obtain ⟨text, written, otherWritten⟩ := alike.exists_whereSql_eq_map
  unfold Select.countStatement
  rw [written, otherWritten, alike.validate, alike.fromSql]
  simp only [bind_of_map, map_bind, map_outline_pure, alike.length_parameters]

end Alike

end Select

end RequestFilter.Sql
