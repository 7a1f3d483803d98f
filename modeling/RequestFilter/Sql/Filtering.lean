import RequestFilter.Query
import RequestFilter.Sql.Select

/-! # Filtering selections

The operations of filters on selections.  The names of a column are checked as
soon as a filter touches it and before its value is bound; whether the selection
has the column's relation is asked only when the statement is written, since the
relation may still be joined.  A text is matched as it stands when the characters
that mean something in a pattern follow a backslash.
-/

namespace RequestFilter.Sql

/-- One character of a text in a pattern. -/
def likeChar (c : Char) : List Char :=
  if c = '\\' ∨ c = '%' ∨ c = '_' then ['\\', c] else [c]

/-- A text as the part of a pattern that matches it and nothing else. -/
def likeLiteral (text : String) : String :=
  String.ofList (text.toList.flatMap likeChar)

/-- The pattern for a text at the start or anywhere. -/
def likePattern (pattern : Pattern) (text : String) : String :=
  match pattern with
  | .startsWith => likeLiteral text ++ "%"
  | .contains => "%" ++ likeLiteral text ++ "%"

/-- A column whose relation and field are identifiers. -/
def checkedColumn (column : Column) : Except BuildError Column := do
  checkIdentifier column.relation
  checkIdentifier column.field
  return column

/-- The operator of an ordered comparison. -/
def comparisonOperator : Comparison → Operator
  | .smallerThan => .less
  | .greaterOrEqual => .greaterOrEqual

/-- The operator of a comparison of lists. -/
def listOperator : ListTest → Operator
  | .contains => .contains
  | .containsAny => .overlaps
  | .containsAll => .contains

instance : Filterable Select BuildError where
  whereEqual select column value := do
    let column ← checkedColumn column
    return select.addCondition (.compare column .equal (← Parameter.ofValue value))
  whereEqualAny select column values := do
    let column ← checkedColumn column
    return select.addCondition (.anyOf column (← Parameter.ofList values))
  whereCompare select column comparison value := do
    let column ← checkedColumn column
    return select.addCondition
      (.compare column (comparisonOperator comparison) (← Parameter.ofValue value))
  wherePattern select column pattern text := do
    return select.addCondition (.like (← checkedColumn column) (likePattern pattern text))
  whereList select column test values := do
    let column ← checkedColumn column
    return select.addCondition
      (.array column (listOperator test) (← Parameter.ofList values))
  orderBy select direction column := do
    return select.addSortKey direction (← checkedColumn column)
  limit select count := .ok (select.setLimit count)
  offset select count := .ok (select.setOffset count)
  hasRelation := Select.isAddressable

end RequestFilter.Sql
