import RequestFilter.Sql.Select

/-! # Statements

A selection written as SQL with numbered placeholders beside the values bound to
them.  Each condition binds its value after those before it, and its placeholder
has the number of values that are bound then.  Names are written as quoted
identifiers and values never are, so nothing that a request contains reaches the
text.  A selection is written only if it is not too large and each of its columns
belongs to a relation it has.
-/

namespace RequestFilter.Sql

/-- A statement with the values of its placeholders in order. -/
structure Statement where
  /-- The text. -/
  sql : String
  /-- The values. -/
  parameters : List Parameter

/-- A column as its quoted relation and field. -/
def columnSql (column : Column) : Except BuildError String := do
  let relation ← identifier column.relation
  let field ← identifier column.field
  return relation ++ "." ++ field

/-- Binds one more value; its placeholder has the number of values that are bound then. -/
def bindNext (bound : List Parameter) (value : Parameter) : String × List Parameter :=
  let bound := bound ++ [value]
  ("$" ++ toString bound.length, bound)

/-- A condition after values that are bound already, and the values that are bound with its own. -/
def Condition.sql (condition : Condition) (bound : List Parameter) :
    Except BuildError (String × List Parameter) := do
  let column ← columnSql condition.column
  let compared (operator : Operator) (value : Parameter) : String × List Parameter :=
    let (placeholder, bound) := bindNext bound value
    ("(" ++ column ++ " " ++ operator.sql ++ " " ++ placeholder ++ ")", bound)
  match condition with
  | .compare _ operator value => return compared operator value
  | .anyOf _ values =>
    let (placeholder, bound) := bindNext bound values
    return ("(" ++ column ++ " = ANY(" ++ placeholder ++ "))", bound)
  | .like _ pattern => return compared .like (.text pattern)
  | .array _ operator values => return compared operator values

/-- Conditions one after the other, each bound after those before it. -/
def conditionTexts : List Condition → List Parameter →
    Except BuildError (List String × List Parameter)
  | [], bound => .ok ([], bound)
  | condition :: rest, bound => do
    let (first, bound) ← condition.sql bound
    let (others, bound) ← conditionTexts rest bound
    return (first :: others, bound)

/-- A direction in a statement. -/
def directionSql : Direction → String
  | .asc => "ASC"
  | .desc => "DESC"
  | .ascNullsFirst => "ASC NULLS FIRST"
  | .ascNullsLast => "ASC NULLS LAST"
  | .descNullsFirst => "DESC NULLS FIRST"
  | .descNullsLast => "DESC NULLS LAST"

/-- A sort key in a statement. -/
def SortKey.sql (key : SortKey) : Except BuildError String := do
  return (← columnSql key.column) ++ " " ++ directionSql key.direction

/-- A table, in its schema if there is one. -/
def tableSql (schema : Option String) (table : String) : Except BuildError String := do
  let table ← identifier table
  match schema with
  | some schema => return (← identifier schema) ++ "." ++ table
  | none => return table

/-- A join in a statement. -/
def Join.sql (schema : Option String) (join : Join) : Except BuildError String := do
  let table ← tableSql schema join.table
  let relation ← identifier join.relation
  let remote ← identifier join.remote
  let anchor ← columnSql join.anchor
  return join.kind.sql ++ " " ++ table ++ " AS " ++ relation ++ " ON " ++ anchor ++ " = " ++
    relation ++ "." ++ remote

namespace Select

/-- The columns that have to belong to a relation of the selection. -/
def referencedColumns (select : Select) : List Column :=
  select.conditions.map Condition.column ++ select.sort.map SortKey.column ++
    select.joins.map Join.anchor

/-- Refuses a selection that is too large or has a column of a relation it does not have. -/
def validate (select : Select) : Except BuildError Unit :=
  if maxConditions < select.conditions.length then
    .error (.tooManyConditions select.conditions.length)
  else if maxJoins < select.joins.length then .error (.tooManyJoins select.joins.length)
  else
    match select.referencedColumns.find? fun column => !select.isAddressable column.relation with
    | some column => .error (.unknownRelation column.relation)
    | none => .ok ()

/-- The table and the joins. -/
def fromSql (select : Select) : Except BuildError String := do
  let table ← tableSql select.schema select.table
  let relation ← identifier select.relation
  let joins ← select.joins.mapM (Join.sql select.schema)
  return " ".intercalate ((table ++ " AS " ++ relation) :: joins)

/-- The conditions, after the word that introduces them if there are any, and the values that are
bound with theirs. -/
def whereSql (select : Select) (bound : List Parameter) :
    Except BuildError (String × List Parameter) :=
  match select.conditions with
  | [] => .ok ("", bound)
  | conditions => do
    let (conditions, bound) ← conditionTexts conditions bound
    return (" WHERE " ++ " AND ".intercalate conditions, bound)

/-- The sort keys, after the words that introduce them if there are any. -/
def orderSql (select : Select) : Except BuildError String := do
  match ← select.sort.mapM SortKey.sql with
  | [] => return ""
  | keys => return " ORDER BY " ++ ", ".intercalate keys

/-- The pagination, as far as it is set. -/
def pageSql (select : Select) : String :=
  (match select.limit with
    | some count => " LIMIT " ++ toString count.toNat
    | none => "") ++
  (match select.offset with
    | some count => " OFFSET " ++ toString count.toNat
    | none => "")

/-- The statement that returns the selected rows. -/
def statement (select : Select) : Except BuildError Statement := do
  select.validate
  let relation ← identifier select.relation
  let tables ← select.fromSql
  let (conditions, bound) ← select.whereSql []
  let order ← select.orderSql
  return ⟨"SELECT " ++ relation ++ ".* FROM " ++ tables ++ conditions ++ order ++ select.pageSql,
    bound⟩

/-- The statement that counts the rows, whatever their order and pagination. -/
def countStatement (select : Select) : Except BuildError Statement := do
  select.validate
  let tables ← select.fromSql
  let (conditions, bound) ← select.whereSql []
  return ⟨"SELECT COUNT(*) AS total FROM " ++ tables ++ conditions, bound⟩

end Select

end RequestFilter.Sql
