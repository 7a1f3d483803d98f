import RequestFilter.Directive
import RequestFilter.Sql.Parameter

/-! # Selections

A selection of the rows of one table, with the tables joined to it, conditions
that all have to hold, sort keys and pagination.
-/

namespace RequestFilter.Sql

/-- The operators of conditions. -/
inductive Operator where
  /-- Equality. -/
  | equal
  /-- Less than. -/
  | less
  /-- Not less than. -/
  | greaterOrEqual
  /-- Pattern matching that ignores case. -/
  | like
  /-- An array contains another. -/
  | contains
  /-- Two arrays have a common element. -/
  | overlaps
deriving DecidableEq, Repr

/-- An operator in a statement. -/
def Operator.sql : Operator → String
  | .equal => "="
  | .less => "<"
  | .greaterOrEqual => ">="
  | .like => "ILIKE"
  | .contains => "@>"
  | .overlaps => "&&"

/-- The operator that is written in a given way. -/
def Operator.ofSql? (text : String) : Option Operator :=
  [equal, less, greaterOrEqual, like, contains, overlaps].find? fun operator => operator.sql = text

/-- One condition on a column. -/
inductive Condition where
  /-- The column compares with a value. -/
  | compare (column : Column) (operator : Operator) (value : Parameter)
  /-- The column equals an element of an array. -/
  | anyOf (column : Column) (values : Parameter)
  /-- The column matches a pattern, whatever the case of its letters. -/
  | like (column : Column) (pattern : String)
  /-- The array in the column compares with an array. -/
  | array (column : Column) (operator : Operator) (values : Parameter)

/-- The column of a condition. -/
def Condition.column : Condition → Column
  | .compare column _ _ => column
  | .anyOf column _ => column
  | .like column _ => column
  | .array column _ _ => column

/-- The kinds of joins. -/
inductive JoinKind where
  /-- Only rows with a partner. -/
  | inner
  /-- All rows of the left side. -/
  | left
deriving DecidableEq, Repr

/-- A kind of join in a statement. -/
def JoinKind.sql : JoinKind → String
  | .inner => "INNER JOIN"
  | .left => "LEFT JOIN"

/-- A table joined as a relation, where a column of a relation that is already present equals a
field of the table. -/
structure Join where
  /-- The kind of the join. -/
  kind : JoinKind
  /-- The joined table. -/
  table : String
  /-- The relation that the joined table becomes. -/
  relation : String
  /-- The column of a relation that is already present. -/
  anchor : Column
  /-- The field of the joined table. -/
  remote : String
deriving DecidableEq, Repr

/-- One sort key. -/
structure SortKey where
  /-- The direction. -/
  direction : Direction
  /-- The column. -/
  column : Column
deriving DecidableEq, Repr

/-- A selection of rows. -/
structure Select where
  /-- The table. -/
  table : String
  /-- The schema of all tables. -/
  schema : Option String := none
  /-- The relation that the table is. -/
  relation : String
  /-- The joined tables in order. -/
  joins : List Join := []
  /-- The conditions in order; all have to hold. -/
  conditions : List Condition := []
  /-- The sort keys in order. -/
  sort : List SortKey := []
  /-- The largest number of rows. -/
  limit : Option Count := none
  /-- The number of rows to skip. -/
  offset : Option Count := none

namespace Select

/-- All rows of a table, as the relation of the same name. -/
def ofTable (table : String) : Select := { table, relation := table }

/-- Puts all tables into a schema. -/
def withSchema (select : Select) (schema : String) : Select :=
  { select with schema := some schema }

/-- Takes the table as a relation of another name. -/
def withRelation (select : Select) (relation : String) : Select :=
  { select with relation }

/-- Joins one more table. -/
def addJoin (select : Select) (join : Join) : Select :=
  { select with joins := select.joins ++ [join] }

/-- Adds one more condition. -/
def addCondition (select : Select) (condition : Condition) : Select :=
  { select with conditions := select.conditions ++ [condition] }

/-- Adds one more sort key. -/
def addSortKey (select : Select) (direction : Direction) (column : Column) : Select :=
  { select with sort := select.sort ++ [⟨direction, column⟩] }

/-- Sets the number of rows and the rows to skip, each to a count or to nothing. -/
def paginate (select : Select) (limit offset : Option Count) : Select :=
  { select with limit, offset }

/-- Sets the largest number of rows. -/
def setLimit (select : Select) (count : Count) : Select :=
  { select with limit := some count }

/-- Sets the number of rows to skip. -/
def setOffset (select : Select) (count : Count) : Select :=
  { select with offset := some count }

/-- The relations whose columns can be addressed. -/
def relations (select : Select) : List String :=
  select.relation :: select.joins.map Join.relation

/-- A relation is that of the table or a joined one. -/
def isAddressable (select : Select) (relation : String) : Bool :=
  decide (relation ∈ select.relations)

end Select

end RequestFilter.Sql
