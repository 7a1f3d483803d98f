import RequestFilter.Query

/-! # Recorded queries

A query that only writes down what filters ask of it.  It knows its base
relation and the relations joined to it, and refuses every operation on fields of
one given name.
-/

namespace RequestFilter

/-- One operation that a filter asked of a query. -/
inductive Operation where
  /-- The column equals the value. -/
  | equal (column : Column) (value : Value)
  /-- The column equals one of the values. -/
  | equalAny (column : Column) (values : List Value)
  /-- The column compares with the value. -/
  | compare (column : Column) (comparison : Comparison) (value : Value)
  /-- The column holds the text. -/
  | pattern (column : Column) (pattern : Pattern) (text : String)
  /-- The list in the column compares with the values. -/
  | listTest (column : Column) (test : ListTest) (values : List Value)
  /-- Sorting by the column. -/
  | orderBy (direction : Direction) (column : Column)
  /-- Joining the relation. -/
  | join (relation : String)

/-- A query that records operations. -/
structure Recorder where
  /-- The relation that is always there. -/
  base : String
  /-- The name of the fields that are refused. -/
  rejected : Option String := none
  /-- The relations joined so far. -/
  joins : List String := []
  /-- The operations so far. -/
  log : List Operation := []
  /-- The largest number of rows. -/
  limit : Option Count := none
  /-- The number of rows to skip. -/
  offset : Option Count := none

namespace Recorder

/-- An operation touched a field that is refused. -/
structure Rejected where
  /-- The column of the field. -/
  column : Column
deriving DecidableEq, Repr

/-- The complaint about a refused field. -/
def Rejected.message (rejected : Rejected) : String :=
  "field " ++ rejected.column.text ++ " rejected"

/-- Records an operation on a column, unless its field is refused. -/
def record (recorder : Recorder) (column : Column) (operation : Operation) :
    Except Rejected Recorder :=
  if recorder.rejected = some column.field then .error ⟨column⟩
  else .ok { recorder with log := recorder.log ++ [operation] }

/-- Records that a relation is joined. -/
def join (recorder : Recorder) (relation : String) : Recorder :=
  { recorder with
    joins := recorder.joins ++ [relation]
    log := recorder.log ++ [.join relation] }

instance : Filterable Recorder Rejected where
  whereEqual recorder column value := recorder.record column (.equal column value)
  whereEqualAny recorder column values := recorder.record column (.equalAny column values)
  whereCompare recorder column comparison value :=
    recorder.record column (.compare column comparison value)
  wherePattern recorder column pattern text :=
    recorder.record column (.pattern column pattern text)
  whereList recorder column test values := recorder.record column (.listTest column test values)
  orderBy recorder direction column := recorder.record column (.orderBy direction column)
  limit recorder count := .ok { recorder with limit := some count }
  offset recorder count := .ok { recorder with offset := some count }
  hasRelation recorder relation := decide (relation = recorder.base ∨ relation ∈ recorder.joins)

end Recorder

end RequestFilter
