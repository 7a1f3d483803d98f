import RequestFilter.Text.Quoted

/-! # Columns, directions and sort directives

A column is addressed by the name of its relation and the name of its field, and
is sorted in one of six directions: up or down, with the rows that have no value
first, last or wherever the data source puts them.  A directive is one element of
a request's sort list.  It names a field, or a name that the definitions give to a
column, or a column outright.
-/

namespace RequestFilter

/-- A field of a relation. -/
structure Column where
  /-- The name of the relation. -/
  relation : String
  /-- The name of the field. -/
  field : String
deriving DecidableEq, Repr, Inhabited

/-- A column as its relation and its field with a point between them. -/
def Column.text (column : Column) : String :=
  column.relation ++ "." ++ column.field

/-- A direction of sorting, with the place of rows that have no value. -/
inductive Direction where
  /-- Upwards. -/
  | asc
  /-- Downwards. -/
  | desc
  /-- Upwards, rows without a value first. -/
  | ascNullsFirst
  /-- Upwards, rows without a value last. -/
  | ascNullsLast
  /-- Downwards, rows without a value first. -/
  | descNullsFirst
  /-- Downwards, rows without a value last. -/
  | descNullsLast
deriving DecidableEq, Repr, Inhabited

namespace Direction

/-- Every direction, in the order of the documentation. -/
def all : List Direction :=
  [.asc, .desc, .ascNullsFirst, .ascNullsLast, .descNullsFirst, .descNullsLast]

/-- The name of a direction in requests. -/
def name : Direction → String
  | .asc => "asc"
  | .desc => "desc"
  | .ascNullsFirst => "asc_nulls_first"
  | .ascNullsLast => "asc_nulls_last"
  | .descNullsFirst => "desc_nulls_first"
  | .descNullsLast => "desc_nulls_last"

/-- The direction with a given name. -/
def ofName? (text : String) : Option Direction :=
  all.find? fun direction => direction.name = text

/-- The complaint about a name that no direction has. -/
def unknownMessage (text : String) : String :=
  "unknown sort direction '" ++ text ++ "'"

/-- The name of a direction in diagnostics. -/
def inspect : Direction → String
  | .asc => "Asc"
  | .desc => "Desc"
  | .ascNullsFirst => "AscNullsFirst"
  | .ascNullsLast => "AscNullsLast"
  | .descNullsFirst => "DescNullsFirst"
  | .descNullsLast => "DescNullsLast"

theorem mem_all (direction : Direction) : direction ∈ all := by
  cases direction <;> decide

theorem name_injective {first second : Direction} (same : first.name = second.name) :
    first = second := by
  revert same
  cases first <;> cases second <;> decide

/-- Names read back as the directions they name, and no other text is read. -/
theorem ofName?_eq_some_iff {text : String} {direction : Direction} :
    ofName? text = some direction ↔ text = direction.name := by
  constructor
  · intro found
    have named := List.find?_some found
    exact (of_decide_eq_true named).symm
  · rintro rfl
    cases direction <;> decide

end Direction

/-- One element of a sort list. -/
inductive Directive where
  /-- Upwards by a name. -/
  | field (name : String)
  /-- In a direction by a name. -/
  | directed (direction : Direction) (name : String)
  /-- In a direction by a column. -/
  | qualified (direction : Direction) (relation column : String)
deriving DecidableEq, Repr, Inhabited

namespace Directive

/-- The direction of a directive; a bare name sorts upwards. -/
def direction : Directive → Direction
  | .field _ => .asc
  | .directed direction _ => direction
  | .qualified direction _ _ => direction

/-- The column a directive sorts by, given the columns that names stand for. -/
def resolve (columnOf : String → Column) : Directive → Column
  | .field name => columnOf name
  | .directed _ name => columnOf name
  | .qualified _ relation column => ⟨relation, column⟩

/-- A directive in messages. -/
def display : Directive → String
  | .field name => name
  | .directed direction name => direction.name ++ ": " ++ name
  | .qualified direction relation column => direction.name ++ ": " ++ relation ++ "." ++ column

/-- A directive in diagnostics. -/
def inspect : Directive → String
  | .field name => "Field(" ++ Text.quoted name ++ ")"
  | .directed direction name =>
    "Directed(" ++ direction.inspect ++ ", " ++ Text.quoted name ++ ")"
  | .qualified direction relation column =>
    "Qualified(" ++ direction.inspect ++ ", " ++ Text.quoted relation ++ ", " ++
      Text.quoted column ++ ")"

end Directive

end RequestFilter
