import RequestFilter.Dispatch

/-! # Declarative rules of the caller

Ready-made matchers and actions for the rules that a caller puts before a table.
-/

namespace RequestFilter

/-- The shape of the values that a rule is for. -/
inductive Shape where
  /-- Every value. -/
  | any
  /-- Lists. -/
  | list
  /-- Values that are neither lists nor sort directives. -/
  | scalar
deriving DecidableEq, Repr

/-- A value has a shape. -/
def Shape.fits (shape : Shape) (value : Value) : Bool :=
  match shape with
  | .any => true
  | .list => value.isList
  | .scalar => value.isScalar

/-- What a rule of the caller does. -/
inductive Action where
  /-- Nothing. -/
  | skip
  /-- The column equals the value of the filter. -/
  | equal (column : Column)
  /-- The column contains a fixed text. -/
  | contains (column : Column) (text : String)
  /-- The value of the filter limits the number of rows. -/
  | limit
  /-- The value is refused. -/
  | refuseValue (reason : String)
  /-- The value is refused as a sort list. -/
  | refuseDirective (reason : String)
deriving DecidableEq, Repr

/-- What an action does to a query. -/
def Action.run {Query Fault : Type} [Filterable Query Fault] (action : Action) :
    Transform Query Fault := fun query key value =>
  match action with
  | .skip => .ok query
  | .equal column => (Filterable.whereEqual query column value).mapError .query
  | .contains column text =>
    (Filterable.wherePattern query column .contains text).mapError .query
  | .limit =>
    match value.count? with
    | some count => (Filterable.limit query count).mapError .query
    | none => .error (.invalidValue key (.refused "not a count"))
  | .refuseValue reason => .error (.invalidValue key (.refused reason))
  | .refuseDirective reason => .error (.invalidDirective key (.refused reason))

/-- A rule for the keys of one name, or of any, with values of a shape. -/
def Rule.forShape {Query Fault : Type} (name : Option String) (shape : Shape)
    (run : Transform Query Fault) : Rule Query Fault :=
  .custom (fun key value => (name.all fun name => key.name = name) && shape.fits value) run

end RequestFilter
