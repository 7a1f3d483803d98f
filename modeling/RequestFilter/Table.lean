import RequestFilter.Definitions.Basic
import RequestFilter.Definitions.Validity
import RequestFilter.Dispatch
import RequestFilter.KeyPolicy
import RequestFilter.Query

/-! # Compiled tables

Definitions are compiled into a list of rules: one for every entry and one for
every kind that is switched on, kind by kind in dispatch order.  A table is a
value; applying a request to a query only reads it.
-/

namespace RequestFilter

section Rules

variable {Query Fault : Type} [Filterable Query Fault]

/-- A value where exactly one is needed. -/
def scalarOf (key : Key) (value : Value) : Except (DispatchError Fault) Value :=
  if value.isScalar then .ok value else .error (.invalidValue key .notScalar)

/-- The values where a list is needed. -/
def listOf (key : Key) (value : Value) : Except (DispatchError Fault) (List Value) :=
  match value.items? with
  | some items => .ok items
  | none => .error (.invalidValue key .notList)

/-- The text where a pattern needs one. -/
def textOf (key : Key) (value : Value) : Except (DispatchError Fault) String :=
  match value.patternText? with
  | some text => .ok text
  | none => .error (.invalidValue key .notText)

/-- The number of rows where one is needed. -/
def countOf (key : Key) (value : Value) : Except (DispatchError Fault) Count :=
  match value.count? with
  | some count => .ok count
  | none => .error (.invalidValue key .notCount)

/-- The directive that an element of a sort list states. -/
def directiveOf (key : Key) : Value → Except (DispatchError Fault) Directive
  | .text name => .ok (.field name)
  | .order directive => .ok directive
  | value => .error (.invalidDirective key (.notDirective value))

/-- Passes the faults of the query on. -/
def ofQuery (result : Except Fault Query) : Except (DispatchError Fault) Query :=
  result.mapError .query

/-- Restricts a column as a kind of filter does. -/
def restrict (kind : FieldKind) (target : Column) : Transform Query Fault :=
  fun query key value =>
    match kind with
    | .equalTo => do
      ofQuery (Filterable.whereEqual query target (← scalarOf key value))
    | .equalToAny => do
      ofQuery (Filterable.whereEqualAny query target (← listOf key value))
    | .smallerThan => do
      ofQuery (Filterable.whereCompare query target .smallerThan (← scalarOf key value))
    | .greaterOrEqual => do
      ofQuery (Filterable.whereCompare query target .greaterOrEqual (← scalarOf key value))
    | .startsWith => do
      ofQuery (Filterable.wherePattern query target .startsWith (← textOf key value))
    | .contains => do
      ofQuery (Filterable.wherePattern query target .contains (← textOf key value))
    | .listContains => do
      ofQuery (Filterable.whereList query target .contains [← scalarOf key value])
    | .listContainsAny => do
      ofQuery (Filterable.whereList query target .containsAny (← listOf key value))
    | .listContainsAll => do
      ofQuery (Filterable.whereList query target .containsAll (← listOf key value))

/-- Sorts by one element of a sort list, its relation resolved first. -/
def sortByItem (columnOf : String → Column) (resolver : Resolver Query) (key : Key)
    (query : Query) (item : Value) : Except (DispatchError Fault) Query := do
  let directive ← directiveOf key item
  let target := directive.resolve columnOf
  ofQuery (Filterable.orderBy (resolver query target.relation) directive.direction target)

/-- Sorts by the elements of a sort list in order. -/
def sortByItems (columnOf : String → Column) (resolver : Resolver Query) (key : Key) :
    Query → List Value → Except (DispatchError Fault) Query
  | query, [] => .ok query
  | query, item :: rest => do
    sortByItems columnOf resolver key (← sortByItem columnOf resolver key query item) rest

/-- The rule of an entry: the relation of its column is resolved, then the column restricted. -/
def fieldRule (policy : KeyPolicy) (relation : String) (resolver : Resolver Query)
    (kind : FieldKind) (entry : Entry) : Rule Query Fault where
  kind := some (.field kind)
  matcher := .keys (policy.acceptedKeys entry.key) kind.takesList
  run query key value :=
    let target := entry.target relation
    restrict kind target (resolver query target.relation) key value

/-- What a kind that is switched on as a whole does to a query. -/
def toggleRun (columnOf : String → Column) (resolver : Resolver Query) :
    Toggle → Transform Query Fault
  | .limit => fun query key value => do
    ofQuery (Filterable.limit query (← countOf key value))
  | .offset => fun query key value => do
    ofQuery (Filterable.offset query (← countOf key value))
  | .orderBy => fun query key value =>
    sortByItems columnOf resolver key query (value.items?.getD [])

/-- The rule of a kind that is switched on as a whole, selected by the kind's name. -/
def toggleRule (policy : KeyPolicy) (columnOf : String → Column) (resolver : Resolver Query)
    (toggle : Toggle) : Rule Query Fault where
  kind := some (.toggle toggle)
  matcher := .keys (policy.acceptedKeys toggle.name) (Kind.toggle toggle).takesList
  run := toggleRun columnOf resolver toggle

/-- The rules of one kind. -/
def rulesOfKind (policy : KeyPolicy) (definitions : Definitions) (relation : String)
    (resolver : Resolver Query) : Kind → List (Rule Query Fault)
  | .toggle toggle =>
    if definitions.isOn toggle then
      [toggleRule policy (definitions.sortColumn relation) resolver toggle]
    else []
  | .field kind =>
    (definitions.fieldEntries kind).map (fieldRule policy relation resolver kind)

end Rules

/-- Rules compiled from definitions, beside all that they were compiled from. -/
structure Table (Query Fault : Type) where
  /-- The definitions. -/
  definitions : Definitions
  /-- The default relation. -/
  relation : String
  /-- What joins relations on demand. -/
  resolver : Resolver Query
  /-- The rules in the order in which they are tried. -/
  rules : List (Rule Query Fault)

namespace Table

variable {Query Fault : Type}

/-- Compiles definitions that accept some form of keys and repeat no key within a kind. -/
def compile [Filterable Query Fault] (definitions : Definitions) (relation : String)
    (resolver : Resolver Query) : Except DefinitionsError (Table Query Fault) := do
  let policy ← KeyPolicy.ofDefinitions definitions
  definitions.validate
  return {
    definitions, relation, resolver
    rules := Kind.dispatchOrder.flatMap (rulesOfKind policy definitions relation resolver) }

/-- Applies a request, the rules of the caller first. -/
def applyWith (table : Table Query Fault) (custom : List (Rule Query Fault))
    (fallback : Fallback Query Fault) (query : Query) (request : Request) :
    Except (DispatchError Fault) Query :=
  dispatch table.rules custom fallback query request

/-- Applies a request in which every filter has to match a rule of the table. -/
def apply (table : Table Query Fault) (query : Query) (request : Request) :
    Except (DispatchError Fault) Query :=
  table.applyWith [] .fail query request

/-- A table in diagnostics. -/
def inspect (table : Table Query Fault) : String :=
  "CompiledFilters \x7b default_relation: " ++ Text.quoted table.relation ++ ", rules: [" ++
    ", ".intercalate (table.rules.map Rule.inspect) ++ "], .. \x7d"

end Table

end RequestFilter
