/-! # Kinds of filters

Three kinds of filters are switched on as a whole and select by a reserved key;
the nine others act on columns and are configured entry by entry.  Two orders of
all kinds matter: the one in which rules are tried and the one in which the
documentation lists them.
-/

namespace RequestFilter

/-- The kinds that are switched on as a whole. -/
inductive Toggle where
  /-- At most so many rows. -/
  | limit
  /-- Without the first rows. -/
  | offset
  /-- Sorted by columns. -/
  | orderBy
deriving DecidableEq, Repr, Inhabited

/-- The kinds that restrict a column. -/
inductive FieldKind where
  /-- The column equals the value. -/
  | equalTo
  /-- The column equals one of the values. -/
  | equalToAny
  /-- The column is below the value. -/
  | smallerThan
  /-- The column is not below the value. -/
  | greaterOrEqual
  /-- The column starts with the text. -/
  | startsWith
  /-- The column contains the text. -/
  | contains
  /-- The list in the column has the value. -/
  | listContains
  /-- The list in the column has one of the values. -/
  | listContainsAny
  /-- The list in the column has all the values. -/
  | listContainsAll
deriving DecidableEq, Repr, Inhabited

/-- Any kind of filter. -/
inductive Kind where
  /-- A kind that is switched on as a whole. -/
  | toggle (which : Toggle)
  /-- A kind that restricts a column. -/
  | field (which : FieldKind)
deriving DecidableEq, Repr, Inhabited

namespace Toggle

/-- The kinds that are switched on as a whole, in the order of the definitions. -/
def all : List Toggle := [.limit, .offset, .orderBy]

/-- The name of the kind, which is also the key that selects it. -/
def name : Toggle → String
  | .limit => "limit"
  | .offset => "offset"
  | .orderBy => "order_by"

end Toggle

namespace FieldKind

/-- The kinds that restrict a column, in the order of the definitions. -/
def all : List FieldKind :=
  [.equalTo, .equalToAny, .smallerThan, .greaterOrEqual, .startsWith, .contains, .listContains,
    .listContainsAny, .listContainsAll]

/-- The name of the kind in definitions. -/
def name : FieldKind → String
  | .equalTo => "equal_to"
  | .equalToAny => "equal_to_any"
  | .smallerThan => "smaller_than"
  | .greaterOrEqual => "greater_or_equal"
  | .startsWith => "string_starts_with"
  | .contains => "string_contains"
  | .listContains => "list_contains"
  | .listContainsAny => "list_contains_any"
  | .listContainsAll => "list_contains_all"

/-- The kinds that ask for a list of values and match nothing else. -/
def takesList : FieldKind → Bool
  | .equalToAny | .listContainsAny | .listContainsAll => true
  | _ => false

end FieldKind

namespace Kind

/-- The order in which rules are tried: the first rule that matches wins.  Equality with one of
several values, which matches only lists, stands before equality, which takes anything. -/
def dispatchOrder : List Kind :=
  [.toggle .limit, .toggle .offset, .toggle .orderBy, .field .equalToAny, .field .equalTo,
    .field .startsWith, .field .contains, .field .listContainsAny, .field .listContainsAll,
    .field .listContains, .field .smallerThan, .field .greaterOrEqual]

/-- The order of the sections of the documentation. -/
def documentationOrder : List Kind :=
  [.field .equalTo, .field .equalToAny, .field .smallerThan, .field .greaterOrEqual,
    .field .startsWith, .field .contains, .field .listContains, .field .listContainsAny,
    .field .listContainsAll, .toggle .orderBy, .toggle .limit, .toggle .offset]

/-- The name of the kind in definitions. -/
def name : Kind → String
  | .toggle which => which.name
  | .field which => which.name

/-- The kind is switched on as a whole. -/
def isToggle : Kind → Bool
  | .toggle _ => true
  | .field _ => false

/-- The kind matches lists of values and nothing else. -/
def takesList : Kind → Bool
  | .toggle .orderBy => true
  | .toggle _ => false
  | .field which => which.takesList

/-- The kind with a given name. -/
def ofName? (text : String) : Option Kind :=
  dispatchOrder.find? fun kind => kind.name = text

/-- The name of the kind in diagnostics. -/
def inspect : Kind → String
  | .toggle .limit => "Limit"
  | .toggle .offset => "Offset"
  | .toggle .orderBy => "OrderBy"
  | .field .equalTo => "EqualTo"
  | .field .equalToAny => "EqualToAny"
  | .field .smallerThan => "SmallerThan"
  | .field .greaterOrEqual => "GreaterOrEqual"
  | .field .startsWith => "StringStartsWith"
  | .field .contains => "StringContains"
  | .field .listContains => "ListContains"
  | .field .listContainsAny => "ListContainsAny"
  | .field .listContainsAll => "ListContainsAll"

theorem mem_dispatchOrder (kind : Kind) : kind ∈ dispatchOrder := by
  rcases kind with which | which
  · cases which <;> decide
  · cases which <;> decide

theorem dispatchOrder_nodup : dispatchOrder.Nodup := by decide

/-- The documentation lists the kinds of the dispatch order, each once. -/
theorem documentationOrder_perm : documentationOrder.Perm dispatchOrder := by decide

end Kind

end RequestFilter
