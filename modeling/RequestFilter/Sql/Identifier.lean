/-! # Identifiers in SQL

Tables, columns and aliases are written between double quotes, and only if their
names need no further care: ASCII letters, digits and underscores, at least one
of them.
-/

namespace RequestFilter.Sql

/-- What can be wrong with a query that is to be written. -/
inductive BuildError where
  /-- A name is no identifier. -/
  | invalidIdentifier (name : String)
  /-- A sort directive stands where a value is bound. -/
  | unboundDirective (display : String)
  /-- A column belongs to a relation that the query does not have. -/
  | unknownRelation (relation : String)
  /-- The query has too many conditions. -/
  | tooManyConditions (count : Nat)
  /-- The query has too many joins. -/
  | tooManyJoins (count : Nat)
deriving DecidableEq, Repr

/-- The largest number of conditions of a query. -/
def maxConditions : Nat := 100

/-- The largest number of joins of a query. -/
def maxJoins : Nat := 10

/-- The complaint about a query. -/
def BuildError.message : BuildError → String
  | .invalidIdentifier name =>
    "Invalid identifier: " ++ (if name = "" then "Empty identifier" else name)
  | .unboundDirective display =>
    "Invalid search value: sort directive '" ++ display ++ "' cannot be bound as a value"
  | .unknownRelation relation =>
    "Unknown relation '" ++ relation ++ "': not the base table and never joined"
  | .tooManyConditions count =>
    "Query too complex: Too many conditions: " ++ toString count ++ " (max " ++
      toString maxConditions ++ ")"
  | .tooManyJoins count =>
    "Query too complex: Too many JOINs: " ++ toString count ++ " (max " ++
      toString maxJoins ++ ")"

/-- The characters of identifiers. -/
def isIdentifierChar (c : Char) : Bool :=
  c.isAlphanum || c = '_'

/-- A name is an identifier. -/
def IsIdentifier (name : String) : Prop :=
  name.toList ≠ [] ∧ name.toList.all isIdentifierChar = true

instance (name : String) : Decidable (IsIdentifier name) :=
  inferInstanceAs (Decidable (_ ∧ _))

/-- Refuses a name that is no identifier. -/
def checkIdentifier (name : String) : Except BuildError Unit :=
  if IsIdentifier name then .ok () else .error (.invalidIdentifier name)

/-- An identifier between double quotes. -/
def identifier (name : String) : Except BuildError String := do
  checkIdentifier name
  return "\"" ++ name ++ "\""

end RequestFilter.Sql
