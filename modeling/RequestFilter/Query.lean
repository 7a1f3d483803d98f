import RequestFilter.Value

/-! # Queries that can be filtered

The operations that filters need of a query.  Restrictions add up, sort keys
are appended, and a count of rows replaces the one before.  Before a filter
touches a column, a resolver gets the name of the column's relation and may join
the relation to the query.
-/

namespace RequestFilter

/-- The ordered comparisons of a column with a value. -/
inductive Comparison where
  /-- The column is below the value. -/
  | smallerThan
  /-- The column is not below the value. -/
  | greaterOrEqual
deriving DecidableEq, Repr

/-- The places at which a column may hold a text, whatever the case of its letters. -/
inductive Pattern where
  /-- At its start. -/
  | startsWith
  /-- Anywhere. -/
  | contains
deriving DecidableEq, Repr

/-- The comparisons of a list in a column with given values. -/
inductive ListTest where
  /-- The one given value is in the list. -/
  | contains
  /-- Some given value is in the list. -/
  | containsAny
  /-- Every given value is in the list. -/
  | containsAll
deriving DecidableEq, Repr

/-- Queries that filters can narrow, with the faults that narrowing may meet. -/
class Filterable (Query : Type) (Fault : outParam Type) where
  /-- The column equals the value. -/
  whereEqual : Query → Column → Value → Except Fault Query
  /-- The column equals one of the values. -/
  whereEqualAny : Query → Column → List Value → Except Fault Query
  /-- The column compares with the value. -/
  whereCompare : Query → Column → Comparison → Value → Except Fault Query
  /-- The column holds the text as it stands, whatever the case of its letters. -/
  wherePattern : Query → Column → Pattern → String → Except Fault Query
  /-- The list in the column compares with the values. -/
  whereList : Query → Column → ListTest → List Value → Except Fault Query
  /-- Sorts by the column after the sort keys so far. -/
  orderBy : Query → Direction → Column → Except Fault Query
  /-- Returns at most so many rows. -/
  limit : Query → Count → Except Fault Query
  /-- Skips so many rows. -/
  offset : Query → Count → Except Fault Query
  /-- The query has a relation of this name. -/
  hasRelation : Query → String → Bool

/-- What to do to a query so that it has a relation. -/
abbrev Resolver (Query : Type) := Query → String → Query

namespace Resolver

/-- Joins nothing: every relation is expected to be there. -/
def identity (Query : Type) : Resolver Query :=
  fun query _ => query

/-- Joins a relation only if the query does not have it yet. -/
def joinOnce {Query Fault : Type} [Filterable Query Fault] (join : Resolver Query) :
    Resolver Query :=
  fun query relation => if Filterable.hasRelation query relation then query else join query relation

end Resolver

end RequestFilter
