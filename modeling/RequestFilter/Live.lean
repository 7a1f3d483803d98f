import RequestFilter.Table

/-! # Live tables

A table that is replaced while requests are served.  New definitions are compiled
for the default relation and the resolver of the table in place, and definitions
that do not compile leave it there.  Requests that took the table before a
replacement keep it.
-/

namespace RequestFilter

/-- A table in place, until the next one is. -/
structure Live (Query Fault : Type) where
  /-- The table in place. -/
  current : Table Query Fault

namespace Live

variable {Query Fault : Type}

/-- Puts the table of new definitions in place. -/
def reload [Filterable Query Fault] (live : Live Query Fault) (definitions : Definitions) :
    Except DefinitionsError (Live Query Fault) := do
  let table ← Table.compile definitions live.current.relation live.current.resolver
  return ⟨table⟩

/-- Applies a request through the table in place. -/
def apply (live : Live Query Fault) (query : Query) (request : Request) :
    Except (DispatchError Fault) Query :=
  live.current.apply query request

/-- A live table in diagnostics. -/
def inspect (live : Live Query Fault) : String :=
  "ReloadableFilters \x7b current: " ++ live.current.inspect ++ " \x7d"

end Live

end RequestFilter
