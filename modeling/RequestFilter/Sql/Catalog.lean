import RequestFilter.Query
import RequestFilter.Sql.Filtering

/-! # Join catalogs

The joins that a selection may get on demand, one for a relation.  A join
replaces the one that was registered for its relation before.
-/

namespace RequestFilter.Sql

/-- Joins of distinct relations. -/
structure Catalog where
  /-- The joins. -/
  joins : List Join
  /-- No relation is joined twice. -/
  distinct : (joins.map Join.relation).Nodup

namespace Catalog

/-- The catalog without joins. -/
def empty : Catalog := ⟨[], List.nodup_nil⟩

/-- Registers a join for its relation. -/
def insert (catalog : Catalog) (join : Join) : Catalog where
  joins := join :: catalog.joins.filter fun other => other.relation ≠ join.relation
  distinct := by
    rw [List.map_cons, List.nodup_cons]
    refine ⟨?_, catalog.distinct.sublist (List.filter_sublist.map Join.relation)⟩
    intro registered
    obtain ⟨other, other_mem, same⟩ := List.mem_map.mp registered
    exact of_decide_eq_true (List.mem_filter.mp other_mem).2 same

/-- The catalog with the given joins registered one after the other. -/
def ofList (joins : List Join) : Catalog :=
  joins.foldl insert empty

/-- The join of a relation. -/
def get? (catalog : Catalog) (relation : String) : Option Join :=
  catalog.joins.find? fun join => join.relation = relation

/-- The number of joins. -/
def size (catalog : Catalog) : Nat :=
  catalog.joins.length

/-- Adds the join of a relation to a selection; an unknown relation adds nothing. -/
def resolve (catalog : Catalog) : Resolver Select := fun select relation =>
  match catalog.get? relation with
  | some join => select.addJoin join
  | none => select

/-- Adds the join of a relation to a selection that does not have the relation yet. -/
def resolver (catalog : Catalog) : Resolver Select :=
  Resolver.joinOnce catalog.resolve

end Catalog

end RequestFilter.Sql
