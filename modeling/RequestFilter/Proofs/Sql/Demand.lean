import RequestFilter.Proofs.Sql.Refusal
import RequestFilter.Proofs.Sql.Scoping

/-! # Relations on demand

A request touches relations, and a catalog joins those of them that it has.  A
join may hang on a relation that no filter touches.  Nothing joins that relation,
even where the catalog has it, and the selection is refused
(`Table.exists_unknownRelation_iff_unsupplied`).
-/

namespace RequestFilter

open Sql Outcome

namespace Sql

namespace Catalog

/-- A relation is touched, or the join of another touched relation hangs on it. -/
inductive Needs (catalog : Catalog) (base : String) (touched : List String) : String → Prop
  | touched {name : String} (asked : name ∈ touched) : Needs catalog base touched name
  | anchor {name : String} {join : Join} (asked : name ∈ touched) (other : name ≠ base)
      (registered : catalog.get? name = some join) :
      Needs catalog base touched join.anchor.relation

/-- A relation is that of the table, or it is touched and registered. -/
def Supplies (catalog : Catalog) (base : String) (touched : List String) (name : String) : Prop :=
  name = base ∨ name ∈ touched ∧ (catalog.get? name).isSome

variable {catalog : Catalog} {base : String} {touched : List String}

theorem mem_relations_added_iff {name : String} :
    name ∈ base :: (catalog.added [base] touched).map Join.relation ↔
      catalog.Supplies base touched name := by
  unfold Supplies
  rw [List.mem_cons, List.mem_map]
  constructor
  · rintro (same | ⟨join, member, rfl⟩)
    · exact .inl same
    · obtain ⟨registered, asked, -⟩ := mem_added.mp member
      exact .inr ⟨asked, Option.isSome_of_eq_some registered⟩
  · rintro (same | ⟨asked, registered⟩)
    · exact .inl same
    · by_cases same : name = base
      · exact .inl same
      · obtain ⟨join, registered⟩ := Option.isSome_iff_exists.mp registered
        obtain rfl := catalog.relation_of_get? registered
        exact .inr ⟨join, mem_added.mpr ⟨registered, asked,
          fun member => same (List.mem_singleton.mp member)⟩, rfl⟩

theorem mem_anchors_added_iff {name : String} :
    (∃ join ∈ catalog.added [base] touched, join.anchor.relation = name) ↔
      ∃ other ∈ touched, other ≠ base ∧
        ∃ join, catalog.get? other = some join ∧ join.anchor.relation = name := by
  constructor
  · rintro ⟨join, member, same⟩
    obtain ⟨registered, asked, absent⟩ := mem_added.mp member
    exact ⟨join.relation, asked, fun other => absent (List.mem_singleton.mpr other), join,
      registered, same⟩
  · rintro ⟨other, asked, absent, join, registered, same⟩
    obtain rfl := catalog.relation_of_get? registered
    exact ⟨join, mem_added.mpr ⟨registered, asked,
      fun member => absent (List.mem_singleton.mp member)⟩, same⟩

end Catalog

/-- The relations that changes are about are those of the columns that they restrict or sort by. -/
theorem Change.mem_relations_iff {changes : List Change} {name : String} :
    name ∈ changes.filterMap relation? ↔
      (∃ condition ∈ changes.filterMap condition?, condition.column.relation = name) ∨
        ∃ key ∈ changes.filterMap sortKey?, key.column.relation = name := by
  simp only [List.mem_filterMap]
  constructor
  · rintro ⟨change, member, about⟩
    cases change with
    | condition added =>
        exact .inl ⟨added, ⟨_, member, rfl⟩, Option.some.inj about⟩
    | sortKey added =>
        exact .inr ⟨added, ⟨_, member, rfl⟩, Option.some.inj about⟩
    | limit count => cases about
    | offset count => cases about
  · rintro (⟨condition, ⟨change, member, added⟩, rfl⟩ | ⟨key, ⟨change, member, added⟩, rfl⟩)
    · cases change <;> cases added
      exact ⟨_, member, rfl⟩
    · cases change <;> cases added
      exact ⟨_, member, rfl⟩

end Sql

section Tables

variable {catalog : Catalog} {definitions : Definitions} {relation : String}
  {table : Table Select BuildError} {start result : Select} {request : Request}

/-- The relations of a result are those that the catalog supplies. -/
theorem Table.mem_relations_iff_of_apply
    (compiled : Table.compile definitions relation catalog.resolver = .ok table)
    (joins : start.joins = []) (success : table.apply start request = .ok result) {name : String} :
    name ∈ result.relations ↔
      catalog.Supplies start.relation (definitions.touched relation request) name := by
  obtain ⟨changes, touched, rfl⟩ := Table.exists_touching_of_apply compiled success
  rw [Change.foldl_make, touched, ← Catalog.mem_relations_added_iff]
  simp only [Select.relations, joins, List.nil_append, List.map_nil]

/-- The relations whose columns a result speaks of are those that it needs. -/
theorem Table.exists_referenced_iff_of_apply
    (compiled : Table.compile definitions relation catalog.resolver = .ok table)
    (joins : start.joins = []) (conditions : start.conditions = []) (sort : start.sort = [])
    (success : table.apply start request = .ok result) {name : String} :
    (∃ column ∈ result.referencedColumns, column.relation = name) ↔
      catalog.Needs start.relation (definitions.touched relation request) name := by
  obtain ⟨changes, touched, rfl⟩ := Table.exists_touching_of_apply compiled success
  rw [Change.foldl_make, touched]
  simp only [Select.referencedColumns, Select.relations, joins, conditions, sort, List.nil_append,
    List.map_nil, List.mem_append, List.mem_map, or_and_right, exists_or, exists_exists_and_eq_and]
  rw [← Change.mem_relations_iff, touched, Catalog.mem_anchors_added_iff]
  constructor
  · rintro (asked | ⟨other, asked, absent, join, registered, rfl⟩)
    · exact .touched asked
    · exact .anchor asked absent registered
  · intro needs
    cases needs with
    | touched asked => exact .inl asked
    | anchor asked other registered => exact .inr ⟨_, asked, other, _, registered, rfl⟩

/-- **Exactly when joins on demand suffice.**  Let a table with the joins of a catalog be applied to
a selection without joins, conditions and sort keys, and let the result be of a size that is
allowed.  It lacks a relation exactly when a relation that is touched, or on which the join of a
touched one hangs, is neither that of the table nor both touched and registered; what is registered
but not touched is not joined. -/
theorem Table.exists_unknownRelation_iff_unsupplied
    (compiled : Table.compile definitions relation catalog.resolver = .ok table)
    (joins : start.joins = []) (conditions : start.conditions = []) (sort : start.sort = [])
    (success : table.apply start request = .ok result)
    (fewConditions : result.conditions.length ≤ maxConditions)
    (fewJoins : result.joins.length ≤ maxJoins) :
    ((∃ name, result.statement = .error (.unknownRelation name)) ↔
        ∃ name, catalog.Needs start.relation (definitions.touched relation request) name ∧
          ¬catalog.Supplies start.relation (definitions.touched relation request) name) ∧
      ∀ join ∈ result.joins, join.relation ∈ definitions.touched relation request := by
  refine ⟨?_, fun join member => ?_⟩
  · rw [Select.exists_unknownRelation_iff fewConditions fewJoins]
    simp only [← Table.mem_relations_iff_of_apply compiled joins success,
      ← Table.exists_referenced_iff_of_apply compiled joins conditions sort success]
    constructor
    · rintro ⟨column, referenced, absent⟩
      exact ⟨column.relation, ⟨column, referenced, rfl⟩, absent⟩
    · rintro ⟨_, ⟨column, referenced, rfl⟩, absent⟩
      exact ⟨column, referenced, absent⟩
  · obtain ⟨changes, touched, rfl⟩ := Table.exists_touching_of_apply compiled success
    rw [Change.foldl_make, touched, joins] at member
    exact (Catalog.mem_added.mp member).2.1

/-- A request that names a permission and no role. -/
def Request.permission : Request where
  entries := [(.text "permission", .text "read")]
  distinct := by decide

theorem Table.exists_unknownRelation_iff_unsupplied_permission :
    ∃ (table : Table Select BuildError) (result : Select),
      Table.compile .permissions "users" Catalog.permissions.resolver = .ok table ∧
        table.apply (.ofTable "users") .permission = .ok result ∧
        result.statement = .error (.unknownRelation "role") ∧
        ((∃ name, result.statement = .error (.unknownRelation name)) ↔
          ∃ name, Catalog.permissions.Needs "users" ["permission"] name ∧
            ¬Catalog.permissions.Supplies "users" ["permission"] name) ∧
        ∀ join ∈ result.joins, join.relation ∈ ["permission"] := by
  refine ⟨_, _, rfl, rfl, rfl, ?_⟩
  have compiled : Table.compile .permissions "users" Catalog.permissions.resolver = .ok _ := rfl
  exact Table.exists_unknownRelation_iff_unsupplied compiled rfl rfl rfl
    (show Table.apply _ (Select.ofTable "users") Request.permission = .ok _ from rfl) (by decide)
    (by decide)

end Tables

end RequestFilter
