import RequestFilter.Proofs.Sql.Applied

/-! # Filters in another order

Whether a filter succeeds, and what it then adds, does not depend on the filters
before it.  Requests that hold the same filters therefore succeed together, and
where the filters of each kind that is switched on as a whole keep their order,
the results differ in nothing but the order of their joins and of their
conditions (`Table.rearranged_of_apply`).  Such selections are written together
(`Select.Rearranged.exists_statement`).
-/

namespace RequestFilter

open Sql Outcome

namespace Sql.Select

/-- Two selections differ in nothing but the order of their joins and of their conditions. -/
structure Rearranged (first second : Select) : Prop where
  table : first.table = second.table
  schema : first.schema = second.schema
  relation : first.relation = second.relation
  joins : first.joins.Perm second.joins
  conditions : first.conditions.Perm second.conditions
  sort : first.sort = second.sort
  limit : first.limit = second.limit
  offset : first.offset = second.offset

namespace Rearranged

variable {first second : Select} (same : first.Rearranged second)

include same

theorem symm : second.Rearranged first :=
  ⟨same.table.symm, same.schema.symm, same.relation.symm, same.joins.symm, same.conditions.symm,
    same.sort.symm, same.limit.symm, same.offset.symm⟩

theorem relations : first.relations.Perm second.relations := by
  unfold Select.relations
  rw [same.relation]
  exact (same.joins.map _).cons _

theorem referencedColumns : first.referencedColumns.Perm second.referencedColumns := by
  unfold Select.referencedColumns
  rw [same.sort]
  exact ((same.conditions.map _).append_right _).append (same.joins.map _)

theorem validate (valid : first.validate = .ok ()) : second.validate = .ok () := by
  obtain ⟨conditions, joins, addressable⟩ := validate_eq_ok_iff.mp valid
  refine validate_eq_ok_iff.mpr ⟨?_, ?_, fun column member => ?_⟩
  · rwa [← same.conditions.length_eq]
  · rwa [← same.joins.length_eq]
  · rw [← same.relations.mem_iff]
    exact addressable column (same.referencedColumns.mem_iff.mpr member)

theorem writable (writable : first.Writable) : second.Writable where
  table := by rw [← same.schema, ← same.table]; exact writable.table
  relation := by rw [← same.relation]; exact writable.relation
  joins join member := by
    rw [← same.schema]
    exact writable.joins join (same.joins.mem_iff.mpr member)
  conditions condition member := writable.conditions condition (same.conditions.mem_iff.mpr member)
  sort key member := writable.sort key (by rwa [same.sort])

/-- Selections that differ in nothing but the order of joins and conditions are written together. -/
theorem exists_statement (written : ∃ statement, first.statement = .ok statement) :
    ∃ statement, second.statement = .ok statement := by
  obtain ⟨statement, success⟩ := written
  obtain ⟨valid, writable, -⟩ := statement_eq_ok_iff.mp success
  exact ⟨_, statement_eq_ok_iff.mpr ⟨same.validate valid, same.writable writable, rfl⟩⟩

end Rearranged

end Sql.Select

namespace Table

/-- Two requests hold the same filters, and those that a table takes for one kind that is switched
on as a whole in the same order. -/
structure Rearranges {Query Fault : Type} (table : Table Query Fault) (first second : Request) :
    Prop where
  filters : first.entries.Perm second.entries
  kept : ∀ which, table.dispatched first.entries (.toggle which) =
    table.dispatched second.entries (.toggle which)

theorem sorts_unique {Query Fault : Type} (table : Table Query Fault) :
    Relator.RightUnique table.Sorts := by
  intro item key other sorts otherSorts
  unfold Sorts at sorts otherSorts
  rw [sorts, Option.some.injEq, Prod.mk.injEq] at otherSorts
  cases key
  cases other
  rw [SortKey.mk.injEq]
  exact otherSorts

theorem counts_unique : Relator.RightUnique Counts := by
  intro filter count other counts otherCounts
  cases counts with
  | integer given same =>
      cases otherCounts with
      | integer otherGiven otherSame =>
          cases given.symm.trans otherGiven
          exact UInt64.toNat_inj.mp (Int.ofNat.inj (same.trans otherSame.symm))
      | text otherGiven => cases given.symm.trans otherGiven
  | text given spells =>
      cases otherCounts with
      | integer otherGiven => cases given.symm.trans otherGiven
      | text otherGiven otherSpells =>
          cases given.symm.trans otherGiven
          have read := Count.ofText?_eq_some_iff.mpr spells
          rw [Count.ofText?_eq_some_iff.mpr otherSpells] at read
          exact (Option.some.inj read).symm

section Requests

variable {catalog : Catalog} {definitions : Definitions} {relation : String}
  {table : Table Select BuildError} {start result other : Select} {first second : Request}

/-- Requests with the same filters succeed together. -/
theorem exists_apply_of_perm
    (compiled : Table.compile definitions relation catalog.resolver = .ok table)
    (perm : first.entries.Perm second.entries)
    (success : ∃ result, table.apply start first = .ok result) :
    ∃ other, table.apply start second = .ok other := by
  obtain ⟨result, success⟩ := success
  rw [table.apply_eq_changes compiled] at success
  obtain ⟨changes, found, -⟩ := map_eq_ok_iff.mp success
  obtain ⟨others, otherFound, -⟩ := exists_mapM_of_perm perm.symm found
  rw [table.apply_eq_changes compiled]
  exact ⟨_, map_eq_ok_iff.mpr ⟨others, otherFound, rfl⟩⟩

theorem rearranged_of_apply
    (compiled : Table.compile definitions relation catalog.resolver = .ok table)
    (same : table.Rearranges first second) (success : table.apply start first = .ok result)
    (otherSuccess : table.apply start second = .ok other) : result.Rearranged other := by
  obtain ⟨changes, found, parts, rfl⟩ := exists_changes_of_apply compiled success
  obtain ⟨others, otherFound, otherParts, rfl⟩ := exists_changes_of_apply compiled otherSuccess
  have perm : changes.flatten.Perm others.flatten := by
    obtain ⟨results, again, perm⟩ := exists_mapM_of_perm same.filters otherFound
    rw [found] at again
    cases again
    exact perm.flatten
  have sortItems : table.sortItems first.entries = table.sortItems second.entries := by
    unfold Table.sortItems
    rw [same.kept .orderBy]
  rw [Change.foldl_make, Change.foldl_make]
  refine ⟨rfl, rfl, rfl, ?_, ?_, ?_, ?_, ?_⟩
  · exact (catalog.added_perm _ (perm.filterMap _)).append_left _
  · exact (perm.filterMap _).append_left _
  · have sort := otherParts.sort
    rw [← sortItems] at sort
    exact congrArg (start.sort ++ ·) (List.right_unique_forall₂' table.sorts_unique parts.sort sort)
  · have limit := otherParts.limit
    rw [← same.kept] at limit
    exact congrArg (fun counts => counts.getLast?.or start.limit)
      (List.right_unique_forall₂' counts_unique parts.limit limit)
  · have offset := otherParts.offset
    rw [← same.kept] at offset
    exact congrArg (fun counts => counts.getLast?.or start.offset)
      (List.right_unique_forall₂' counts_unique parts.offset offset)

/-- **The order of filters matters only to sorting and pagination.**  Let two requests hold the same
filters, with the sort lists and the numbers of rows of each kind in the same order.  A table with
the joins of a catalog then applies to both or to neither.  The results differ in nothing but the
order of their joins and of their conditions, and both can be written or neither can. -/
theorem apply_of_rearranges
    (compiled : Table.compile definitions relation catalog.resolver = .ok table)
    (same : table.Rearranges first second) :
    ((∃ result, table.apply start first = .ok result) ↔
        ∃ other, table.apply start second = .ok other) ∧
      ∀ result other, table.apply start first = .ok result →
        table.apply start second = .ok other →
          result.Rearranged other ∧
            ((∃ statement, result.statement = .ok statement) ↔
              ∃ statement, other.statement = .ok statement) := by
  refine ⟨⟨exists_apply_of_perm compiled same.filters,
    exists_apply_of_perm compiled same.filters.symm⟩, ?_⟩
  intro result other success otherSuccess
  have rearranged := rearranged_of_apply compiled same success otherSuccess
  exact ⟨rearranged, rearranged.exists_statement, rearranged.symm.exists_statement⟩

end Requests

end Table

/-- Users by the names of their roles and of their permissions, sorted and limited, with keys of
both forms. -/
def Definitions.grants : Definitions where
  atomKeys := true
  stringKeys := true
  limit := true
  orderBy := true
  equalTo := [.qualified "role" "role" "name", .qualified "permission" "permission" "name"]

/-- Roles before permissions. -/
def Request.grants : Request where
  entries := [(.text "role", .text "admin"), (.text "limit", .text "50"),
    (.text "order_by", .list [.text "name", .order (.qualified .desc "role" "rank")]),
    (.atom "limit", .integer 20)] ++ [(.text "permission", .text "read")]
  distinct := by decide

/-- The same filters, with permissions before roles. -/
def Request.grantsByPermission : Request where
  entries := [(.text "permission", .text "read")] ++ [(.text "role", .text "admin"),
    (.text "limit", .text "50"),
    (.text "order_by", .list [.text "name", .order (.qualified .desc "role" "rank")]),
    (.atom "limit", .integer 20)]
  distinct := by decide

theorem Table.apply_of_rearranges_grants :
    ∃ (table : Table Select BuildError) (result other : Select),
      Table.compile .grants "users" Catalog.permissions.resolver = .ok table ∧
        table.apply (.ofTable "users") .grants = .ok result ∧
        table.apply (.ofTable "users") .grantsByPermission = .ok other ∧
        result.Rearranged other ∧
          ((∃ statement, result.statement = .ok statement) ↔
            ∃ statement, other.statement = .ok statement) := by
  refine ⟨_, _, _, rfl, rfl, rfl, ?_⟩
  have compiled : Table.compile .grants "users" Catalog.permissions.resolver = .ok _ := rfl
  refine (Table.apply_of_rearranges compiled
    (show Table.Rearranges _ Request.grants Request.grantsByPermission from ?_)).2 _ _ rfl rfl
  refine ⟨List.perm_append_comm, fun which => ?_⟩
  cases which <;> rfl

end RequestFilter
