import RequestFilter.Proofs.Faults
import RequestFilter.Proofs.Sql.Isolation

/-! # Filters one by one

What a filter does to a selection is found without looking at the selection, so a
filter that is applied alone fails on every selection with one fault or on none
(`Table.apply_single_eq_error_iff`).  A request fails with the fault of the first
of its filters that fails alone (`Table.apply_eq_error_iff`), and that fault is
about the filter (`Table.failsByFilter_of_compile`).
-/

namespace RequestFilter

open Sql Outcome

/-- The request with a single filter. -/
def Request.single (filter : Key × Value) : Request where
  entries := [filter]
  distinct := List.nodup_singleton _

namespace Table

/-- A table fails on a request as it fails on a filter of the request. -/
structure FailsByFilter (table : Table Select BuildError) : Prop where
  /-- Alone a filter fails on all selections in the same way. -/
  alone : ∀ (start other : Select) filter fault,
    table.apply start (.single filter) = .error fault ↔
      table.apply other (.single filter) = .error fault
  /-- A request fails when one of its filters fails alone. -/
  fails_iff : ∀ start request, (∃ fault, table.apply start request = .error fault) ↔
    ∃ filter ∈ request.entries, ∃ fault, table.apply start (.single filter) = .error fault
  /-- The fault of a request is that of the first of its filters that fails alone. -/
  first : ∀ start request fault, table.apply start request = .error fault ↔
    ∃ before filter after, request.entries = before ++ filter :: after ∧
      (∀ earlier ∈ before, ∃ result, table.apply start (.single earlier) = .ok result) ∧
        table.apply start (.single filter) = .error fault
  /-- The fault of a filter names its key or is one of the query. -/
  names : ∀ start filter fault, table.apply start (.single filter) = .error fault →
    fault.key? = some filter.1 ∨ ∃ cause, fault = .query cause
  /-- No fault is that a list was expected. -/
  unlisted : ∀ start request fault, table.apply start request = .error fault →
    fault.reason? ≠ some "expected a list value"

section Runs

variable {definitions : Definitions} {relation : String} {resolver : Resolver Select}
  {table : Table Select BuildError}
  (compiled : Table.compile definitions relation resolver = .ok table)
  {start : Select} {filter : Key × Value}

include compiled

theorem apply_single :
    table.apply start (.single filter) =
      (definitions.changes relation filter.1 filter.2).map fun changes =>
        changes.foldl (Change.make resolver) start := by
  rw [Table.apply_eq_foldlM compiled]
  change (definitions.interpretEntry relation resolver start filter.1 filter.2 >>= pure) = _
  rw [bind_pure]
  exact definitions.interpretEntry_eq_changes relation resolver start filter.1 filter.2

theorem apply_single_eq_error_iff {fault : DispatchError BuildError} :
    table.apply start (.single filter) = .error fault ↔
      definitions.changes relation filter.1 filter.2 = .error fault := by
  rw [apply_single compiled, map_eq_error_iff]

theorem exists_apply_single_iff :
    (∃ result, table.apply start (.single filter) = .ok result) ↔
      ∃ changes, definitions.changes relation filter.1 filter.2 = .ok changes := by
  simp only [apply_single compiled, map_eq_ok_iff]
  exact ⟨fun ⟨_, changes, made, _⟩ => ⟨changes, made⟩, fun ⟨changes, made⟩ => ⟨_, changes, made, rfl⟩⟩

/-- A request fails with the fault of the first of its filters that fails alone. -/
theorem apply_eq_error_iff {request : Request} {fault : DispatchError BuildError} :
    table.apply start request = .error fault ↔
      ∃ before filter after, request.entries = before ++ filter :: after ∧
        (∀ earlier ∈ before, ∃ result, table.apply start (.single earlier) = .ok result) ∧
          table.apply start (.single filter) = .error fault := by
  simp only [exists_apply_single_iff compiled, apply_single_eq_error_iff compiled]
  rw [table.apply_eq_changes compiled, map_eq_error_iff, mapM_eq_error_iff]

/-- It fails when some filter does. -/
theorem exists_apply_eq_error_iff {request : Request} :
    (∃ fault, table.apply start request = .error fault) ↔
      ∃ filter ∈ request.entries, ∃ fault, table.apply start (.single filter) = .error fault := by
  constructor
  · rintro ⟨fault, failure⟩
    obtain ⟨before, filter, after, same, -, failed⟩ := (apply_eq_error_iff compiled).mp failure
    exact ⟨filter, same ▸ List.mem_append_right _ List.mem_cons_self, fault, failed⟩
  · rintro ⟨filter, member, fault, failed⟩
    cases outcome : table.apply start request with
    | error other => exact ⟨other, rfl⟩
    | ok result =>
        rw [table.apply_eq_changes compiled] at outcome
        obtain ⟨changes, made, -⟩ := map_eq_ok_iff.mp outcome
        obtain ⟨change, -, succeeds⟩ := exists_mem_of_mapM made member
        rw [apply_single_eq_error_iff compiled, succeeds] at failed
        cases failed

/-- **A request fails by its filters.**  Whatever a table over selections joins, a filter that is
applied alone fails on all selections or on none, always with one fault, which names its key or is
one of the query.  A request fails when some filter of it fails alone, with the fault of the first
that does, and never because a list was expected. -/
theorem failsByFilter_of_compile : table.FailsByFilter where
  alone start other filter fault := by
    rw [apply_single_eq_error_iff compiled, apply_single_eq_error_iff compiled]
  fails_iff start request := exists_apply_eq_error_iff compiled
  first start request fault := apply_eq_error_iff compiled
  names start filter fault failure := by
    obtain ⟨failing, member, middle, failed⟩ := Table.exists_of_apply_eq_error compiled failure
    obtain rfl : failing = filter := List.mem_singleton.mp member
    exact (Definitions.befalls_of_interpretEntry failed).names
  unlisted start request fault failure := by
    obtain ⟨filter, -, middle, failed⟩ := Table.exists_of_apply_eq_error compiled failure
    exact (Definitions.befalls_of_interpretEntry failed).reason?_ne

end Runs

end Table

/-- A part of a name, then roles with a sort directive among them, then no number of rows. -/
def Request.faulty : Request where
  entries := [(.text "name", .text "ann"),
    (.text "role", .list [.text "reader", .list [.order (.directed .desc "rank")]]),
    (.text "limit", .text "many")]
  distinct := by decide

theorem Table.failsByFilter_of_compile_people :
    ∃ table : Table Select BuildError,
      Table.compile .people "people" Catalog.roles.resolver = .ok table ∧ table.FailsByFilter ∧
        table.apply (.ofTable "people") .faulty =
          .error (.query (.unboundDirective "desc: rank")) ∧
        table.apply (.ofTable "people") (.single (.text "limit", .text "many")) =
          .error (.invalidValue (.text "limit") .notCount) := by
  refine ⟨_, rfl, ?_, rfl, rfl⟩
  have compiled : Table.compile .people "people" Catalog.roles.resolver = .ok _ := rfl
  exact Table.failsByFilter_of_compile compiled

end RequestFilter
