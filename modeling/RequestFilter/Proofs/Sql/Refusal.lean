import RequestFilter.Proofs.Outcome
import RequestFilter.Sql.Statement

/-! # Refusals

A selection that is not written is refused for its size, for a relation that it
does not have or for a name.  The checks come in this order: the writers of all
parts of a statement fail only for names, so every other fault is one of the
check that comes before them (`Select.statement_eq_error_iff`).
-/

namespace RequestFilter.Sql

open Outcome

/-- The fault is about a name. -/
inductive BuildError.OfName : BuildError → Prop
  | invalidIdentifier (name : String) : OfName (.invalidIdentifier name)

section Writers

theorem identifier_failsOnly (name : String) :
    FailsOnly BuildError.OfName (identifier name) := by
  intro fault failure
  unfold identifier checkIdentifier at failure
  by_cases valid : IsIdentifier name
  · rw [if_pos valid] at failure
    cases failure
  · rw [if_neg valid] at failure
    cases failure
    exact .invalidIdentifier name

theorem columnSql_failsOnly (column : Column) :
    FailsOnly BuildError.OfName (columnSql column) :=
  (identifier_failsOnly _).bind fun _ => (identifier_failsOnly _).bind fun _ => .pure _

theorem Condition.sql_failsOnly (condition : Condition) (bound : List Parameter) :
    FailsOnly BuildError.OfName (condition.sql bound) := by
  refine (columnSql_failsOnly _).bind fun column => ?_
  cases condition <;> exact .pure _

theorem conditionTexts_failsOnly (conditions : List Condition) (bound : List Parameter) :
    FailsOnly BuildError.OfName (conditionTexts conditions bound) := by
  induction conditions generalizing bound with
  | nil => exact .pure _
  | cons condition rest ih =>
      exact (condition.sql_failsOnly bound).bind fun _ => (ih _).bind fun _ => .pure _

theorem tableSql_failsOnly (schema : Option String) (table : String) :
    FailsOnly BuildError.OfName (tableSql schema table) := by
  refine (identifier_failsOnly _).bind fun _ => ?_
  cases schema with
  | none => exact .pure _
  | some name => exact (identifier_failsOnly _).bind fun _ => .pure _

theorem Join.sql_failsOnly (schema : Option String) (join : Join) :
    FailsOnly BuildError.OfName (join.sql schema) :=
  (tableSql_failsOnly _ _).bind fun _ => (identifier_failsOnly _).bind fun _ =>
    (identifier_failsOnly _).bind fun _ => (columnSql_failsOnly _).bind fun _ => .pure _

end Writers

namespace Select

variable {select : Select}

theorem fromSql_failsOnly (select : Select) : FailsOnly BuildError.OfName select.fromSql :=
  (tableSql_failsOnly _ _).bind fun _ => (identifier_failsOnly _).bind fun _ =>
    (FailsOnly.mapM (Join.sql_failsOnly _) _).bind fun _ => .pure _

theorem whereSql_failsOnly (select : Select) (bound : List Parameter) :
    FailsOnly BuildError.OfName (select.whereSql bound) := by
  unfold whereSql
  cases select.conditions with
  | nil => exact .pure _
  | cons => exact (conditionTexts_failsOnly _ _).bind fun _ => .pure _

theorem orderSql_failsOnly (select : Select) : FailsOnly BuildError.OfName select.orderSql := by
  have key (key : SortKey) : FailsOnly BuildError.OfName key.sql :=
    (columnSql_failsOnly _).bind fun _ => .pure _
  refine (FailsOnly.mapM key _).bind fun texts => ?_
  cases texts <;> exact .pure _

/-- A fault that is about no name is found before anything is written. -/
theorem statement_eq_error_iff {fault : BuildError} (other : ¬fault.OfName) :
    select.statement = .error fault ↔ select.validate = .error fault := by
  refine FailsOnly.bind_eq_error_iff (fun _ => ?_) other
  refine (identifier_failsOnly _).bind fun _ => (fromSql_failsOnly select).bind fun _ => ?_
  exact (whereSql_failsOnly select _).bind fun _ => (orderSql_failsOnly select).bind fun _ => .pure _

/-- What is checked before anything is written is not names. -/
theorem validate_failsOnly (select : Select) :
    FailsOnly (fun fault => ¬fault.OfName) select.validate := by
  intro fault failure ofName
  cases ofName with
  | invalidIdentifier name =>
      unfold validate at failure
      split at failure
      · cases failure
      split at failure
      · cases failure
      split at failure <;> cases failure

/-- A selection that is not too large lacks a relation when one of its columns belongs to none of
its relations. -/
theorem exists_unknownRelation_iff (conditions : select.conditions.length ≤ maxConditions)
    (joins : select.joins.length ≤ maxJoins) :
    (∃ name, select.statement = .error (.unknownRelation name)) ↔
      ∃ column ∈ select.referencedColumns, column.relation ∉ select.relations := by
  have other (name : String) : ¬(BuildError.unknownRelation name).OfName := by
    intro ofName
    cases ofName
  have found : (∃ column ∈ select.referencedColumns, column.relation ∉ select.relations) ↔
      (select.referencedColumns.find? fun column =>
        !select.isAddressable column.relation).isSome = true := by
    simp only [List.find?_isSome, isAddressable, Bool.not_eq_true', decide_eq_false_iff_not]
  simp only [statement_eq_error_iff (other _), found]
  unfold validate
  rw [if_neg (Nat.not_lt.mpr conditions), if_neg (Nat.not_lt.mpr joins)]
  cases select.referencedColumns.find? fun column => !select.isAddressable column.relation with
  | none => simp only [reduceCtorEq, exists_false, Option.isSome_none, Bool.false_eq_true]
  | some column =>
      simp only [Except.error.injEq, BuildError.unknownRelation.injEq, exists_eq',
        Option.isSome_some]

end Select

end RequestFilter.Sql
