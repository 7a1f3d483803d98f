import Mathlib.Logic.Relation
import RequestFilter.Proofs.Sql.Isolation
import RequestFilter.Proofs.Sql.Joining
import RequestFilter.Proofs.Sql.Refusal

/-! # Names in selections

The operations of filters check the names of a column before they store it, and
resolvers store only the joins of their catalogs.  Where a selection and the
catalogs have identifiers for names, every operation that succeeds keeps it so
(`Select.Step.writable`), and so does every run of operations.  A selection with
such names is never refused for a name, and it can be written exactly when its
rows can be counted (`Select.statement_of_reached`).

Applying a table to a request is such a run (`Table.reached_of_apply`).
-/

namespace RequestFilter

open Sql Outcome

namespace Sql

section Checks

theorem isIdentifier_of_checkIdentifier {name : String} {checked : Unit}
    (success : checkIdentifier name = .ok checked) : IsIdentifier name := by
  unfold checkIdentifier at success
  by_cases valid : IsIdentifier name
  · exact valid
  · rw [if_neg valid] at success
    cases success

theorem isColumn_of_checkedColumn {column checked : Column}
    (success : checkedColumn column = .ok checked) : IsColumn checked := by
  obtain rfl := eq_of_checkedColumn success
  unfold checkedColumn at success
  simp only [bind_eq_ok_iff] at success
  obtain ⟨_, relation, _, field, _⟩ := success
  exact ⟨isIdentifier_of_checkIdentifier relation, isIdentifier_of_checkIdentifier field⟩

end Checks

/-- All names of the joins of a catalog are identifiers. -/
def Catalog.Writable (catalog : Catalog) : Prop :=
  ∀ join ∈ catalog.joins, join.Writable none

instance (catalog : Catalog) : Decidable catalog.Writable :=
  inferInstanceAs (Decidable (∀ join ∈ catalog.joins, join.Writable none))

namespace Select

/-- What an operation of a filter that succeeds, or a call of a resolver, makes of a selection. -/
inductive Step (select : Select) : Select → Prop
  | restrict (restriction : Restriction) (column : Column) {next : Select}
      (success : restriction.apply select column = .ok next) : Step select next
  | orderBy (direction : Direction) (column : Column) {next : Select}
      (success : Filterable.orderBy select direction column = .ok next) : Step select next
  | limit (count : Count) {next : Select}
      (success : Filterable.limit select count = .ok next) : Step select next
  | offset (count : Count) {next : Select}
      (success : Filterable.offset select count = .ok next) : Step select next
  | identity (name : String) : Step select (Resolver.identity Select select name)
  | joinOnce {catalog : Catalog} (writable : catalog.Writable) (name : String) :
      Step select (catalog.resolver select name)
  | joinAlways {catalog : Catalog} (writable : catalog.Writable) (name : String) :
      Step select (catalog.resolve select name)

namespace Writable

variable {select next : Select} (writable : select.Writable)

include writable

theorem addCondition {condition : Condition} (column : IsColumn condition.column) :
    (select.addCondition condition).Writable := by
  refine { writable with conditions := List.forall_mem_append.mpr ⟨writable.conditions, ?_⟩ }
  exact List.forall_mem_singleton.mpr column

theorem addSortKey {column : Column} (valid : IsColumn column) (direction : Direction) :
    (select.addSortKey direction column).Writable := by
  refine { writable with sort := List.forall_mem_append.mpr ⟨writable.sort, ?_⟩ }
  exact List.forall_mem_singleton.mpr valid

theorem addJoin {join : Join} (valid : join.Writable none) : (select.addJoin join).Writable := by
  refine { writable with joins := List.forall_mem_append.mpr ⟨writable.joins, ?_⟩ }
  rw [List.forall_mem_singleton]
  -- The schema of a selection is that of all its joins.
  exact { valid with table := ⟨valid.table.1, writable.table.2⟩ }

theorem restrict {restriction : Restriction} {column : Column}
    (success : restriction.apply select column = .ok next) : next.Writable := by
  rw [restriction.apply_eq_condition] at success
  obtain ⟨added, found, rfl⟩ := map_eq_ok_iff.mp success
  obtain ⟨checked, checking, made⟩ := bind_eq_ok_iff.mp found
  have same : added.column = checked :=
    congrArg Prod.fst (Restriction.outline_of_condition made)
  apply writable.addCondition
  rw [same]
  exact isColumn_of_checkedColumn checking

theorem orderBy {direction : Direction} {column : Column}
    (success : Filterable.orderBy select direction column = .ok next) : next.Writable := by
  obtain ⟨checked, checking, same⟩ := bind_eq_ok_iff.mp success
  cases same
  exact writable.addSortKey (isColumn_of_checkedColumn checking) direction

theorem joinAlways {catalog : Catalog} (valid : catalog.Writable) (name : String) :
    (catalog.resolve select name).Writable := by
  unfold Catalog.resolve
  cases found : catalog.get? name with
  | none => exact writable
  | some join => exact writable.addJoin (valid join (List.mem_of_find?_eq_some found))

theorem joinOnce {catalog : Catalog} (valid : catalog.Writable) (name : String) :
    (catalog.resolver select name).Writable := by
  unfold Catalog.resolver Resolver.joinOnce
  by_cases present : Filterable.hasRelation select name = true
  · rwa [if_pos present]
  · rw [if_neg present]
    exact writable.joinAlways valid name

/-- A selection whose names are identifiers is refused for other reasons only. -/
theorem statement_eq :
    select.statement =
      select.validate.map fun _ => ⟨select.text, select.parameters⟩ := by
  cases valid : select.validate with
  | ok =>
      exact statement_eq_ok_iff.mpr ⟨valid, writable, rfl⟩
  | error fault =>
      unfold Select.statement
      rw [valid]
      rfl

theorem fromSql_eq : select.fromSql = .ok select.fromText :=
  fromSql_eq_ok_iff.mpr ⟨⟨writable.table, writable.relation, writable.joins⟩, rfl⟩

theorem whereSql_eq : select.whereSql [] = .ok (select.whereText, select.parameters) :=
  whereSql_eq_ok_iff.mpr ⟨writable.conditions, rfl⟩

/-- Its rows are counted by its tables and conditions, or not for the same reasons. -/
theorem countStatement_eq :
    select.countStatement =
      select.validate.map fun _ =>
        ⟨"SELECT COUNT(*) AS total FROM " ++ select.fromText ++ select.whereText,
          select.parameters⟩ := by
  unfold Select.countStatement
  rw [writable.fromSql_eq, writable.whereSql_eq]
  cases select.validate <;> rfl

end Writable

variable {start select next : Select}

/-- An operation that succeeds keeps to identifiers. -/
theorem Step.writable (step : select.Step next) (writable : select.Writable) : next.Writable := by
  cases step with
  | restrict restriction column success => exact writable.restrict success
  | orderBy direction column success => exact writable.orderBy success
  | limit count success =>
      cases success
      exact { writable with }
  | offset count success =>
      cases success
      exact { writable with }
  | identity name => exact writable
  | joinOnce valid name => exact writable.joinOnce valid name
  | joinAlways valid name => exact writable.joinAlways valid name

/-- Operations that succeed one after the other keep to identifiers. -/
theorem writable_of_reached (writable : start.Writable)
    (reached : Relation.ReflTransGen Step start select) : select.Writable := by
  induction reached with
  | refl => exact writable
  | tail _ step ih => exact step.writable ih

/-- A selection is written and counted with the same tables, conditions and values, or refused in
both cases for the same fault. -/
inductive CountedAsWritten (select : Select) : Prop
  | written {tables conditions : String} (hasTables : select.fromSql = .ok tables)
      (hasConditions : select.whereSql [] = .ok (conditions, select.parameters))
      (statement : select.statement = .ok ⟨"SELECT " ++ quoted select.relation ++ ".* FROM " ++
        tables ++ conditions ++ select.orderText ++ select.pageSql, select.parameters⟩)
      (countStatement : select.countStatement =
        .ok ⟨"SELECT COUNT(*) AS total FROM " ++ tables ++ conditions, select.parameters⟩) :
      CountedAsWritten select
  | refused {fault : BuildError} (statement : select.statement = .error fault)
      (countStatement : select.countStatement = .error fault) : CountedAsWritten select

/-- **Names are checked as they come.**  Let a selection be reached from one whose names are
identifiers by operations of filters that succeed and by resolvers whose joins have identifiers for
names.  Writing it never fails for a name.  It is written and counted with the same tables,
conditions and values, or refused in both cases for the same fault. -/
theorem statement_of_reached (writable : start.Writable)
    (reached : Relation.ReflTransGen Step start select) :
    (∀ name, select.statement ≠ .error (.invalidIdentifier name)) ∧ select.CountedAsWritten := by
  have writable := writable_of_reached writable reached
  have statement := writable.statement_eq
  have countStatement := writable.countStatement_eq
  cases validity : select.validate with
  | ok =>
      rw [validity] at statement countStatement
      refine ⟨fun name failure => ?_, .written writable.fromSql_eq writable.whereSql_eq statement
        countStatement⟩
      rw [statement] at failure
      cases failure
  | error fault =>
      rw [validity] at statement countStatement
      refine ⟨fun name failure => ?_, .refused statement countStatement⟩
      rw [statement] at failure
      cases failure
      exact validate_failsOnly select _ validity (.invalidIdentifier name)

/-- People joined with their roles and restricted to a role, sorted by its rank. -/
theorem statement_of_reached_roles :
    ∃ select : Select, (ofTable "people").Writable ∧
      Relation.ReflTransGen Step (ofTable "people") select ∧
        select.relations = ["people", "role"] ∧ select.sort ≠ [] ∧
        (∀ name, select.statement ≠ .error (.invalidIdentifier name)) ∧
          select.CountedAsWritten := by
  have writable : (ofTable "people").Writable := by decide
  have roles : Catalog.roles.Writable := by decide
  have joined := Relation.ReflTransGen.single
    (Step.joinOnce roles "role" : Step (ofTable "people") _)
  have restricted := joined.tail (.restrict (.equal (.text "reader")) ⟨"role", "name"⟩ rfl)
  have reached := restricted.tail (.orderBy .desc ⟨"role", "rank"⟩ rfl)
  exact ⟨_, writable, reached, rfl, by decide, statement_of_reached writable reached⟩

end Select

end Sql

section Requests

open Relation (ReflTransGen)

/-- Where each step is a run, so are the steps for a list. -/
theorem reached_of_foldlM {State Item Fault : Type} {Step : State → State → Prop}
    {step : State → Item → Except Fault State}
    (each : ∀ state item next, step state item = .ok next → ReflTransGen Step state next)
    {items : List Item} {start result : State} (success : items.foldlM step start = .ok result) :
    ReflTransGen Step start result := by
  induction items generalizing start with
  | nil =>
      cases success
      exact .refl
  | cons item rest ih =>
      rw [List.foldlM_cons] at success
      obtain ⟨next, first, others⟩ := bind_eq_ok_iff.mp success
      exact (each start item next first).trans (ih others)

theorem Definitions.exists_of_assignCount {assign : Select → Count → Except BuildError Select}
    {select next : Select} {key : Key} {value : Value}
    (success : assignCount assign select key value = .ok next) :
    ∃ count, assign select count = .ok next := by
  unfold assignCount at success
  cases counts : value.count? with
  | none =>
      rw [counts] at success
      cases success
  | some count =>
      rw [counts] at success
      exact ⟨count, mapError_eq_ok_iff.mp success⟩

variable {definitions : Definitions} {relation : String} {resolver : Resolver Select}
  (resolves : ∀ select name, Select.Step select (resolver select name))

include resolves

/-- Carrying out a filter calls the resolver and then one operation, for each of its columns. -/
theorem Definitions.reached_of_carryOut {reading : Reading} {select next : Select} {key : Key}
    {value : Value}
    (success : definitions.carryOut relation resolver reading select key value = .ok next) :
    ReflTransGen Select.Step select next := by
  cases reading with
  | toggle which =>
      cases which with
      | limit =>
          obtain ⟨count, assigned⟩ := exists_of_assignCount success
          exact .single (.limit count assigned)
      | offset =>
          obtain ⟨count, assigned⟩ := exists_of_assignCount success
          exact .single (.offset count assigned)
      | orderBy =>
          refine reached_of_foldlM (fun select item next success => ?_) success
          unfold sortBy at success
          cases named : definitions.sortTarget? relation item with
          | none =>
              rw [named] at success
              cases success
          | some target =>
              rw [named] at success
              exact (ReflTransGen.single (resolves select target.2.relation)).tail
                (.orderBy target.1 target.2 (mapError_eq_ok_iff.mp success))
  | entry kind chosen =>
      simp only [carryOut, Restriction.carryOut] at success
      cases asked : kind.restriction value with
      | error fault =>
          rw [asked] at success
          cases success
      | ok restriction =>
          rw [asked] at success
          exact (ReflTransGen.single (resolves select (chosen.target relation).relation)).tail
            (.restrict restriction (chosen.target relation) (mapError_eq_ok_iff.mp success))

/-- Applying a table to a request is a run of operations and calls of its resolver. -/
theorem Table.reached_of_apply {table : Table Select BuildError}
    (compiled : Table.compile definitions relation resolver = .ok table) {start result : Select}
    {request : Request} (success : table.apply start request = .ok result) :
    ReflTransGen Select.Step start result := by
  unfold Table.apply Table.applyWith dispatch at success
  rw [List.nil_append, dispatchEntries_eq_foldlM compiled] at success
  refine reached_of_foldlM (fun select entry next success => ?_) success
  unfold Definitions.interpretEntry at success
  cases reads : definitions.reading? entry.1 entry.2 with
  | none =>
      rw [reads] at success
      cases success
  | some reading =>
      rw [reads] at success
      exact Definitions.reached_of_carryOut resolves success

end Requests

end RequestFilter
