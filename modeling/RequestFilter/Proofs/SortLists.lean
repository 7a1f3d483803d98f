import RequestFilter.Proofs.ListDispatch

/-! # Sorting and filtering by the same names

A name in a sort list stands for the column that the equality filter with this
key restricts, and for a field of the default relation when there is no such
filter.  The rules for equality look their entries up one by one, while sorting
takes the last entry with a key; the two agree because definitions that compile
have no key twice (`Table.sortsAsItFilters_of_compile`).
-/

namespace RequestFilter

open Outcome

/-- The direction and the column that an element of a sort list asks for, when names stand for
columns. -/
inductive Value.AsksOrder (columnOf : String → Column) : Value → Direction × Column → Prop
  | text (name : String) : AsksOrder columnOf (.text name) (.asc, columnOf name)
  | field (name : String) : AsksOrder columnOf (.order (.field name)) (.asc, columnOf name)
  | directed (direction : Direction) (name : String) :
      AsksOrder columnOf (.order (.directed direction name)) (direction, columnOf name)
  | qualified (direction : Direction) (relation field : String) :
      AsksOrder columnOf (.order (.qualified direction relation field))
        (direction, ⟨relation, field⟩)

namespace Definitions

variable {definitions : Definitions} {relation : String}

theorem namedColumn_key (distinct : definitions.DistinctKeys) {entry : Entry}
    (member : entry ∈ definitions.equalTo) :
    definitions.namedColumn relation entry.key = entry.target relation := by
  have found : definitions.equalTo.find? (fun other => other.key = entry.key) = some entry :=
    (Entry.find?_eq_some_iff (distinct (.field .equalTo)) _ _).mpr ⟨member, rfl⟩
  unfold namedColumn
  rw [found]

theorem namedColumn_of_absent {name : String}
    (absent : ∀ entry ∈ definitions.equalTo, entry.key ≠ name) :
    definitions.namedColumn relation name = ⟨relation, name⟩ := by
  have missing : definitions.equalTo.find? (fun entry => entry.key = name) = none :=
    List.find?_eq_none.mpr fun entry member => mt of_decide_eq_true (absent entry member)
  unfold namedColumn
  rw [missing]

theorem sortTarget?_eq_some_iff {item : Value} {target : Direction × Column} :
    definitions.sortTarget? relation item = some target ↔
      item.AsksOrder (definitions.namedColumn relation) target := by
  constructor
  · intro found
    cases item with
    | text name =>
        cases found
        exact .text name
    | order directive =>
        cases directive with
        | field name =>
            cases found
            exact .field name
        | directed direction name =>
            cases found
            exact .directed direction name
        | qualified direction relation field =>
            cases found
            exact .qualified direction relation field
    | _ => cases found
  · intro asks
    cases asks <;> rfl

theorem sortTarget?_eq_none_iff {item : Value} :
    definitions.sortTarget? relation item = none ↔
      (∀ name, item ≠ .text name) ∧ ∀ directive, item ≠ .order directive := by
  constructor
  · intro missing
    constructor
    · rintro name rfl
      cases missing
    · rintro directive rfl
      cases directive <;> cases missing
  · rintro ⟨notText, notOrder⟩
    cases item with
    | text name => exact absurd rfl (notText name)
    | order directive => exact absurd rfl (notOrder directive)
    | _ => rfl

end Definitions

section Rules

variable {Query Fault : Type} [Filterable Query Fault]

/-- Sorts by a column in a direction once the relation of the column is resolved. -/
def Resolver.sort (resolver : Resolver Query) (query : Query) (target : Direction × Column) :
    Except Fault Query :=
  Filterable.orderBy (resolver query target.2.relation) target.1 target.2

/-- The faults that an element of a sort list under a key has in a query. -/
inductive Value.FailsToSort (columnOf : String → Column) (resolver : Resolver Query) (key : Key)
    (query : Query) (item : Value) : DispatchError Fault → Prop
  | notDirective (notText : ∀ name, item ≠ .text name)
      (notOrder : ∀ directive, item ≠ .order directive) :
      FailsToSort columnOf resolver key query item (.invalidDirective key (.notDirective item))
  | refused {target : Direction × Column} {cause : Fault} (asks : item.AsksOrder columnOf target)
      (refuses : resolver.sort query target = .error cause) :
      FailsToSort columnOf resolver key query item (.query cause)

/-- A rule sorts by the elements of a list in order, as far as they can be sorted by. -/
structure Rule.SortsBy (rule : Rule Query Fault) (columnOf : String → Column)
    (resolver : Resolver Query) : Prop where
  /-- A list succeeds when each element asks for a column and sorting by one after the other does. -/
  succeeds_iff : ∀ query key items result, rule.run query key (.list items) = .ok result ↔
    ∃ targets, List.Forall₂ (Value.AsksOrder columnOf) items targets ∧
      targets.foldlM resolver.sort query = .ok result
  /-- A list fails at its first element that does, in the query that the others lead to. -/
  fails_iff : ∀ query key items fault, rule.run query key (.list items) = .error fault ↔
    ∃ before item after middle, items = before ++ item :: after ∧
      rule.run query key (.list before) = .ok middle ∧
      item.FailsToSort columnOf resolver key middle fault

/-- A rule restricts a column to a scalar once the relation of the column is resolved, and refuses
all else. -/
def Rule.Equates (rule : Rule Query Fault) (column : Column) (resolver : Resolver Query) : Prop :=
  ∀ query key value, rule.run query key value =
    if value.isScalar then
      (Filterable.whereEqual (resolver query column.relation) column value).mapError .query
    else .error (.invalidValue key .notScalar)

namespace Definitions

variable {definitions : Definitions} {relation : String} {resolver : Resolver Query} {key : Key}
  {query : Query} {item : Value}

theorem sortBy_eq_ok_iff {result : Query} :
    definitions.sortBy relation resolver key query item = .ok result ↔
      ∃ target, item.AsksOrder (definitions.namedColumn relation) target ∧
        resolver.sort query target = .ok result := by
  simp only [← sortTarget?_eq_some_iff]
  unfold sortBy
  cases definitions.sortTarget? relation item with
  | none => simp only [reduceCtorEq, false_and, exists_false]
  | some target =>
      simp only [mapError_eq_ok_iff, Option.some.injEq, exists_eq_left']
      rfl

theorem sortBy_eq_error_iff {fault : DispatchError Fault} :
    definitions.sortBy relation resolver key query item = .error fault ↔
      item.FailsToSort (definitions.namedColumn relation) resolver key query fault := by
  constructor
  · intro failure
    unfold sortBy at failure
    split at failure
    · rename_i found
      obtain ⟨cause, refuses, rfl⟩ := mapError_eq_error_iff.mp failure
      exact .refused (sortTarget?_eq_some_iff.mp found) refuses
    · rename_i missing
      cases failure
      obtain ⟨notText, notOrder⟩ := sortTarget?_eq_none_iff.mp missing
      exact .notDirective notText notOrder
  · intro fails
    unfold sortBy
    cases fails with
    | notDirective notText notOrder => rw [sortTarget?_eq_none_iff.mpr ⟨notText, notOrder⟩]
    | refused asks refuses =>
        rw [sortTarget?_eq_some_iff.mpr asks]
        exact mapError_eq_error_iff.mpr ⟨_, refuses, rfl⟩

end Definitions

variable {definitions : Definitions} {relation : String} {resolver : Resolver Query}
  {policy : KeyPolicy}

theorem sortsBy_toggleRule (distinct : definitions.DistinctKeys) :
    (toggleRule policy (definitions.sortColumn relation) resolver .orderBy).SortsBy
      (definitions.namedColumn relation) resolver := by
  have run_eq (query : Query) (key : Key) (items : List Value) :
      (toggleRule policy (definitions.sortColumn relation) resolver .orderBy).run query key
          (.list items) =
        items.foldlM (definitions.sortBy relation resolver key) query :=
    Reading.run_rule distinct (.toggle .orderBy) query key (.list items)
  constructor
  · intro query key items result
    rw [run_eq]
    exact foldlM_eq_ok_iff_forall₂ fun _ _ _ => Definitions.sortBy_eq_ok_iff
  · intro query key items fault
    simp only [run_eq, foldlM_eq_error_iff, Definitions.sortBy_eq_error_iff]

theorem equates_fieldRule (entry : Entry) :
    (fieldRule policy relation resolver .equalTo entry).Equates (entry.target relation)
      resolver := by
  intro query key value
  refine (restrict_eq _ _ key value .equalTo).trans ?_
  by_cases scalar : value.isScalar = true
  · simp only [FieldKind.restriction, Restriction.ofScalar, scalar, ↓reduceIte]
    rfl
  · simp only [FieldKind.restriction, Restriction.ofScalar, scalar, Bool.false_eq_true, ↓reduceIte]
    rfl

/-- The rules made for a kind are those of the kind among all rules. -/
theorem mem_rulesOfKind_iff {kind : Kind} {rule : Rule Query Fault} :
    rule ∈ rulesOfKind policy definitions relation resolver kind ↔
      rule ∈ Kind.dispatchOrder.flatMap (rulesOfKind policy definitions relation resolver) ∧
        rule.kind = some kind := by
  rw [← filter_rules kind, List.mem_filter, decide_eq_true_eq]

end Rules

section Tables

variable {Query Fault : Type} [Filterable Query Fault]

/-- The columns that a table sorts by under names are those that it filters by under them. -/
structure Table.SortsAsItFilters (table : Table Query Fault) (definitions : Definitions)
    (relation : String) (resolver : Resolver Query) (columnOf : String → Column) : Prop where
  /-- The key of an entry for equality stands for the column of the entry. -/
  keys : ∀ entry ∈ definitions.equalTo, columnOf entry.key = entry.target relation
  /-- Any other name stands for a field of the default relation. -/
  fields : ∀ name, (∀ entry ∈ definitions.equalTo, entry.key ≠ name) →
    columnOf name = ⟨relation, name⟩
  /-- The one rule for equality under a key restricts the column that the key stands for. -/
  filters : ∀ entry ∈ definitions.equalTo, ∃ rule,
    (∀ other, other ∈ table.rules ∧ other.kind = some (.field .equalTo) ∧
      other.name? = some entry.key ↔ other = rule) ∧
    rule.Equates (columnOf entry.key) resolver
  /-- The one rule for sorting takes all lists under its reserved name and sorts by the columns that
  names stand for. -/
  sorts : ∃ rule,
    (∀ other, other ∈ table.rules ∧ other.kind = some (.toggle .orderBy) ↔ other = rule) ∧
    (∀ key items, definitions.acceptsForm key = true → key.name = Toggle.orderBy.name →
      table.rules.find? (fun rule => rule.accepts key (.list items)) = some rule) ∧
    rule.SortsBy columnOf resolver

variable {definitions : Definitions} {relation : String} {resolver : Resolver Query}
  {table : Table Query Fault}
  (compiled : Table.compile definitions relation resolver = .ok table)

include compiled

/-- A configured name of a kind has one rule of the kind. -/
theorem Table.exists_sole_rule {kind : Kind} {name : String}
    (configured : name ∈ definitions.names kind) :
    ∃ rule, ∀ other, other ∈ table.rules ∧ other.kind = some kind ∧ other.name? = some name ↔
      other = rule := by
  obtain ⟨rule, member, ofKind, named⟩ := (Table.mem_names_iff compiled).mp configured
  refine ⟨rule, fun other => ⟨?_, ?_⟩⟩
  · rintro ⟨inside, sameKind, sameName⟩
    exact Table.eq_of_kind_of_name compiled inside member (sameKind.trans ofKind.symm)
      (sameName.trans named.symm)
  · rintro rfl
    exact ⟨member, ofKind, named⟩

theorem Table.exists_sole_rule_equates {entry : Entry} (member : entry ∈ definitions.equalTo) :
    ∃ rule,
      (∀ other, other ∈ table.rules ∧ other.kind = some (.field .equalTo) ∧
        other.name? = some entry.key ↔ other = rule) ∧
      rule.Equates (entry.target relation) resolver := by
  have configured : entry.key ∈ definitions.names (.field .equalTo) := List.mem_map_of_mem member
  obtain ⟨rule, only⟩ := Table.exists_sole_rule compiled configured
  refine ⟨rule, only, ?_⟩
  obtain ⟨policy, -, -, rfl⟩ := Table.compile_eq_ok_iff.mp compiled
  have made : fieldRule policy relation resolver .equalTo entry ∈
      rulesOfKind policy definitions relation resolver (.field .equalTo) := List.mem_map_of_mem member
  obtain ⟨inside, ofKind⟩ := mem_rulesOfKind_iff.mp made
  rw [← (only _).mp ⟨inside, ofKind, Rule.name?_eq rfl⟩]
  exact equates_fieldRule entry

theorem Table.exists_sole_rule_sortsBy (on : definitions.isOn .orderBy = true) :
    ∃ rule,
      (∀ other, other ∈ table.rules ∧ other.kind = some (.toggle .orderBy) ↔ other = rule) ∧
      (∀ key items, definitions.acceptsForm key = true → key.name = Toggle.orderBy.name →
        table.rules.find? (fun rule => rule.accepts key (.list items)) = some rule) ∧
      rule.SortsBy (definitions.namedColumn relation) resolver := by
  have reserved : Toggle.orderBy.name ∈ definitions.names (.toggle .orderBy) := by
    rw [Definitions.names, if_pos on]
    exact List.mem_singleton_self _
  have taken {key : Key} (form : definitions.acceptsForm key = true) (items : List Value)
      (named : key.name = Toggle.orderBy.name) :=
    Table.exists_rule_of_reserved compiled form items (named ▸ reserved)
  obtain ⟨policy, -, distinct, rfl⟩ := Table.compile_eq_ok_iff.mp compiled
  have only (other : Rule Query Fault) :
      other ∈ Kind.dispatchOrder.flatMap (rulesOfKind policy definitions relation resolver) ∧
          other.kind = some (.toggle .orderBy) ↔
        other = toggleRule policy (definitions.sortColumn relation) resolver .orderBy := by
    rw [← mem_rulesOfKind_iff, rulesOfKind, if_pos on, List.mem_singleton]
  refine ⟨_, only, fun key items form named => ?_, sortsBy_toggleRule distinct⟩
  obtain ⟨rule, search, ofKind⟩ := taken form items named
  rw [search, (only rule).mp ⟨List.mem_of_find?_eq_some search, ofKind⟩]

/-- **Sorting and filtering agree on names.**  Where definitions compile with sorting switched on,
a name in a sort list stands for the column that the rule for equality under this key restricts, the
same relation resolved first, and for a field of the default relation when there is no such rule.
The rule for sorting sorts by the elements of a list in order, up to the first that names no column
or that the query refuses. -/
theorem Table.sortsAsItFilters_of_compile (on : definitions.isOn .orderBy = true) :
    ∃ columnOf, table.SortsAsItFilters definitions relation resolver columnOf := by
  obtain ⟨-, -, distinct, -⟩ := Table.compile_eq_ok_iff.mp compiled
  refine ⟨definitions.namedColumn relation, fun entry => Definitions.namedColumn_key distinct,
    fun name => Definitions.namedColumn_of_absent, fun entry member => ?_,
    Table.exists_sole_rule_sortsBy compiled on⟩
  rw [Definitions.namedColumn_key distinct member]
  exact Table.exists_sole_rule_equates compiled member

end Tables

/-- Members by a role, a name and an address, each entry of another shape. -/
def Definitions.members : Definitions where
  atomKeys := true
  orderBy := true
  equalTo := [.qualified "role" "role" "title", .aliased "name" "full_name", .bare "address"]

theorem Table.sortsAsItFilters_of_compile_members :
    ∃ table : Table Recorder Recorder.Rejected,
      Table.compile .members "users" (Resolver.joinOnce Recorder.join) = .ok table ∧
        Definitions.members.isOn .orderBy = true ∧
        ∃ columnOf, table.SortsAsItFilters .members "users" (Resolver.joinOnce Recorder.join)
          columnOf :=
  ⟨_, rfl, rfl, Table.sortsAsItFilters_of_compile rfl rfl⟩

end RequestFilter
