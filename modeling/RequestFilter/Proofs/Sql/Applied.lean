import RequestFilter.Proofs.PatternTexts
import RequestFilter.Proofs.Sql.Binding
import RequestFilter.Proofs.Sql.Isolation
import RequestFilter.Proofs.Sql.Matching
import RequestFilter.Proofs.Sql.Scoping

/-! # What a request makes of a selection

A request that is applied says, filter by filter, what becomes of the selection.
A filter that its table takes for a kind that restricts a column adds the one
condition that the kind asks of the column (`FieldKind.Asks`), a sort list adds a
key for each of its elements, and a number of rows replaces the one before
(`Table.StandsFor`).  Nothing else happens but joins, so all parts of the result
can be read off the request (`Table.applied_of_apply`).
-/

namespace RequestFilter

open Sql Outcome

/-- The condition that a kind of filter asks of a column for a value.  What is bound stands for the
value, or for the items of its list, and a pattern has the escaped text that the value shows. -/
inductive FieldKind.Asks (column : Column) : FieldKind → Value → Condition → Prop
  | equalTo {value : Value} {bound : Parameter} (scalar : ∀ items, value ≠ .list items)
      (binds : bound.toValue = value) : Asks column .equalTo value (.compare column .equal bound)
  | equalToAny {items : List Value} {bounds : List Parameter}
      (binds : Parameter.toValues bounds = items) :
      Asks column .equalToAny (.list items) (.anyOf column (.array bounds))
  | smallerThan {value : Value} {bound : Parameter} (scalar : ∀ items, value ≠ .list items)
      (binds : bound.toValue = value) : Asks column .smallerThan value (.compare column .less bound)
  | greaterOrEqual {value : Value} {bound : Parameter} (scalar : ∀ items, value ≠ .list items)
      (binds : bound.toValue = value) :
      Asks column .greaterOrEqual value (.compare column .greaterOrEqual bound)
  | startsWith {value : Value} {text : String} (shown : value.ShownAs text) :
      Asks column .startsWith value (.like column (escaped text ++ "%"))
  | contains {value : Value} {text : String} (shown : value.ShownAs text) :
      Asks column .contains value (.like column ("%" ++ escaped text ++ "%"))
  | listContains {value : Value} {bound : Parameter} (scalar : ∀ items, value ≠ .list items)
      (binds : bound.toValue = value) :
      Asks column .listContains value (.array column .contains (.array [bound]))
  | listContainsAny {items : List Value} {bounds : List Parameter}
      (binds : Parameter.toValues bounds = items) :
      Asks column .listContainsAny (.list items) (.array column .overlaps (.array bounds))
  | listContainsAll {items : List Value} {bounds : List Parameter}
      (binds : Parameter.toValues bounds = items) :
      Asks column .listContainsAll (.list items) (.array column .contains (.array bounds))

theorem FieldKind.Asks.column_eq {kind : FieldKind} {column : Column} {value : Value}
    {condition : Condition} (asks : kind.Asks column value condition) :
    condition.column = column := by
  cases asks <;> rfl

theorem Value.exists_items_of_isList {value : Value} (list : value.isList = true) :
    ∃ items, value = .list items := by
  cases value with
  | list items => exact ⟨items, rfl⟩
  | _ => cases list

theorem Value.ne_list_of_isScalar {value : Value} (scalar : value.isScalar = true) :
    ∀ items, value ≠ .list items := by
  rintro items rfl
  cases scalar

/-- The condition that a filter leads to is the one that its kind asks for. -/
theorem FieldKind.asks_of_condition {kind : FieldKind} {column : Column} {value : Value}
    {restriction : Restriction} {condition : Condition}
    (asked : kind.restriction value = .ok restriction)
    (made : restriction.condition column = .ok condition) : kind.Asks column value condition := by
  -- A scalar is bound as it is.
  have scalarBound {form : Parameter → Condition}
      (made : (Parameter.ofValue value).map form = .ok condition) :
      ∃ bound, bound.toValue = value ∧ condition = form bound := by
    obtain ⟨bound, binds, rfl⟩ := map_eq_ok_iff.mp made
    exact ⟨bound, Parameter.toValue_of_ofValue binds, rfl⟩
  -- A list of parameters is bound as one array.
  have itemsBound {items : List Value} {form : Parameter → Condition}
      (made : (Parameter.ofList items).map form = .ok condition) :
      ∃ bounds, Parameter.toValues bounds = items ∧ condition = form (.array bounds) := by
    obtain ⟨_, bound, rfl⟩ := map_eq_ok_iff.mp made
    obtain ⟨bounds, binds, rfl⟩ := map_eq_ok_iff.mp bound
    exact ⟨bounds, Parameter.toValues_of_ofItems binds, rfl⟩
  cases kind with
  | equalTo =>
      obtain ⟨scalar, rfl⟩ := Restriction.ofScalar_eq_ok_iff.mp asked
      obtain ⟨_, binds, rfl⟩ := scalarBound made
      exact .equalTo (Value.ne_list_of_isScalar scalar) binds
  | smallerThan =>
      obtain ⟨scalar, rfl⟩ := Restriction.ofScalar_eq_ok_iff.mp asked
      obtain ⟨_, binds, rfl⟩ := scalarBound made
      exact .smallerThan (Value.ne_list_of_isScalar scalar) binds
  | greaterOrEqual =>
      obtain ⟨scalar, rfl⟩ := Restriction.ofScalar_eq_ok_iff.mp asked
      obtain ⟨_, binds, rfl⟩ := scalarBound made
      exact .greaterOrEqual (Value.ne_list_of_isScalar scalar) binds
  | equalToAny =>
      obtain ⟨items, rfl, rfl⟩ := Restriction.ofItems_eq_ok_iff.mp asked
      obtain ⟨_, binds, rfl⟩ := itemsBound made
      exact .equalToAny binds
  | listContainsAny =>
      obtain ⟨items, rfl, rfl⟩ := Restriction.ofItems_eq_ok_iff.mp asked
      obtain ⟨_, binds, rfl⟩ := itemsBound made
      exact .listContainsAny binds
  | listContainsAll =>
      obtain ⟨items, rfl, rfl⟩ := Restriction.ofItems_eq_ok_iff.mp asked
      obtain ⟨_, binds, rfl⟩ := itemsBound made
      exact .listContainsAll binds
  | startsWith =>
      obtain ⟨text, shown, rfl⟩ := Restriction.ofText_eq_ok_iff.mp asked
      cases made
      rw [likePattern, likeLiteral_eq_escaped]
      exact .startsWith (Value.shownAs_of_patternText? shown)
  | contains =>
      obtain ⟨text, shown, rfl⟩ := Restriction.ofText_eq_ok_iff.mp asked
      cases made
      rw [likePattern, likeLiteral_eq_escaped]
      exact .contains (Value.shownAs_of_patternText? shown)
  | listContains =>
      rw [FieldKind.restriction, Restriction.ofScalar_eq_ok_iff] at asked
      obtain ⟨scalar, rfl⟩ := asked
      obtain ⟨values, binds, rfl⟩ := itemsBound made
      -- The array of a list of one value has one item.
      cases values with
      | nil => cases binds
      | cons bound others =>
          obtain ⟨first, rest⟩ := List.cons.inj binds
          cases others with
          | nil => exact .listContains (Value.ne_list_of_isScalar scalar) first
          | cons => cases rest

namespace Table

section Filters

variable {Query Fault : Type} (table : Table Query Fault)

/-- The filters that a table takes for a kind, in order. -/
def dispatched (filters : List (Key × Value)) (kind : Kind) : List (Key × Value) :=
  filters.filter fun filter => table.kindOf? filter.1 filter.2 = some kind

/-- The kind that restricts a column and for which a table takes a filter, beside the filter. -/
def restriction? (filter : Key × Value) : Option (FieldKind × Key × Value) :=
  match table.kindOf? filter.1 filter.2 with
  | some (.field kind) => some (kind, filter)
  | _ => none

/-- The filters that restrict columns, each with the kind that it is taken for, in order. -/
def restricting (filters : List (Key × Value)) : List (FieldKind × Key × Value) :=
  filters.filterMap table.restriction?

/-- The elements of all sort lists, in order. -/
def sortItems (filters : List (Key × Value)) : List Value :=
  (table.dispatched filters (.toggle .orderBy)).flatMap fun filter =>
    match filter.2 with
    | .list items => items
    | _ => []

/-- A condition is what an entry with the key of a filter asks of its column. -/
def Restricts (filter : FieldKind × Key × Value) (condition : Condition) : Prop :=
  ∃ entry ∈ table.definitions.fieldEntries filter.1, entry.key = filter.2.1.name ∧
    filter.1.Asks (entry.target table.relation) filter.2.2 condition

/-- A sort key has the direction and the column that an element of a sort list names. -/
def Sorts (item : Value) (key : SortKey) : Prop :=
  table.definitions.sortTarget? table.relation item = some (key.direction, key.column)

/-- A filter gives a number of rows: as an integer, or as a text that spells it. -/
inductive Counts (filter : Key × Value) (count : Count) : Prop
  | integer {value : Int64} (given : filter.2 = .integer value)
      (same : (count.toNat : Int) = value.toInt)
  | text {text : String} (given : filter.2 = .text text)
      (spells : Count.Spells text.toList count.toNat)

/-- The changes that a filter stands for, by the kind that the table takes it for. -/
inductive StandsFor (filter : Key × Value) : List Change → Prop
  | limit {count : Count} (taken : table.kindOf? filter.1 filter.2 = some (.toggle .limit))
      (counts : Counts filter count) : StandsFor filter [.limit count]
  | offset {count : Count} (taken : table.kindOf? filter.1 filter.2 = some (.toggle .offset))
      (counts : Counts filter count) : StandsFor filter [.offset count]
  | orderBy {items : List Value} {keys : List SortKey}
      (taken : table.kindOf? filter.1 filter.2 = some (.toggle .orderBy))
      (list : filter.2 = .list items) (sorts : List.Forall₂ table.Sorts items keys) :
      StandsFor filter (keys.map .sortKey)
  | restrict {kind : FieldKind} {condition : Condition}
      (taken : table.kindOf? filter.1 filter.2 = some (.field kind))
      (restricts : table.Restricts (kind, filter) condition) :
      StandsFor filter [.condition condition]

theorem counts_of_count? {filter : Key × Value} {count : Count}
    (counts : filter.2.count? = some count) : Counts filter count := by
  cases given : filter.2 with
  | integer value =>
      rw [given] at counts
      exact .integer given (Count.ofInt64?_eq_some_iff.mp counts).2
  | text text =>
      rw [given] at counts
      exact .text given (Count.ofText?_eq_some_iff.mp counts)
  | _ =>
      rw [given] at counts
      cases counts

end Filters

section Run

variable {definitions : Definitions} {relation : String} {resolver : Resolver Select}
  {table : Table Select BuildError}

theorem sorts_of_mapM {key : Key} {items : List Value} {changes : List Change}
    (success : items.mapM (definitions.sortChange relation key) = .ok changes) :
    ∃ keys, List.Forall₂ (fun item (key : SortKey) =>
        definitions.sortTarget? relation item = some (key.direction, key.column)) items keys ∧
      changes = keys.map .sortKey := by
  have each := forall₂_of_mapM success
  clear success
  induction each with
  | nil => exact ⟨[], .nil, rfl⟩
  | cons found _ ih =>
      obtain ⟨keys, sorts, rfl⟩ := ih
      obtain ⟨direction, column, names, rfl⟩ := Definitions.sortKey_of_sortChange found
      exact ⟨⟨direction, column⟩ :: keys, .cons names sorts, rfl⟩

/-- A filter that succeeds stands for the changes of the kind that it is taken for. -/
theorem standsFor_of_changes
    (compiled : Table.compile definitions relation resolver = .ok table) {filter : Key × Value}
    {changes : List Change}
    (success : definitions.changes relation filter.1 filter.2 = .ok changes) :
    table.StandsFor filter changes := by
  have taken := Table.kindOf?_eq_kind compiled filter.1 filter.2
  obtain ⟨policy, -, -, rfl⟩ := Table.compile_eq_ok_iff.mp compiled
  unfold Definitions.changes at success
  cases reads : definitions.reading? filter.1 filter.2 with
  | none =>
      rw [reads] at success
      cases success
  | some reading =>
      rw [reads] at taken success
      cases reading with
      | toggle which =>
          cases which with
          | limit =>
              obtain ⟨count, counts, rfl⟩ := Definitions.count_of_countChange success
              exact .limit taken (counts_of_count? counts)
          | offset =>
              obtain ⟨count, counts, rfl⟩ := Definitions.count_of_countChange success
              exact .offset taken (counts_of_count? counts)
          | orderBy =>
              have shape := Definitions.isList_of_reading? reads (by decide)
              obtain ⟨items, list⟩ := Value.exists_items_of_isList shape
              rw [list] at success
              obtain ⟨keys, sorts, rfl⟩ := sorts_of_mapM success
              exact .orderBy taken list sorts
      | entry kind chosen =>
          obtain ⟨restriction, added, asked, made, rfl⟩ :=
            Definitions.condition_of_changesOf success
          obtain ⟨member, named⟩ := Definitions.mem_of_reading? reads
          exact .restrict taken ⟨chosen, member, named, kind.asks_of_condition asked made⟩

end Run

section Parts

variable {table : Table Select BuildError}

/-- What changes add or set is, part by part, what filters ask for. -/
structure Parts (table : Table Select BuildError) (filters : List (Key × Value))
    (changes : List Change) : Prop where
  conditions : List.Forall₂ table.Restricts (table.restricting filters)
    (changes.filterMap Change.condition?)
  sort : List.Forall₂ table.Sorts (table.sortItems filters) (changes.filterMap Change.sortKey?)
  limit : List.Forall₂ Counts (table.dispatched filters (.toggle .limit))
    (changes.filterMap Change.limit?)
  offset : List.Forall₂ Counts (table.dispatched filters (.toggle .offset))
    (changes.filterMap Change.offset?)

theorem StandsFor.parts {filter : Key × Value} {changes : List Change}
    (stands : table.StandsFor filter changes) : table.Parts [filter] changes := by
  cases stands with
  | limit taken counts =>
      constructor <;> simp [restricting, restriction?, sortItems, dispatched, taken, counts]
  | offset taken counts =>
      constructor <;> simp [restricting, restriction?, sortItems, dispatched, taken, counts]
  | orderBy taken list sorts =>
      obtain ⟨key, value⟩ := filter
      subst list
      constructor <;>
        simp [restricting, restriction?, sortItems, dispatched, taken, sorts, Function.comp_def]
  | restrict taken restricts =>
      constructor <;> simp [restricting, restriction?, sortItems, dispatched, taken, restricts]

theorem Parts.append {filters others : List (Key × Value)} {changes more : List Change}
    (first : table.Parts filters changes) (second : table.Parts others more) :
    table.Parts (filters ++ others) (changes ++ more) := by
  constructor
  · unfold restricting
    rw [List.filterMap_append, List.filterMap_append]
    exact List.rel_append first.conditions second.conditions
  · unfold sortItems dispatched
    rw [List.filter_append, List.flatMap_append, List.filterMap_append]
    exact List.rel_append first.sort second.sort
  · unfold dispatched
    rw [List.filter_append, List.filterMap_append]
    exact List.rel_append first.limit second.limit
  · unfold dispatched
    rw [List.filter_append, List.filterMap_append]
    exact List.rel_append first.offset second.offset

/-- The changes of all filters of a request are, part by part, what the request asks for. -/
theorem parts_of_standsFor {filters : List (Key × Value)} {changes : List (List Change)}
    (stands : List.Forall₂ table.StandsFor filters changes) :
    table.Parts filters changes.flatten := by
  induction stands with
  | nil => exact ⟨.nil, .nil, .nil, .nil⟩
  | cons first _ ih => exact first.parts.append ih

end Parts

/-- What a request makes of a selection, read off its filters. -/
structure Applied (table : Table Select BuildError) (request : Request) (start result : Select) :
    Prop where
  table_eq : result.table = start.table
  schema_eq : result.schema = start.schema
  relation_eq : result.relation = start.relation
  joins : start.joins <+: result.joins
  conditions : ∃ added, List.Forall₂ table.Restricts (table.restricting request.entries) added ∧
    result.conditions = start.conditions ++ added
  sort : ∃ added, List.Forall₂ table.Sorts (table.sortItems request.entries) added ∧
    result.sort = start.sort ++ added
  limit : ∃ counts,
    List.Forall₂ Counts (table.dispatched request.entries (.toggle .limit)) counts ∧
      result.limit = counts.getLast?.or start.limit
  offset : ∃ counts,
    List.Forall₂ Counts (table.dispatched request.entries (.toggle .offset)) counts ∧
      result.offset = counts.getLast?.or start.offset

section Requests

variable {catalog : Catalog} {definitions : Definitions} {relation : String}
  {table : Table Select BuildError} {start result : Select} {request : Request}

/-- A request that succeeds makes changes that are, part by part, what it asks for. -/
theorem exists_changes_of_apply
    (compiled : Table.compile definitions relation catalog.resolver = .ok table)
    (success : table.apply start request = .ok result) :
    ∃ changes : List (List Change),
      request.entries.mapM (fun filter => definitions.changes relation filter.1 filter.2) =
          .ok changes ∧
        table.Parts request.entries changes.flatten ∧
        result = changes.flatten.foldl (Change.make catalog.resolver) start := by
  rw [table.apply_eq_changes compiled] at success
  obtain ⟨changes, found, rfl⟩ := map_eq_ok_iff.mp success
  refine ⟨changes, found, parts_of_standsFor ?_, rfl⟩
  exact (forall₂_of_mapM found).imp fun filter added success =>
    standsFor_of_changes compiled success

/-- No request restricts a column that is not configured. -/
theorem Applied.configured (applied : table.Applied request start result) {condition : Condition}
    (member : condition ∈ result.conditions) :
    condition ∈ start.conditions ∨ ∃ kind, ∃ entry ∈ table.definitions.fieldEntries kind,
      condition.column = entry.target table.relation := by
  obtain ⟨added, restricts, conditions⟩ := applied.conditions
  rw [conditions, List.mem_append] at member
  rcases member with before | member
  · exact .inl before
  · obtain ⟨filter, entry, configured, -, asks⟩ := exists_of_forall₂ restricts member
    exact .inr ⟨filter.1, entry, configured, asks.column_eq⟩

/-- **What a request makes of a selection can be read off its filters.**  Where a table with the
joins of a catalog is applied and succeeds, the table and its names stay, the joins go on from those
at the start, each filter that restricts a column adds the condition that its kind asks of a
configured column, each element of a sort list adds a sort key, and the last number of rows of each
kind stands in place of the one at the start. -/
theorem applied_of_apply
    (compiled : Table.compile definitions relation catalog.resolver = .ok table)
    (success : table.apply start request = .ok result) : table.Applied request start result := by
  obtain ⟨changes, -, parts, rfl⟩ := exists_changes_of_apply compiled success
  rw [Change.foldl_make]
  exact ⟨rfl, rfl, rfl, List.prefix_append _ _, ⟨_, parts.conditions, rfl⟩, ⟨_, parts.sort, rfl⟩,
    ⟨_, parts.limit, rfl⟩, ⟨_, parts.offset, rfl⟩⟩

end Requests

end Table

/-- People by names, roles and dates, sorted and page by page, with keys of both forms. -/
def Definitions.directory : Definitions where
  atomKeys := true
  stringKeys := true
  limit := true
  offset := true
  orderBy := true
  equalTo := [.aliased "role" "role_id", .bare "name"]
  equalToAny := [.qualified "role" "role" "name"]
  contains := [.bare "name"]
  greaterOrEqual := [.aliased "since" "joined_on"]

/-- Two limits, a sort list and three columns restricted, one of them by a key of two kinds. -/
def Request.directory : Request where
  entries := [(.text "limit", .text "50"), (.text "role", .list [.text "reader", .null]),
    (.atom "role", .integer 3), (.text "since", .text "2024-02-29"),
    (.text "order_by", .list [.text "name", .order (.qualified .desc "role" "rank")]),
    (.atom "limit", .integer 20)]
  distinct := by decide

theorem Table.applied_of_apply_directory :
    ∃ (table : Table Select BuildError) (result : Select),
      Table.compile .directory "people" Catalog.roles.resolver = .ok table ∧
        table.apply (.ofTable "people") .directory = .ok result ∧
        table.Applied .directory (.ofTable "people") result := by
  refine ⟨_, _, rfl, rfl, ?_⟩
  have compiled : Table.compile .directory "people" Catalog.roles.resolver = .ok _ := rfl
  exact Table.applied_of_apply compiled rfl

end RequestFilter
