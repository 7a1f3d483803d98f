import RequestFilter.Proofs.Faults
import RequestFilter.Proofs.Sql.Applied
import RequestFilter.Proofs.Sql.Binding

/-! # Where sort directives stand

A value that is bound has no sort directive in it at any depth
(`Sql.Parameter.not_part_of_ofValue`), and neither has one that has a text for
patterns or gives a number of rows.  In a request that is applied, directives are
therefore elements of sort lists and nothing else
(`Table.onlySorts_of_apply`).
-/

namespace RequestFilter

open Sql Outcome

/-- No directive stands in a value that has a text for patterns. -/
theorem Value.ShownAs.not_part {value : Value} {text : String} (shown : value.ShownAs text)
    {directive : Directive} : ¬(Value.order directive).Part value := by
  intro part
  cases shown <;> cases part

/-- No directive stands in a value that restricts a column. -/
theorem FieldKind.Asks.not_part {kind : FieldKind} {column : Column} {value : Value}
    {condition : Condition} (asks : kind.Asks column value condition) {directive : Directive} :
    ¬(Value.order directive).Part value := by
  cases asks with
  | equalTo _ binds | smallerThan _ binds | greaterOrEqual _ binds | listContains _ binds =>
      exact Parameter.not_part_of_ofValue (Parameter.ofValue_eq_ok_iff.mpr binds)
  | startsWith shown | contains shown => exact shown.not_part
  | @equalToAny _ bounds binds | @listContainsAny _ bounds binds | @listContainsAll _ bounds binds =>
      exact Parameter.not_part_of_ofItems (binds ▸ Parameter.ofItems_toValues bounds)

/-- No directive stands in a value that gives a number of rows. -/
theorem Table.Counts.not_part {filter : Key × Value} {count : Count}
    (counts : Table.Counts filter count) {directive : Directive} :
    ¬(Value.order directive).Part filter.2 := by
  intro part
  cases counts with
  | integer given | text given =>
      rw [given] at part
      cases part

/-- An element of a sort list that names a column is a text or a directive. -/
theorem Definitions.text_or_order_of_sortTarget? {definitions : Definitions} {relation : String}
    {item : Value} {target : Direction × Column}
    (names : definitions.sortTarget? relation item = some target) :
    (∃ name, item = .text name) ∨ ∃ directive, item = .order directive := by
  cases item with
  | text name => exact .inl ⟨name, rfl⟩
  | order directive => exact .inr ⟨directive, rfl⟩
  | _ => cases names

namespace Table

/-- The sort directives in the value of a filter are the elements of a sort list. -/
structure OnlySorts {Query Fault : Type} (table : Table Query Fault) (filter : Key × Value) :
    Prop where
  /-- A directive, at whatever depth, stands directly in the list of a filter that sorts. -/
  direct : ∀ path directive, filter.2.at? path = some (.order directive) →
    table.kindOf? filter.1 filter.2 = some (.toggle .orderBy) ∧
      ∃ items place, filter.2 = .list items ∧ path = [place]
  /-- The value of a filter that sorts is a list of texts and directives. -/
  elements : table.kindOf? filter.1 filter.2 = some (.toggle .orderBy) →
    ∃ items, filter.2 = .list items ∧
      ∀ item ∈ items, (∃ name, item = .text name) ∨ ∃ directive, item = .order directive

variable {definitions : Definitions} {relation : String}

section Shapes

variable {Query Fault : Type} {table : Table Query Fault} {filter : Key × Value}

theorem onlySorts_of_not_part {kind : Kind}
    (taken : table.kindOf? filter.1 filter.2 = some kind) (other : kind ≠ .toggle .orderBy)
    (plain : ∀ directive, ¬(Value.order directive).Part filter.2) : table.OnlySorts filter where
  direct _ directive found := absurd (Value.part_of_at? found) (plain directive)
  elements sorts := absurd (Option.some.inj (taken.symm.trans sorts)) other

theorem onlySorts_of_items {items : List Value}
    (taken : table.kindOf? filter.1 filter.2 = some (.toggle .orderBy))
    (list : filter.2 = .list items)
    (sorts : ∀ item ∈ items, (∃ name, item = .text name) ∨ ∃ directive, item = .order directive) :
    table.OnlySorts filter where
  elements _ := ⟨items, list, sorts⟩
  direct path directive found := by
    refine ⟨taken, items, ?_⟩
    rw [list] at found
    cases path with
    | nil => cases found
    | cons place path =>
        obtain ⟨item, here, below⟩ := Option.bind_eq_some_iff.mp found
        -- Neither a text nor a directive has anything below it.
        have last : path = [] := by
          rcases sorts item (List.mem_of_getElem? here) with ⟨name, rfl⟩ | ⟨other, rfl⟩
          · cases path <;> cases below
          · cases path with
            | nil => rfl
            | cons => cases below
        exact ⟨place, list, congrArg (place :: ·) last⟩

end Shapes

variable {resolver : Resolver Select} {table : Table Select BuildError}

theorem onlySorts_of_standsFor {filter : Key × Value} {changes : List Change}
    (stands : table.StandsFor filter changes) : table.OnlySorts filter := by
  cases stands with
  | limit taken counts | offset taken counts =>
      exact onlySorts_of_not_part taken (by decide) fun _ => counts.not_part
  | restrict taken restricts =>
      obtain ⟨_, -, -, asks⟩ := restricts
      exact onlySorts_of_not_part taken Kind.noConfusion fun _ => asks.not_part
  | orderBy taken list sorts =>
      refine onlySorts_of_items taken list fun item member => ?_
      obtain ⟨place, inside, rfl⟩ := List.getElem_of_mem member
      have each := List.forall₂_iff_get.mp sorts
      exact Definitions.text_or_order_of_sortTarget? (each.2 place inside (each.1 ▸ inside))

/-- **Sort directives only sort.**  Where a table over selections is applied to a request and
succeeds, whatever it joins, sort directives occur in the values of the request only as elements of
its sort lists, which hold nothing but texts and directives. -/
theorem onlySorts_of_apply (compiled : Table.compile definitions relation resolver = .ok table)
    {start result : Select} {request : Request}
    (success : table.apply start request = .ok result) :
    ∀ filter ∈ request.entries, table.OnlySorts filter := by
  rw [table.apply_eq_changes compiled] at success
  obtain ⟨changes, found, -⟩ := map_eq_ok_iff.mp success
  intro filter member
  obtain ⟨added, -, made⟩ := exists_mem_of_mapM found member
  exact onlySorts_of_standsFor (standsFor_of_changes compiled made)

end Table

theorem Table.onlySorts_of_apply_directory :
    ∃ (table : Table Select BuildError) (result : Select),
      Table.compile .directory "people" Catalog.roles.resolver = .ok table ∧
        table.apply (.ofTable "people") .directory = .ok result ∧
        ∀ filter ∈ Request.directory.entries, table.OnlySorts filter := by
  refine ⟨_, _, rfl, rfl, ?_⟩
  have compiled : Table.compile .directory "people" Catalog.roles.resolver = .ok _ := rfl
  exact Table.onlySorts_of_apply compiled
    (show Table.apply _ (Select.ofTable "people") .directory = .ok _ by rfl)

end RequestFilter
