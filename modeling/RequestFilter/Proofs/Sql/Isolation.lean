import RequestFilter.Proofs.Sql.Alike
import RequestFilter.Proofs.Sql.Change
import RequestFilter.Sql.Catalog

/-! # Values stay out of statements

Two requests have the same outline when they differ in nothing but the values
that restrict columns, and in those not as to which are lists.  Filters of the
same outline stand for changes that differ in nothing but bound values
(`Definitions.changes_alike`), and such changes keep selections alike
(`Select.Alike.make`), so requests of the same outline are written as the same
statement (`Table.statement_of_sameOutline`).
-/

namespace RequestFilter

open Sql Outcome

/-- How a kind of filter compares its column with a value. -/
def FieldKind.comparator : FieldKind → Comparator
  | .equalTo => .operator .equal
  | .equalToAny => .any
  | .smallerThan => .operator .less
  | .greaterOrEqual => .operator .greaterOrEqual
  | .startsWith | .contains => .operator .like
  | .listContains | .listContainsAll => .operator .contains
  | .listContainsAny => .operator .overlaps

/-- How a filter compares depends on its kind alone. -/
theorem FieldKind.comparator_of_restriction {kind : FieldKind} {value : Value}
    {restriction : Restriction} (asked : kind.restriction value = .ok restriction) :
    restriction.comparator = kind.comparator := by
  cases kind with
  | equalTo | smallerThan | greaterOrEqual | listContains =>
      rw [FieldKind.restriction, Restriction.ofScalar_eq_ok_iff] at asked
      obtain ⟨-, rfl⟩ := asked
      rfl
  | equalToAny | listContainsAny | listContainsAll =>
      rw [FieldKind.restriction, Restriction.ofItems_eq_ok_iff] at asked
      obtain ⟨_, -, rfl⟩ := asked
      rfl
  | startsWith | contains =>
      rw [FieldKind.restriction, Restriction.ofText_eq_ok_iff] at asked
      obtain ⟨_, -, rfl⟩ := asked
      rfl

namespace Sql

/-- Two changes differ in nothing but a value that they bind. -/
inductive Change.Alike : Change → Change → Prop
  | refl (change : Change) : Alike change change
  | condition {added other : Condition} (same : added.outline = other.outline) :
    Alike (.condition added) (.condition other)

/-- The resolvers that selections come with. -/
inductive IsResolver : Resolver Select → Prop
  | identity : IsResolver (.identity Select)
  | joinOnce (catalog : Catalog) : IsResolver catalog.resolver
  | joinAlways (catalog : Catalog) : IsResolver catalog.resolve

namespace Select.Alike

variable {first second : Select} (alike : first.Alike second)

include alike

theorem joinAlways (catalog : Catalog) (name : String) :
    (catalog.resolve first name).Alike (catalog.resolve second name) := by
  unfold Catalog.resolve
  cases catalog.get? name with
  | none => exact alike
  | some join => exact alike.addJoin join

theorem resolve {resolver : Resolver Select} (known : IsResolver resolver) (name : String) :
    (resolver first name).Alike (resolver second name) := by
  cases known with
  | identity => exact alike
  | joinAlways catalog => exact alike.joinAlways catalog name
  | joinOnce catalog =>
      change (if first.isAddressable name then first else catalog.resolve first name).Alike
        (if second.isAddressable name then second else catalog.resolve second name)
      unfold isAddressable
      rw [alike.relations]
      split
      · exact alike
      · exact alike.joinAlways catalog name

/-- Alike changes keep selections alike. -/
theorem make {resolver : Resolver Select} (known : IsResolver resolver) {change other : Change}
    (changes : change.Alike other) :
    (change.make resolver first).Alike (other.make resolver second) := by
  cases changes with
  | @condition added other same =>
      have column : added.column = other.column := congrArg Prod.fst same
      change ((resolver first added.column.relation).addCondition added).Alike
        ((resolver second other.column.relation).addCondition other)
      rw [column]
      exact (alike.resolve known _).addCondition same
  | refl =>
      cases change with
      | condition added => exact (alike.resolve known _).addCondition rfl
      | sortKey added => exact (alike.resolve known _).addSortKey _ _
      | limit count => exact alike.setLimit count
      | offset count => exact alike.setOffset count

end Select.Alike

end Sql

/-- What a filter is taken for depends on its value only as to whether it is a list. -/
theorem Definitions.reading?_congr (definitions : Definitions) (key : Key) {value other : Value}
    (same : value.isList = other.isList) :
    definitions.reading? key value = definitions.reading? key other := by
  unfold Definitions.reading? Definitions.readingAs?
  rw [same]

/-- The kind of the rule that a table finds for a filter. -/
def Table.kindOf? {Query Fault : Type} (table : Table Query Fault) (key : Key) (value : Value) :
    Option Kind :=
  (table.rules.find? fun rule => rule.accepts key value).bind Rule.kind

/-- Two filters differ in nothing but a value that restricts a column, and not as to whether it is
a list. -/
structure Table.SameOutline {Query Fault : Type} (table : Table Query Fault)
    (first second : Key × Value) : Prop where
  key : first.1 = second.1
  isList : first.2.isList = second.2.isList
  value : ∀ which, table.kindOf? first.1 first.2 = some (.toggle which) → first.2 = second.2

section Tables

variable {definitions : Definitions} {relation : String} {resolver : Resolver Select}
  {table : Table Select BuildError}

theorem Table.kindOf?_eq_kind
    (compiled : Table.compile definitions relation resolver = .ok table) (key : Key)
    (value : Value) :
    table.kindOf? key value = (definitions.reading? key value).map Reading.kind := by
  obtain ⟨policy, accepted, distinct, rfl⟩ := Table.compile_eq_ok_iff.mp compiled
  unfold Table.kindOf?
  rw [find?_rules accepted]
  cases definitions.reading? key value with
  | none => rfl
  | some reading => exact reading.kind_rule

/-- Filters of the same outline stand for alike changes. -/
theorem Definitions.changes_alike
    (compiled : Table.compile definitions relation resolver = .ok table)
    {first second : Key × Value} (same : table.SameOutline first second)
    {changes others : List Change}
    (success : definitions.changes relation first.1 first.2 = .ok changes)
    (otherSuccess : definitions.changes relation second.1 second.2 = .ok others) :
    List.Forall₂ Change.Alike changes others := by
  obtain ⟨key, value⟩ := first
  obtain ⟨otherKey, other⟩ := second
  obtain rfl : key = otherKey := same.key
  have known := Table.kindOf?_eq_kind compiled key value
  unfold Definitions.changes at success otherSuccess
  rw [← definitions.reading?_congr key same.isList] at otherSuccess
  cases reads : definitions.reading? key value with
  | none =>
      rw [reads] at success
      cases success
  | some reading =>
      rw [reads] at known success otherSuccess
      -- A kind that is switched on as a whole reads the value itself, any other only binds it.
      cases reading with
      | toggle which =>
          obtain rfl : value = other := same.value which known
          rw [success] at otherSuccess
          cases otherSuccess
          exact List.forall₂_same.mpr fun change _ => .refl change
      | entry kind chosen =>
          obtain ⟨restriction, added, asked, bound, rfl⟩ := condition_of_changesOf success
          obtain ⟨otherRestriction, otherAdded, otherAsked, otherBound, rfl⟩ :=
            condition_of_changesOf otherSuccess
          have outline : added.outline = otherAdded.outline := by
            rw [Restriction.outline_of_condition bound, Restriction.outline_of_condition otherBound,
              FieldKind.comparator_of_restriction asked,
              FieldKind.comparator_of_restriction otherAsked]
          exact .cons (.condition outline) .nil

/-- Requests of the same outline make alike changes to alike selections. -/
theorem Table.alike_of_apply (known : IsResolver resolver)
    (compiled : Table.compile definitions relation resolver = .ok table)
    {start result other : Select} {first second : Request}
    (same : List.Forall₂ table.SameOutline first.entries second.entries)
    (success : table.apply start first = .ok result)
    (otherSuccess : table.apply start second = .ok other) : result.Alike other := by
  rw [table.apply_eq_changes compiled] at success otherSuccess
  obtain ⟨changes, found, rfl⟩ := map_eq_ok_iff.mp success
  obtain ⟨others, otherFound, rfl⟩ := map_eq_ok_iff.mp otherSuccess
  have alike : List.Forall₂ (List.Forall₂ Change.Alike) changes others := by
    refine forall₂_mapM ?_ same found otherFound
    intro entry otherEntry changes others same success otherSuccess
    exact Definitions.changes_alike compiled same success otherSuccess
  exact List.rel_foldl (fun _ _ alike _ _ changes => alike.make known changes) (.refl start)
    (List.rel_flatten alike)

/-- **Values stay out of statements.**  Let a table join nothing, or join from a catalog.  When two
requests differ in nothing but values that restrict columns, and in those not as to which are
lists, then what they make of a selection is written as the same text with as many values, or
refused for the same fault, and so it is counted. -/
theorem Table.statement_of_sameOutline (known : IsResolver resolver)
    (compiled : Table.compile definitions relation resolver = .ok table)
    {start result other : Select} {first second : Request}
    (same : List.Forall₂ table.SameOutline first.entries second.entries)
    (success : table.apply start first = .ok result)
    (otherSuccess : table.apply start second = .ok other) :
    result.statement.map Statement.outline = other.statement.map Statement.outline ∧
      result.countStatement.map Statement.outline = other.countStatement.map Statement.outline ∧
        result.parameters.length = other.parameters.length := by
  have alike := Table.alike_of_apply known compiled same success otherSuccess
  exact ⟨alike.statement_map_outline, alike.countStatement_map_outline, alike.length_parameters⟩

/-- People by parts of their names and by their roles, up to a number of rows. -/
def Definitions.people : Definitions where
  stringKeys := true
  limit := true
  contains := [.bare "name"]
  equalToAny := [.qualified "role" "role" "name"]

/-- The join of the roles of people. -/
def Sql.Catalog.roles : Catalog :=
  .ofList [⟨.left, "roles", "role", ⟨"people", "role_id"⟩, "id"⟩]

/-- Five people with a part of their names and some roles. -/
def Request.people (part : String) (roles : List Value) : Request where
  entries := [(.text "name", .text part), (.text "role", .list roles), (.text "limit", .text "5")]
  distinct := by simp

theorem Table.statement_of_sameOutline_people :
    ∃ (table : Table Select BuildError) (result other : Select),
      Table.compile .people "people" Catalog.roles.resolver = .ok table ∧
        List.Forall₂ table.SameOutline (Request.people "ann" [.text "reader"]).entries
          (Request.people "%' OR 1 = 1 --" [.null, .list [.integer 7]]).entries ∧
        table.apply (.ofTable "people") (.people "ann" [.text "reader"]) = .ok result ∧
        table.apply (.ofTable "people") (.people "%' OR 1 = 1 --" [.null, .list [.integer 7]]) =
          .ok other ∧
        result.statement.map Statement.outline = other.statement.map Statement.outline ∧
        result.countStatement.map Statement.outline = other.countStatement.map Statement.outline ∧
        result.parameters.length = other.parameters.length := by
  have same {table : Table Select BuildError}
      (compiled : Table.compile .people "people" Catalog.roles.resolver = .ok table) :
      List.Forall₂ table.SameOutline (Request.people "ann" [.text "reader"]).entries
        (Request.people "%' OR 1 = 1 --" [.null, .list [.integer 7]]).entries := by
    cases compiled
    refine .cons ⟨rfl, rfl, ?_⟩ (.cons ⟨rfl, rfl, ?_⟩ (.cons ⟨rfl, rfl, fun _ _ => rfl⟩ .nil))
    · rintro which ⟨⟩
    · rintro which ⟨⟩
  refine ⟨_, _, _, rfl, same rfl, rfl, rfl, ?_⟩
  have compiled : Table.compile .people "people" Catalog.roles.resolver = .ok _ := rfl
  exact Table.statement_of_sameOutline (.joinOnce .roles) compiled (same compiled) rfl rfl

end Tables

end RequestFilter
