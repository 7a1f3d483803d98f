import RequestFilter.Proofs.Outcome
import RequestFilter.Proofs.Trees
import RequestFilter.Sql.Parameter

/-! # Binding of values

A bound value is the filter value again, constructor by constructor
(`Parameter.ofValue_eq_ok_iff`), so binding loses nothing and invents nothing.
Only sort directives cannot be bound.  A value with directives in it is refused
for the first of them, depth first and from left to right: the one with the least
path (`Parameter.exists_firstDirective_of_ofValue`).
-/

namespace RequestFilter

open Outcome

/-- A sort directive stands in a value at the end of a path, and no path to a directive comes before
this one in the order of dictionaries. -/
structure Value.FirstDirective (value : Value) (path : List Nat) (directive : Directive) :
    Prop where
  here : value.at? path = some (.order directive)
  first : ∀ other found, value.at? other = some (.order found) → ¬other < path

theorem Value.FirstDirective.unique {value : Value} {path other : List Nat}
    {directive found : Directive} (first : value.FirstDirective path directive)
    (second : value.FirstDirective other found) : directive = found := by
  have same : path = other := List.le_antisymm
    (List.not_lt.mp (first.first _ _ second.here)) (List.not_lt.mp (second.first _ _ first.here))
  have here := first.here
  rw [same, second.here] at here
  cases here
  rfl

/-- A direction goes by a name. -/
inductive Direction.NamedAs : Direction → String → Prop where
  | asc : NamedAs .asc "asc"
  | desc : NamedAs .desc "desc"
  | ascNullsFirst : NamedAs .ascNullsFirst "asc_nulls_first"
  | ascNullsLast : NamedAs .ascNullsLast "asc_nulls_last"
  | descNullsFirst : NamedAs .descNullsFirst "desc_nulls_first"
  | descNullsLast : NamedAs .descNullsLast "desc_nulls_last"

theorem Direction.namedAs_iff {direction : Direction} {text : String} :
    direction.NamedAs text ↔ text = direction.name := by
  constructor
  · rintro ⟨⟩ <;> rfl
  · rintro rfl
    cases direction <;> constructor

/-- A complaint names a directive by what it sorts by: a name alone, or a name or a column behind
the direction. -/
inductive Directive.NamedAs : Directive → String → Prop where
  | field (name : String) : NamedAs (.field name) name
  | directed {direction : Direction} {word : String} (spelled : direction.NamedAs word)
      (name : String) : NamedAs (.directed direction name) (word ++ ": " ++ name)
  | qualified {direction : Direction} {word : String} (spelled : direction.NamedAs word)
      (relation column : String) :
      NamedAs (.qualified direction relation column) (word ++ ": " ++ relation ++ "." ++ column)

theorem Directive.namedAs_iff {directive : Directive} {text : String} :
    directive.NamedAs text ↔ text = directive.display := by
  constructor
  · rintro (name | ⟨spelled, name⟩ | ⟨spelled, relation, column⟩)
    · rfl
    · rw [Direction.namedAs_iff.mp spelled]
      rfl
    · rw [Direction.namedAs_iff.mp spelled]
      rfl
  · rintro rfl
    cases directive with
    | field name => exact .field name
    | directed direction name => exact .directed (Direction.namedAs_iff.mpr rfl) name
    | qualified direction relation column =>
        exact .qualified (Direction.namedAs_iff.mpr rfl) relation column

namespace Sql.Parameter

mutual

/-- The filter value that a bound value stands for. -/
def toValue : Parameter → Value
  | .text value => .text value
  | .integer value => .integer value
  | .double value => .double value
  | .bool value => .bool value
  | .date value => .date value
  | .timestamp value => .timestamp value
  | .array items => .list (toValues items)
  | .null => .null

/-- The filter values that bound values stand for, in order. -/
def toValues : List Parameter → List Value
  | [] => []
  | item :: rest => toValue item :: toValues rest

end

theorem ofItems_eq_mapM (items : List Value) : ofItems items = items.mapM ofValue := by
  induction items with
  | nil => rfl
  | cons item rest ih =>
      rw [List.mapM_cons, ← ih]
      rfl

mutual

/-- A bound value stands for a value that is bound to it. -/
theorem ofValue_toValue : (bound : Parameter) → ofValue bound.toValue = .ok bound
  | .text _ | .integer _ | .double _ | .bool _ | .date _ | .timestamp _ | .null => rfl
  | .array items => map_eq_ok_iff.mpr ⟨items, ofItems_toValues items, rfl⟩

theorem ofItems_toValues : (bounds : List Parameter) → ofItems (toValues bounds) = .ok bounds
  | [] => rfl
  | item :: rest =>
    bind_eq_ok_iff.mpr ⟨item, ofValue_toValue item,
      bind_eq_ok_iff.mpr ⟨rest, ofItems_toValues rest, rfl⟩⟩

end

mutual

/-- A value is what it was bound to stands for. -/
theorem toValue_of_ofValue : {value : Value} → {bound : Parameter} →
    ofValue value = .ok bound → bound.toValue = value
  | .null, _, binds | .bool _, _, binds | .integer _, _, binds | .double _, _, binds
  | .text _, _, binds | .date _, _, binds | .timestamp _, _, binds => by
    cases binds
    rfl
  | .list _, _, binds => by
    obtain ⟨bounds, bindsItems, rfl⟩ := map_eq_ok_iff.mp binds
    exact congrArg Value.list (toValues_of_ofItems bindsItems)
  | .order _, _, binds => by cases binds

theorem toValues_of_ofItems : {items : List Value} → {bounds : List Parameter} →
    ofItems items = .ok bounds → toValues bounds = items
  | [], _, binds => by
    cases binds
    rfl
  | _ :: _, _, binds => by
    obtain ⟨first, bindsFirst, binds⟩ := bind_eq_ok_iff.mp binds
    obtain ⟨others, bindsOthers, same⟩ := bind_eq_ok_iff.mp binds
    cases same
    exact congrArg₂ List.cons (toValue_of_ofValue bindsFirst) (toValues_of_ofItems bindsOthers)

end

/-- Binding and reading back undo each other. -/
theorem ofValue_eq_ok_iff {value : Value} {bound : Parameter} :
    ofValue value = .ok bound ↔ bound.toValue = value := by
  constructor
  · exact toValue_of_ofValue
  · rintro rfl
    exact ofValue_toValue bound

/-- No directive stands in a value that is bound, at whatever depth. -/
theorem not_part_of_ofValue {value : Value} {bound : Parameter}
    (binds : ofValue value = .ok bound) {directive : Directive} :
    ¬(Value.order directive).Part value := by
  intro part
  induction part generalizing bound with
  | self => cases binds
  | item member _ ih =>
      obtain ⟨bounds, bindsAll, -⟩ := map_eq_ok_iff.mp binds
      rw [ofItems_eq_mapM] at bindsAll
      obtain ⟨_, -, bindsItem⟩ := exists_mem_of_mapM bindsAll member
      exact ih bindsItem

theorem not_part_of_ofItems {items : List Value} {bounds : List Parameter}
    (binds : ofItems items = .ok bounds) {directive : Directive} :
    ¬(Value.order directive).Part (.list items) := by
  have bound : ofValue (.list items) = .ok (.array bounds) := map_eq_ok_iff.mpr ⟨bounds, binds, rfl⟩
  exact not_part_of_ofValue bound

/-- A value that cannot be bound has a first directive, and is refused for it. -/
theorem exists_firstDirective_of_ofValue {value : Value} {fault : BuildError}
    (refused : ofValue value = .error fault) :
    ∃ path directive text, value.FirstDirective path directive ∧ directive.NamedAs text ∧
      fault = .unboundDirective text := by
  induction value using Value.inductionOn with
  | plain value plain =>
      cases value with
      | order directive =>
          cases refused
          exact ⟨[], directive, _, ⟨rfl, fun other _ _ => List.not_lt_nil other⟩,
            Directive.namedAs_iff.mpr rfl, rfl⟩
      | list items => cases plain
      | _ => cases refused
  | list items ih =>
      -- The path leads to the first item that is refused, and on to the first directive in it.
      have refusedItems := map_eq_error_iff.mp refused
      rw [ofItems_eq_mapM] at refusedItems
      obtain ⟨before, item, after, rfl, earlier, failed⟩ := mapM_eq_error_iff.mp refusedItems
      obtain ⟨path, directive, text, first, named, rfl⟩ :=
        ih item (List.mem_append_right _ List.mem_cons_self) failed
      have place : (before ++ item :: after)[before.length]? = some item := by
        rw [List.getElem?_append_right (Nat.le_refl _), Nat.sub_self, List.getElem?_cons_zero]
      refine ⟨before.length :: path, directive, text, ⟨?_, fun other found there => ?_⟩, named, rfl⟩
      · exact Option.bind_eq_some_iff.mpr ⟨item, place, first.here⟩
      · cases other with
        | nil => cases there
        | cons place rest =>
            obtain ⟨inside, here, below⟩ := Option.bind_eq_some_iff.mp there
            rcases Nat.lt_trichotomy place before.length with less | rfl | greater
            · -- The items before the refused one are bound, so there is no directive in them.
              rw [List.getElem?_append_left less] at here
              obtain ⟨bound, binds⟩ := earlier inside (List.mem_of_getElem? here)
              exact absurd (Value.part_of_at? below) (not_part_of_ofValue binds)
            · cases place.symm.trans here
              rw [List.cons_lt_cons_self]
              exact first.first rest found below
            · exact List.not_lt.mpr (List.cons_le_cons_iff.mpr (.inl greater))

/-- A value without directives, and no other, is bound. -/
theorem exists_ofValue_iff {value : Value} :
    (∃ bound, ofValue value = .ok bound) ↔
      ∀ path directive, value.at? path ≠ some (.order directive) := by
  constructor
  · rintro ⟨bound, binds⟩ path directive found
    exact not_part_of_ofValue binds (Value.part_of_at? found)
  · intro plain
    cases outcome : ofValue value with
    | ok bound => exact ⟨bound, rfl⟩
    | error fault =>
        obtain ⟨path, directive, -, first, -⟩ := exists_firstDirective_of_ofValue outcome
        exact absurd first.here (plain path directive)

/-- **Binding is exact.**  A value is bound exactly when no sort directive stands in it, at whatever
depth.  The bound value is then the one that, read back constructor by constructor, is the value
itself.  Any other value is refused for the first directive in it, depth first and from left to
right, which the complaint names. -/
theorem ofValue_eq_iff (value : Value) :
    ((∃ bound, ofValue value = .ok bound) ↔
        ∀ path directive, value.at? path ≠ some (.order directive)) ∧
      (∀ bound, ofValue value = .ok bound ↔ bound.toValue = value) ∧
      ∀ fault, ofValue value = .error fault ↔
        ∃ path directive text, value.FirstDirective path directive ∧ directive.NamedAs text ∧
          fault = .unboundDirective text := by
  refine ⟨exists_ofValue_iff, fun bound => ofValue_eq_ok_iff, fun fault => ?_⟩
  refine ⟨exists_firstDirective_of_ofValue, ?_⟩
  rintro ⟨path, directive, text, first, named, rfl⟩
  cases outcome : ofValue value with
  | ok bound => exact absurd (Value.part_of_at? first.here) (not_part_of_ofValue outcome)
  | error fault =>
      obtain ⟨_, _, said, other, saidOther, rfl⟩ := exists_firstDirective_of_ofValue outcome
      cases first.unique other
      rw [Directive.namedAs_iff.mp named, Directive.namedAs_iff.mp saidOther]

example :
    ofValue (.list [.list [.null, .text "a"], .list [.order (.directed .desc "b")],
      .order (.field "c")]) = .error (.unboundDirective "desc: b") :=
  rfl

end Sql.Parameter

end RequestFilter
