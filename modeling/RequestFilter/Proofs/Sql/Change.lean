import RequestFilter.Proofs.Compiled
import RequestFilter.Proofs.Sql.Text
import RequestFilter.Sql.Filtering

/-! # Changes to selections

What a filter does to a selection does not depend on the selection: a filter
either fails in a way of its own or stands for a list of changes, each made after
the relation of its column is resolved (`Definitions.interpretEntry_eq_changes`).
Applying a request is finding the changes of all its filters and making them in
order (`Table.apply_eq_changes`).
-/

namespace RequestFilter

open Sql Outcome

namespace Sql

/-- One change to a selection. -/
inductive Change where
  /-- One more condition. -/
  | condition (added : Condition)
  /-- One more sort key. -/
  | sortKey (added : SortKey)
  /-- At most so many rows. -/
  | limit (count : Count)
  /-- Without so many rows. -/
  | offset (count : Count)

namespace Change

/-- The relation of the column that a change is about. -/
def relation? : Change → Option String
  | .condition added => some added.column.relation
  | .sortKey added => some added.column.relation
  | .limit _ | .offset _ => none

/-- The condition that a change adds. -/
@[simp] def condition? : Change → Option Condition
  | .condition added => some added
  | _ => none

/-- The sort key that a change adds. -/
@[simp] def sortKey? : Change → Option SortKey
  | .sortKey added => some added
  | _ => none

/-- The largest number of rows that a change sets. -/
@[simp] def limit? : Change → Option Count
  | .limit count => some count
  | _ => none

/-- The number of rows to skip that a change sets. -/
@[simp] def offset? : Change → Option Count
  | .offset count => some count
  | _ => none

/-- Makes a change once the relation of its column is resolved. -/
def make (resolver : Resolver Select) (select : Select) : Change → Select
  | .condition added => (resolver select added.column.relation).addCondition added
  | .sortKey added =>
    (resolver select added.column.relation).addSortKey added.direction added.column
  | .limit count => select.setLimit count
  | .offset count => select.setOffset count

end Change

theorem eq_of_checkedColumn {column checked : Column}
    (success : checkedColumn column = .ok checked) : checked = column := by
  unfold checkedColumn at success
  simp only [bind_eq_ok_iff] at success
  obtain ⟨_, _, _, _, same⟩ := success
  cases same
  rfl

end Sql

/-- The condition on a column whose names are checked. -/
def Restriction.condition (target : Column) : Restriction → Except BuildError Condition
  | .equal value => (Parameter.ofValue value).map (.compare target .equal)
  | .equalAny values => (Parameter.ofList values).map (.anyOf target)
  | .compare comparison value =>
    (Parameter.ofValue value).map (.compare target (comparisonOperator comparison))
  | .pattern place text => .ok (.like target (likePattern place text))
  | .listTest test values => (Parameter.ofList values).map (.array target (listOperator test))

/-- How a restriction compares a column with its value. -/
def Restriction.comparator : Restriction → Comparator
  | .equal _ => .operator .equal
  | .equalAny _ => .any
  | .compare comparison _ => .operator (comparisonOperator comparison)
  | .pattern _ _ => .operator .like
  | .listTest test _ => .operator (listOperator test)

theorem Restriction.outline_of_condition {restriction : Restriction} {target : Column}
    {condition : Condition} (success : restriction.condition target = .ok condition) :
    condition.outline = (target, restriction.comparator) := by
  have bound {parameter : Except BuildError Parameter} {form : Parameter → Condition}
      {outline : Column × Comparator} (keeps : ∀ value, (form value).outline = outline)
      (success : parameter.map form = .ok condition) : condition.outline = outline := by
    obtain ⟨value, -, rfl⟩ := map_eq_ok_iff.mp success
    exact keeps value
  cases restriction with
  | equal value => exact bound (fun _ => rfl) success
  | equalAny values => exact bound (fun _ => rfl) success
  | compare comparison value => exact bound (fun _ => rfl) success
  | pattern place text =>
      cases success
      rfl
  | listTest test values => exact bound (fun _ => rfl) success

/-- Restricting a selection adds a condition that does not depend on the selection. -/
theorem Restriction.apply_eq_condition (restriction : Restriction) (select : Select)
    (target : Column) :
    restriction.apply select target =
      (checkedColumn target >>= restriction.condition).map select.addCondition := by
  have bound (parameter : Except BuildError Parameter) (form : Column → Parameter → Condition) :
      (checkedColumn target >>= fun column => parameter >>= fun value =>
          pure (select.addCondition (form column value))) =
        (checkedColumn target >>= fun column => parameter.map (form column)).map
          select.addCondition := by
    cases checkedColumn target with
    | error fault => rfl
    | ok column => cases parameter <;> rfl
  cases restriction with
  | equal value => exact bound (Parameter.ofValue value) fun column => .compare column .equal
  | equalAny values => exact bound (Parameter.ofList values) .anyOf
  | compare comparison value =>
      exact bound (Parameter.ofValue value) fun column =>
        .compare column (comparisonOperator comparison)
  | pattern place text =>
      change (checkedColumn target >>= fun column => _) = _
      cases checkedColumn target <;> rfl
  | listTest test values =>
      exact bound (Parameter.ofList values) fun column => .array column (listOperator test)

namespace Definitions

/-- The change that an element of a sort list stands for. -/
def sortChange (definitions : Definitions) (relation : String) (key : Key) (item : Value) :
    Except (DispatchError BuildError) Change :=
  match definitions.sortTarget? relation item with
  | some (direction, column) =>
    ((checkedColumn column).map fun column => .sortKey ⟨direction, column⟩).mapError .query
  | none => .error (.invalidDirective key (.notDirective item))

/-- The change that a number of rows stands for. -/
def countChange (form : Count → Change) (key : Key) (value : Value) :
    Except (DispatchError BuildError) (List Change) :=
  match value.count? with
  | some count => .ok [form count]
  | none => .error (.invalidValue key .notCount)

/-- The changes that a reading of a filter stands for. -/
def changesOf (definitions : Definitions) (relation : String) (key : Key) (value : Value) :
    Reading → Except (DispatchError BuildError) (List Change)
  | .toggle .limit => countChange .limit key value
  | .toggle .offset => countChange .offset key value
  | .toggle .orderBy => (value.items?.getD []).mapM (definitions.sortChange relation key)
  | .entry kind chosen =>
    match kind.restriction value with
    | .ok restriction =>
      ((checkedColumn (chosen.target relation) >>= restriction.condition).map fun added =>
        [.condition added]).mapError .query
    | .error fault => .error (.invalidValue key fault)

/-- The changes that a filter stands for. -/
def changes (definitions : Definitions) (relation : String) (key : Key) (value : Value) :
    Except (DispatchError BuildError) (List Change) :=
  match definitions.reading? key value with
  | some reading => definitions.changesOf relation key value reading
  | none => .error (.noMatch key)

section Success

variable {definitions : Definitions} {relation : String} {key : Key} {value : Value}

theorem sortKey_of_sortChange {item : Value} {change : Change}
    (success : definitions.sortChange relation key item = .ok change) :
    ∃ direction column, definitions.sortTarget? relation item = some (direction, column) ∧
      change = .sortKey ⟨direction, column⟩ := by
  unfold sortChange at success
  cases found : definitions.sortTarget? relation item with
  | none =>
      rw [found] at success
      cases success
  | some target =>
      obtain ⟨direction, column⟩ := target
      simp only [found, mapError_eq_ok_iff, map_eq_ok_iff] at success
      obtain ⟨checked, checking, rfl⟩ := success
      rw [eq_of_checkedColumn checking]
      exact ⟨direction, column, rfl, rfl⟩

theorem count_of_countChange {form : Count → Change} {changes : List Change}
    (success : countChange form key value = .ok changes) :
    ∃ count, value.count? = some count ∧ changes = [form count] := by
  unfold countChange at success
  cases found : value.count? with
  | none =>
      rw [found] at success
      cases success
  | some count =>
      rw [found] at success
      cases success
      exact ⟨count, rfl, rfl⟩

theorem condition_of_changesOf {kind : FieldKind} {chosen : Entry} {changes : List Change}
    (success : definitions.changesOf relation key value (.entry kind chosen) = .ok changes) :
    ∃ restriction added, kind.restriction value = .ok restriction ∧
      restriction.condition (chosen.target relation) = .ok added ∧
        changes = [.condition added] := by
  simp only [changesOf] at success
  cases asked : kind.restriction value with
  | error fault =>
      rw [asked] at success
      cases success
  | ok restriction =>
      simp only [asked, mapError_eq_ok_iff, map_eq_ok_iff, bind_eq_ok_iff] at success
      obtain ⟨added, ⟨checked, checking, bound⟩, rfl⟩ := success
      rw [eq_of_checkedColumn checking] at bound
      exact ⟨restriction, added, rfl, bound, rfl⟩

end Success

variable (definitions : Definitions) (relation : String) (resolver : Resolver Select)
  (select : Select)

theorem sortBy_eq_sortChange (key : Key) (item : Value) :
    definitions.sortBy relation resolver key select item =
      (definitions.sortChange relation key item).map (Change.make resolver select) := by
  unfold sortBy sortChange
  cases definitions.sortTarget? relation item with
  | none => rfl
  | some target =>
      obtain ⟨direction, column⟩ := target
      change ((checkedColumn column >>= fun checked =>
          pure ((resolver select column.relation).addSortKey direction checked)).mapError _) =
        (((checkedColumn column).map fun checked =>
          Change.sortKey ⟨direction, checked⟩).mapError _).map _
      cases checking : checkedColumn column with
      | error fault => rfl
      | ok checked =>
          cases eq_of_checkedColumn checking
          rfl

theorem assignCount_eq_countChange {assign : Select → Count → Select} (form : Count → Change)
    (makes : ∀ select count, assign select count = (form count).make resolver select) (key : Key)
    (value : Value) :
    assignCount (fun select count => .ok (assign select count)) select key value =
      (countChange form key value).map fun changes =>
        changes.foldl (Change.make resolver) select := by
  unfold assignCount countChange
  cases value.count? with
  | none => rfl
  | some count => exact congrArg Except.ok (makes select count)

theorem carryOut_eq_changesOf (key : Key) (value : Value) (reading : Reading) :
    definitions.carryOut relation resolver reading select key value =
      (definitions.changesOf relation key value reading).map fun changes =>
        changes.foldl (Change.make resolver) select := by
  cases reading with
  | toggle which =>
      cases which with
      | limit =>
          exact assignCount_eq_countChange resolver select .limit (fun _ _ => rfl) key value
      | offset =>
          exact assignCount_eq_countChange resolver select .offset (fun _ _ => rfl) key value
      | orderBy =>
          exact foldlM_eq_map_mapM (fun select item =>
            definitions.sortBy_eq_sortChange relation resolver select key item) _ select
  | entry kind chosen =>
      change Restriction.carryOut (kind.restriction value) (chosen.target relation) _ key = _
      simp only [Restriction.carryOut, changesOf]
      cases kind.restriction value with
      | error fault => rfl
      | ok restriction =>
          simp only [restriction.apply_eq_condition]
          cases found : checkedColumn (chosen.target relation) >>= restriction.condition with
          | error fault => rfl
          | ok added =>
              obtain ⟨checked, checking, success⟩ := bind_eq_ok_iff.mp found
              have column : added.column = chosen.target relation :=
                (congrArg Prod.fst (Restriction.outline_of_condition success)).trans
                  (eq_of_checkedColumn checking)
              rw [← column]
              rfl

/-- What a filter does to a selection is to make changes that do not depend on the selection. -/
theorem interpretEntry_eq_changes (key : Key) (value : Value) :
    definitions.interpretEntry relation resolver select key value =
      (definitions.changes relation key value).map fun changes =>
        changes.foldl (Change.make resolver) select := by
  unfold interpretEntry changes
  cases definitions.reading? key value with
  | none => rfl
  | some reading =>
      exact definitions.carryOut_eq_changesOf relation resolver select key value reading

end Definitions

/-- Applying a request finds the changes of all its filters and makes them in order. -/
theorem Table.apply_eq_changes {definitions : Definitions} {relation : String}
    {resolver : Resolver Select} {table : Table Select BuildError}
    (compiled : Table.compile definitions relation resolver = .ok table) (select : Select)
    (request : Request) :
    table.apply select request =
      (request.entries.mapM fun entry => definitions.changes relation entry.1 entry.2).map
        fun changes => changes.flatten.foldl (Change.make resolver) select := by
  rw [Table.apply_eq_foldlM compiled, foldlM_eq_map_mapM fun select entry =>
    definitions.interpretEntry_eq_changes relation resolver select entry.1 entry.2]
  simp only [List.foldl_flatten]

end RequestFilter
