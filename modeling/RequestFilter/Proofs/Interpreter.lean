import RequestFilter.Definitions.Basic
import RequestFilter.Table

/-! # Requests read straight from definitions

What definitions mean, said without rules.  A filter of a request is read as a
kind that is switched on or as an entry of another kind
(`Definitions.reading?`): the first kind in dispatch order that has the name of
its key and takes the shape of its value.  A reading is carried out on a query
(`Definitions.carryOut`), and a request is interpreted filter by filter up to
the first fault (`Definitions.interpret`).
-/

namespace RequestFilter

/-- What a filter asks of its column, its value brought into the form that its kind needs. -/
inductive Restriction where
  /-- The column equals the value. -/
  | equal (value : Value)
  /-- The column equals one of the values. -/
  | equalAny (values : List Value)
  /-- The column compares with the value. -/
  | compare (comparison : Comparison) (value : Value)
  /-- The column holds the text. -/
  | pattern (place : Pattern) (text : String)
  /-- The list in the column compares with the values. -/
  | listTest (test : ListTest) (values : List Value)

namespace Restriction

/-- Asks for a scalar. -/
def ofScalar (form : Value → Restriction) (value : Value) : Except ValueFault Restriction :=
  if value.isScalar then .ok (form value) else .error .notScalar

/-- Asks for the items of a list. -/
def ofItems (form : List Value → Restriction) : Value → Except ValueFault Restriction
  | .list values => .ok (form values)
  | _ => .error .notList

/-- Asks for a value that has a text. -/
def ofText (form : String → Restriction) (value : Value) : Except ValueFault Restriction :=
  match value.patternText? with
  | some text => .ok (form text)
  | none => .error .notText

section Forms

variable {value : Value} {restriction : Restriction}

theorem ofScalar_eq_ok_iff {form : Value → Restriction} :
    ofScalar form value = .ok restriction ↔ value.isScalar = true ∧ restriction = form value := by
  unfold ofScalar
  by_cases scalar : value.isScalar = true
  · simp only [scalar, ↓reduceIte, true_and, Except.ok.injEq]
    exact eq_comm
  · simp only [scalar, Bool.false_eq_true, ↓reduceIte, reduceCtorEq, false_and]

theorem ofItems_eq_ok_iff {form : List Value → Restriction} :
    ofItems form value = .ok restriction ↔
      ∃ values, value = .list values ∧ restriction = form values := by
  cases value with
  | list values =>
      simp only [ofItems, Except.ok.injEq, Value.list.injEq, exists_eq_left']
      exact eq_comm
  | _ => simp only [ofItems, reduceCtorEq, false_and, exists_false]

theorem ofText_eq_ok_iff {form : String → Restriction} :
    ofText form value = .ok restriction ↔
      ∃ text, value.patternText? = some text ∧ restriction = form text := by
  unfold ofText
  cases value.patternText? with
  | none => simp only [reduceCtorEq, false_and, exists_false]
  | some text =>
      simp only [Except.ok.injEq, Option.some.injEq, exists_eq_left']
      exact eq_comm

end Forms

/-- Restricts a column of a query. -/
def apply {Query Fault : Type} [Filterable Query Fault] (restriction : Restriction)
    (query : Query) (target : Column) : Except Fault Query :=
  match restriction with
  | .equal value => Filterable.whereEqual query target value
  | .equalAny values => Filterable.whereEqualAny query target values
  | .compare comparison value => Filterable.whereCompare query target comparison value
  | .pattern place text => Filterable.wherePattern query target place text
  | .listTest test values => Filterable.whereList query target test values

/-- Restricts a column of a query as asked, or complains about the value under its key. -/
def carryOut {Query Fault : Type} [Filterable Query Fault]
    (asked : Except ValueFault Restriction) (target : Column) (query : Query) (key : Key) :
    Except (DispatchError Fault) Query :=
  match asked with
  | .ok restriction => (restriction.apply query target).mapError .query
  | .error fault => .error (.invalidValue key fault)

end Restriction

/-- What a kind of filter asks for with a value. -/
def FieldKind.restriction : FieldKind → Value → Except ValueFault Restriction
  | .equalTo => Restriction.ofScalar .equal
  | .equalToAny => Restriction.ofItems .equalAny
  | .smallerThan => Restriction.ofScalar (.compare .smallerThan)
  | .greaterOrEqual => Restriction.ofScalar (.compare .greaterOrEqual)
  | .startsWith => Restriction.ofText (.pattern .startsWith)
  | .contains => Restriction.ofText (.pattern .contains)
  | .listContains => Restriction.ofScalar fun value => .listTest .contains [value]
  | .listContainsAny => Restriction.ofItems (.listTest .containsAny)
  | .listContainsAll => Restriction.ofItems (.listTest .containsAll)

/-- The kinds that take lists of values and nothing else. -/
def Kind.ofLists : List Kind :=
  [.toggle .orderBy, .field .equalToAny, .field .listContainsAny, .field .listContainsAll]

/-- What definitions take a filter for. -/
inductive Reading where
  /-- A kind that is switched on as a whole. -/
  | toggle (which : Toggle)
  /-- An entry of a kind that restricts a column. -/
  | entry (kind : FieldKind) (chosen : Entry)

/-- The kind of a reading. -/
def Reading.kind : Reading → Kind
  | .toggle which => .toggle which
  | .entry kind _ => .field kind

namespace Definitions

/-- The form of a key is accepted. -/
def acceptsForm (definitions : Definitions) : Key → Bool
  | .atom _ => definitions.atomKeys
  | .text _ => definitions.stringKeys

/-- What one kind takes a filter for: a kind that is switched on goes by its own name, any other
by the keys of its entries, and four kinds take lists only. -/
def readingAs? (definitions : Definitions) (name : String) (value : Value) (kind : Kind) :
    Option Reading :=
  if kind ∈ Kind.ofLists && !value.isList then none
  else
    match kind with
    | .toggle toggle =>
      if definitions.isOn toggle && decide (toggle.name = name) then some (.toggle toggle)
      else none
    | .field kind =>
      ((definitions.fieldEntries kind).find? fun entry => entry.key = name).map (.entry kind)

/-- What definitions take a filter for: the reading of the first kind in dispatch order that has
one. -/
def reading? (definitions : Definitions) (key : Key) (value : Value) : Option Reading :=
  if definitions.acceptsForm key then
    Kind.dispatchOrder.findSome? (definitions.readingAs? key.name value)
  else none

/-- A reading is of a kind that is switched on, by its own name, or of an entry, by its key. -/
def Has (definitions : Definitions) (name : String) : Reading → Prop
  | .toggle which => definitions.isOn which = true ∧ which.name = name
  | .entry kind chosen => chosen ∈ definitions.fieldEntries kind ∧ chosen.key = name

section Readings

variable {definitions : Definitions} {key : Key} {value : Value}

theorem has_of_readingAs? {name : String} {kind : Kind} {reading : Reading}
    (reads : definitions.readingAs? name value kind = some reading) :
    definitions.Has name reading ∧ (reading.kind ∈ Kind.ofLists → value.isList = true) := by
  unfold readingAs? at reads
  split at reads
  · cases reads
  · rename_i shape
    have list : kind ∈ Kind.ofLists → value.isList = true := by
      intro lists
      rw [decide_eq_true lists, Bool.true_and, Bool.not_eq_true', Bool.not_eq_false] at shape
      exact shape
    cases kind with
    | toggle which =>
        simp only [Option.ite_none_right_eq_some, Bool.and_eq_true, decide_eq_true_eq,
          Option.some.injEq] at reads
        obtain ⟨has, rfl⟩ := reads
        exact ⟨has, list⟩
    | field kind =>
        obtain ⟨entry, search, rfl⟩ := Option.map_eq_some_iff.mp reads
        have named := List.find?_some search
        exact ⟨⟨List.mem_of_find?_eq_some search, of_decide_eq_true named⟩, list⟩

/-- What a filter is taken for has the name of its key and takes the shape of its value. -/
theorem has_of_reading? {reading : Reading}
    (reads : definitions.reading? key value = some reading) :
    definitions.Has key.name reading ∧ (reading.kind ∈ Kind.ofLists → value.isList = true) := by
  unfold reading? at reads
  split at reads
  · obtain ⟨kind, -, found⟩ := List.exists_of_findSome?_eq_some reads
    exact has_of_readingAs? found
  · cases reads

/-- A filter that is taken for a kind that is switched on has the name of the kind. -/
theorem name_of_reading? {which : Toggle}
    (reads : definitions.reading? key value = some (.toggle which)) : which.name = key.name :=
  (has_of_reading? reads).1.2

/-- A filter that is taken for an entry has the key of the entry. -/
theorem mem_of_reading? {kind : FieldKind} {chosen : Entry}
    (reads : definitions.reading? key value = some (.entry kind chosen)) :
    chosen ∈ definitions.fieldEntries kind ∧ chosen.key = key.name :=
  (has_of_reading? reads).1

/-- Only a list is taken for a kind that takes lists only. -/
theorem isList_of_reading? {reading : Reading}
    (reads : definitions.reading? key value = some reading)
    (lists : reading.kind ∈ Kind.ofLists) : value.isList = true :=
  (has_of_reading? reads).2 lists

end Readings

/-- The column that a name stands for in a sort list: that of the equality filter with the name as
its key, or else the field of that name. -/
def namedColumn (definitions : Definitions) (relation name : String) : Column :=
  match definitions.equalTo.find? fun entry => entry.key = name with
  | some entry => entry.target relation
  | none => ⟨relation, name⟩

/-- The direction and the column that an element of a sort list asks for. -/
def sortTarget? (definitions : Definitions) (relation : String) :
    Value → Option (Direction × Column)
  | .text name => some (.asc, definitions.namedColumn relation name)
  | .order (.field name) => some (.asc, definitions.namedColumn relation name)
  | .order (.directed direction name) => some (direction, definitions.namedColumn relation name)
  | .order (.qualified direction relation field) => some (direction, ⟨relation, field⟩)
  | _ => none

section Interpretation

variable {Query Fault : Type} [Filterable Query Fault]

/-- Sorts by an element of a sort list once the relation of its column is resolved. -/
def sortBy (definitions : Definitions) (relation : String) (resolver : Resolver Query) (key : Key)
    (query : Query) (item : Value) : Except (DispatchError Fault) Query :=
  match definitions.sortTarget? relation item with
  | some (direction, column) =>
    (Filterable.orderBy (resolver query column.relation) direction column).mapError .query
  | none => .error (.invalidDirective key (.notDirective item))

/-- Gives a number of rows to a query. -/
def assignCount (assign : Query → Count → Except Fault Query) (query : Query) (key : Key)
    (value : Value) : Except (DispatchError Fault) Query :=
  match value.count? with
  | some count => (assign query count).mapError .query
  | none => .error (.invalidValue key .notCount)

/-- Carries out what a filter was taken for. -/
def carryOut (definitions : Definitions) (relation : String) (resolver : Resolver Query) :
    Reading → Transform Query Fault
  | .toggle .limit => assignCount Filterable.limit
  | .toggle .offset => assignCount Filterable.offset
  | .toggle .orderBy => fun query key value =>
    (value.items?.getD []).foldlM (definitions.sortBy relation resolver key) query
  | .entry kind entry => fun query key value =>
    let target := entry.target relation
    Restriction.carryOut (kind.restriction value) target (resolver query target.relation) key

/-- Carries out one filter of a request. -/
def interpretEntry (definitions : Definitions) (relation : String) (resolver : Resolver Query) :
    Transform Query Fault := fun query key value =>
  match definitions.reading? key value with
  | some reading => definitions.carryOut relation resolver reading query key value
  | none => .error (.noMatch key)

/-- Carries out a request filter by filter, up to the first fault. -/
def interpret (definitions : Definitions) (relation : String) (resolver : Resolver Query)
    (query : Query) (request : Request) : Except (DispatchError Fault) Query :=
  request.entries.foldlM
    (fun query entry => definitions.interpretEntry relation resolver query entry.1 entry.2) query

end Interpretation

end Definitions

end RequestFilter
