import RequestFilter.Definitions.Entry
import RequestFilter.Kind

/-! # Filter definitions

Definitions say which forms of keys are accepted, which of the kinds that are
switched on as a whole are on, and which entries each of the other kinds has.
They are built step by step from the empty definitions, where no step takes
anything back, and are read through `entries` and `isOn`.  A sort list may use the
keys of the equality filters as names for their columns; any other name is a field
of the default relation.
-/

namespace RequestFilter

/-- The configuration of all filters. -/
structure Definitions where
  /-- Keys made in code are accepted. -/
  atomKeys : Bool := false
  /-- Keys that arrive as text are accepted. -/
  stringKeys : Bool := false
  /-- The number of rows can be limited. -/
  limit : Bool := false
  /-- Rows can be skipped. -/
  offset : Bool := false
  /-- Rows can be sorted. -/
  orderBy : Bool := false
  /-- Entries whose column equals the value. -/
  equalTo : List Entry := []
  /-- Entries whose column equals one of the values. -/
  equalToAny : List Entry := []
  /-- Entries whose column is below the value. -/
  smallerThan : List Entry := []
  /-- Entries whose column is not below the value. -/
  greaterOrEqual : List Entry := []
  /-- Entries whose column starts with the text. -/
  startsWith : List Entry := []
  /-- Entries whose column contains the text. -/
  contains : List Entry := []
  /-- Entries whose column is a list with the value. -/
  listContains : List Entry := []
  /-- Entries whose column is a list with one of the values. -/
  listContainsAny : List Entry := []
  /-- Entries whose column is a list with all the values. -/
  listContainsAll : List Entry := []
deriving DecidableEq, Repr, Inhabited

namespace Definitions

/-- The definitions that enable nothing. -/
def empty : Definitions := {}

/-- A kind that is switched on as a whole is on. -/
def isOn (definitions : Definitions) : Toggle → Bool
  | .limit => definitions.limit
  | .offset => definitions.offset
  | .orderBy => definitions.orderBy

/-- Switches a kind on or off. -/
def setToggle (definitions : Definitions) (toggle : Toggle) (on : Bool) : Definitions :=
  match toggle with
  | .limit => { definitions with limit := on }
  | .offset => { definitions with offset := on }
  | .orderBy => { definitions with orderBy := on }

/-- The entries of a kind that restricts a column. -/
def fieldEntries (definitions : Definitions) : FieldKind → List Entry
  | .equalTo => definitions.equalTo
  | .equalToAny => definitions.equalToAny
  | .smallerThan => definitions.smallerThan
  | .greaterOrEqual => definitions.greaterOrEqual
  | .startsWith => definitions.startsWith
  | .contains => definitions.contains
  | .listContains => definitions.listContains
  | .listContainsAny => definitions.listContainsAny
  | .listContainsAll => definitions.listContainsAll

/-- Replaces the entries of a kind that restricts a column. -/
def setEntries (definitions : Definitions) (kind : FieldKind) (entries : List Entry) :
    Definitions :=
  match kind with
  | .equalTo => { definitions with equalTo := entries }
  | .equalToAny => { definitions with equalToAny := entries }
  | .smallerThan => { definitions with smallerThan := entries }
  | .greaterOrEqual => { definitions with greaterOrEqual := entries }
  | .startsWith => { definitions with startsWith := entries }
  | .contains => { definitions with contains := entries }
  | .listContains => { definitions with listContains := entries }
  | .listContainsAny => { definitions with listContainsAny := entries }
  | .listContainsAll => { definitions with listContainsAll := entries }

/-- The entries of any kind; a kind that is switched on as a whole has none. -/
def entries (definitions : Definitions) : Kind → List Entry
  | .toggle _ => []
  | .field kind => definitions.fieldEntries kind

/-- A kind contributes something: it is switched on or has an entry. -/
def isEnabled (definitions : Definitions) : Kind → Bool
  | .toggle toggle => definitions.isOn toggle
  | .field kind => !(definitions.fieldEntries kind).isEmpty

/-- Accepts keys made in code. -/
def withAtomKeys (definitions : Definitions) : Definitions :=
  { definitions with atomKeys := true }

/-- Accepts keys that arrive as text. -/
def withStringKeys (definitions : Definitions) : Definitions :=
  { definitions with stringKeys := true }

/-- Switches a kind on that is switched on as a whole. -/
def withToggle (definitions : Definitions) (toggle : Toggle) : Definitions :=
  match toggle with
  | .limit => { definitions with limit := true }
  | .offset => { definitions with offset := true }
  | .orderBy => { definitions with orderBy := true }

/-- Adds entries to a kind; a kind that is switched on as a whole is switched on. -/
def withEntries (definitions : Definitions) (kind : Kind) (added : List Entry) : Definitions :=
  match kind with
  | .toggle toggle => definitions.setToggle toggle true
  | .field kind => definitions.setEntries kind (definitions.fieldEntries kind ++ added)

/-- A step by which definitions are built. -/
inductive Step where
  /-- Keys made in code are accepted. -/
  | atomKeys
  /-- Keys that arrive as text are accepted. -/
  | stringKeys
  /-- A kind is switched on. -/
  | toggle (which : Toggle)
  /-- Entries are passed with a kind. -/
  | entries (kind : Kind) (passed : List Entry)
deriving DecidableEq, Repr

/-- Definitions after one more step. -/
def after (definitions : Definitions) : Step → Definitions
  | .atomKeys => definitions.withAtomKeys
  | .stringKeys => definitions.withStringKeys
  | .toggle which => definitions.withToggle which
  | .entries kind passed => definitions.withEntries kind passed

/-- The definitions that some steps build. -/
def ofSteps (steps : List Step) : Definitions := steps.foldl after empty

/-- The last element of a list with a property. -/
def findLast? {α : Type} (holds : α → Bool) (items : List α) : Option α :=
  items.reverse.find? holds

/-- The column that a name stands for in a sort list: that of the last equality filter with the
name as its key, or else the field of that name. -/
def sortColumn (definitions : Definitions) (relation name : String) : Column :=
  match findLast? (fun entry : Entry => entry.key = name) definitions.equalTo with
  | some entry => entry.target relation
  | none => ⟨relation, name⟩

/-- The names that equality filters give to columns, in order. -/
def sortNames (definitions : Definitions) (relation : String) : List (String × Column) :=
  definitions.equalTo.map fun entry => (entry.key, entry.target relation)

theorem fieldEntries_setEntries (definitions : Definitions) (kind other : FieldKind)
    (entries : List Entry) :
    (definitions.setEntries kind entries).fieldEntries other =
      if other = kind then entries else definitions.fieldEntries other := by
  cases kind <;> cases other <;> rfl

theorem isOn_setEntries (definitions : Definitions) (kind : FieldKind) (toggle : Toggle)
    (entries : List Entry) :
    (definitions.setEntries kind entries).isOn toggle = definitions.isOn toggle := by
  cases kind <;> cases toggle <;> rfl

theorem isOn_setToggle (definitions : Definitions) (toggle other : Toggle) (on : Bool) :
    (definitions.setToggle toggle on).isOn other =
      if other = toggle then on else definitions.isOn other := by
  cases toggle <;> cases other <;> rfl

theorem withToggle_eq_setToggle (definitions : Definitions) (toggle : Toggle) :
    definitions.withToggle toggle = definitions.setToggle toggle true := by
  cases toggle <;> rfl

theorem fieldEntries_setToggle (definitions : Definitions) (toggle : Toggle) (kind : FieldKind)
    (on : Bool) :
    (definitions.setToggle toggle on).fieldEntries kind = definitions.fieldEntries kind := by
  cases toggle <;> cases kind <;> rfl

end Definitions

end RequestFilter
