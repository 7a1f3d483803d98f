import RequestFilter.Definitions.Basic
import RequestFilter.Directive

/-! # Documentation of definitions

A markdown text with one section for every kind that definitions enable, and in
it one line for every key, sorted.  A second set of definitions adds the filters
that the caller's own rules answer.
-/

namespace RequestFilter

namespace Kind

/-- The heading of the section of a kind. -/
def heading : Kind → String
  | .field .equalTo => "Equal to"
  | .field .equalToAny => "Equal to any"
  | .field .smallerThan => "Smaller than"
  | .field .greaterOrEqual => "Greater than or equal to"
  | .field .startsWith => "String starts with"
  | .field .contains => "String contains"
  | .field .listContains => "List contains"
  | .field .listContainsAny => "List contains any"
  | .field .listContainsAll => "List contains all"
  | .toggle .orderBy => "Order by"
  | .toggle .limit => "Limit"
  | .toggle .offset => "Offset"

/-- What the filters of a kind do. -/
def description : Kind → String
  | .field .equalTo => "Keeps rows where the field equals the given value."
  | .field .equalToAny =>
    "Keeps rows where the field equals any value of the given list. Requires a list."
  | .field .smallerThan => "Keeps rows where the field is smaller than the given value."
  | .field .greaterOrEqual =>
    "Keeps rows where the field is greater than or equal to the given value."
  | .field .startsWith =>
    "Keeps rows where the field starts with the given string, ignoring case."
  | .field .contains => "Keeps rows where the field contains the given string, ignoring case."
  | .field .listContains => "Keeps rows where the list field contains the given value."
  | .field .listContainsAny =>
    "Keeps rows where the list field contains any value of the given list. Requires a list."
  | .field .listContainsAll =>
    "Keeps rows where the list field contains every value of the given list. Requires a list."
  | .toggle .orderBy =>
    "Sorts by a list of fields. Each entry is a field name (ascending) or a " ++
      "`direction: field` pair; `equal to` filter keys may be used as field names. " ++
      "Entries sort in the order given."
  | .toggle .limit => "Returns at most the given number of rows."
  | .toggle .offset => "Skips the given number of rows."

end Kind

namespace Documentation

/-- A text set as code. -/
def code (text : String) : String :=
  "`" ++ text ++ "`"

/-- The line of an entry: its key, and its field where that is written out. -/
def entryLine (entry : Entry) : String :=
  "* " ++ code entry.key ++
    (match entry.documentedField? with
      | some field => " (" ++ code field ++ ")"
      | none => "") ++ "\n"

/-- A section with its heading, its description and what follows them. -/
def sectionText (kind : Kind) (body : String) : String :=
  "### " ++ kind.heading ++ "\n\n" ++ kind.description ++ "\n\n" ++ body

/-- The line that lists the directions of sorting. -/
def directionsLine : String :=
  "\nDirections: " ++ ", ".intercalate (Direction.all.map fun direction => code direction.name) ++
    ".\n"

/-- The body of the section of a kind that is switched on as a whole. -/
def toggleBody (toggle : Toggle) : String :=
  "* " ++ code toggle.name ++ "\n" ++
    (match toggle with
      | .orderBy => directionsLine
      | .limit | .offset => "")

/-- Entries sorted by their keys, equal keys in the order given. -/
def sortedEntries (entries : List Entry) : List Entry :=
  entries.mergeSort fun first second => decide ¬second.key < first.key

/-- The section of a kind, if definitions or their additions enable it. -/
def section? (definitions extras : Definitions) (kind : Kind) : Option String :=
  match kind with
  | .toggle toggle =>
    if definitions.isOn toggle || extras.isOn toggle then
      some (sectionText kind (toggleBody toggle))
    else none
  | .field which =>
    match sortedEntries (definitions.fieldEntries which ++ extras.fieldEntries which) with
    | [] => none
    | entries => some (sectionText kind (String.join (entries.map entryLine)))

end Documentation

/-- The documentation of definitions and of the additions of the caller. -/
def Definitions.documentation (definitions extras : Definitions) : String :=
  "\n".intercalate
    (Kind.documentationOrder.filterMap (Documentation.section? definitions extras))

end RequestFilter
