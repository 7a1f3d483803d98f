import RequestFilter.Json.Basic
import RequestFilter.Number.Digits
import RequestFilter.Toml.Basic

/-! # TOML as JSON

Definitions are read from JSON values, and a TOML document becomes one in two
ways.  A document with types keeps its moments apart from texts: a moment stands
as a table of its own, and a number without a value as null, neither of which any
setting accepts.  A document of settings takes moments as texts, and has no room
for integers that 64 bits do not hold, nor for numbers without a value.
-/

namespace RequestFilter.Toml

/-- Members in the order of their names, by code points. -/
def sortedMembers (members : List (String × Json)) : List (String × Json) :=
  members.mergeSort fun first second => decide ¬second.1 < first.1

mutual

/-- A value of a document with types. -/
def typedJson : Toml → Json
  | .text value => .string value
  | .integer value => .integer value
  | .double value => .double value
  | .valueless => .null
  | .flag value => .bool value
  | .moment value => .object [("moment", .string value)]
  | .array items => .array (typedItems items)
  | .table _ members => .object (sortedMembers (typedMembers members))
  | .rows tables => .array (typedItems tables)

/-- The items of an array in a document with types. -/
def typedItems : List Toml → List Json
  | [] => []
  | item :: rest => typedJson item :: typedItems rest

/-- The members of a table in a document with types. -/
def typedMembers : List (String × Toml) → List (String × Json)
  | [] => []
  | (name, value) :: rest => (name, typedJson value) :: typedMembers rest

end

mutual

/-- A value of a document of settings. -/
def settingJson? : Toml → Option Json
  | .text value => some (.string value)
  | .integer value => if (Number.int64? value).isSome then some (.integer value) else none
  | .double value => some (.double value)
  | .valueless => none
  | .flag value => some (.bool value)
  | .moment value => some (.string value)
  | .array items => (settingItems? items).map .array
  | .table _ members => (settingMembers? members).map .object
  | .rows tables => (settingItems? tables).map .array

/-- The items of an array in a document of settings. -/
def settingItems? : List Toml → Option (List Json)
  | [] => some []
  | item :: rest => do
    let first ← settingJson? item
    let others ← settingItems? rest
    some (first :: others)

/-- The members of a table in a document of settings. -/
def settingMembers? : List (String × Toml) → Option (List (String × Json))
  | [] => some []
  | (name, value) :: rest => do
    let first ← settingJson? value
    let others ← settingMembers? rest
    some ((name, first) :: others)

end

end RequestFilter.Toml
