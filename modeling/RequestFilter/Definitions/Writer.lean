import RequestFilter.Definitions.Reader

/-! # Writing definitions

Definitions are written as an object of all settings in their order, each entry
in its shortest shape.
-/

namespace RequestFilter

/-- An entry as a document states it. -/
def Entry.toJson : Entry → Json
  | .bare key => .string key
  | .aliased key field => .array [.string key, .string field]
  | .qualified key relation field =>
    .array [.string key, .array [.string relation, .string field]]

namespace Definitions

/-- The value of one setting. -/
def settingJson (definitions : Definitions) : Setting → Json
  | .atomKeys => .bool definitions.atomKeys
  | .stringKeys => .bool definitions.stringKeys
  | .toggle which => .bool (definitions.isOn which)
  | .entries kind => .array ((definitions.fieldEntries kind).map Entry.toJson)

/-- Definitions as a document states them. -/
def toJson (definitions : Definitions) : Json :=
  .object (Setting.all.map fun setting => (setting.name, definitions.settingJson setting))

end Definitions

end RequestFilter
