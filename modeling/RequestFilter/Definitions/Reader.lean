import RequestFilter.Definitions.Validity
import RequestFilter.Json.Basic
import RequestFilter.Toml.Reader
import RequestFilter.Toml.ToJson

/-! # Reading definitions

Definitions are read from an object of settings, or from an array of the
settings in their order.  An entry is a key, a key with a field, a key with a
relation and a field, or a table with `key`, `field` and `relation`.  Settings
are read in document order and the first fault is reported.  What counts as a
flag differs between documents, so the reader of flags is a parameter.  A TOML
document states definitions with types: flags are truth values, and its settings
are read in the order of their names.
-/

namespace RequestFilter

/-- One setting of the definitions. -/
inductive Setting where
  /-- Whether keys made in code are accepted. -/
  | atomKeys
  /-- Whether keys that arrive as text are accepted. -/
  | stringKeys
  /-- Whether a kind is switched on. -/
  | toggle (which : Toggle)
  /-- The entries of a kind. -/
  | entries (kind : FieldKind)
deriving DecidableEq, Repr

namespace Setting

/-- The settings in their order. -/
def all : List Setting :=
  [.atomKeys, .stringKeys] ++ Toggle.all.map .toggle ++ FieldKind.all.map .entries

/-- The name of a setting in documents. -/
def name : Setting → String
  | .atomKeys => "atom_keys"
  | .stringKeys => "string_keys"
  | .toggle which => which.name
  | .entries kind => kind.name

/-- The setting with a given name. -/
def ofName? (text : String) : Option Setting :=
  all.find? fun setting => setting.name = text

end Setting

namespace Entry

/-- The least of some texts, by code points. -/
def least? : List String → Option String
  | [] => none
  | first :: rest => some (rest.foldl (fun least text => if text < least then text else least) first)

/-- The entry that a table of texts states. -/
def ofTable (table : List (String × String)) : Except EntryFault Entry :=
  match table.lookup "key" with
  | none => .error .missingKey
  | some key =>
    match least? ((table.map Prod.fst).filter (· ∉ ["key", "field", "relation"])) with
    | some unknown => .error (.unknownField unknown)
    | none =>
      match table.lookup "relation", table.lookup "field" with
      | some relation, field => .ok (.qualified key relation (field.getD key))
      | none, some field => .ok (.aliased key field)
      | none, none => .ok (.bare key)

/-- The members of an object if all of them are texts. -/
def texts? : List (String × Json) → Option (List (String × String))
  | [] => some []
  | (name, .string text) :: rest => (texts? rest).map ((name, text) :: ·)
  | _ :: _ => none

/-- Reads an entry in any of its shapes. -/
def ofJson : Json → Except DefinitionsError Entry
  | .string key => .ok (.bare key)
  | .array [.string key, .string field] => .ok (.aliased key field)
  | .array [.string key, .array [.string relation, .string field]] =>
    .ok (.qualified key relation field)
  | .object members =>
    match texts? members with
    | some table => (ofTable table).mapError .entry
    | none => .error .malformed
  | _ => .error .malformed

end Entry

namespace Definitions

/-- A flag of a document with types: a truth value and nothing else. -/
def strictFlag? : Json → Option Bool
  | .bool value => some value
  | _ => none

/-- Reads a flag, or refuses the document. -/
def readFlag (flag? : Json → Option Bool) (json : Json) : Except DefinitionsError Bool :=
  match flag? json with
  | some value => .ok value
  | none => .error .malformed

/-- Reads the entries of a kind. -/
def readEntries : Json → Except DefinitionsError (List Entry)
  | .array items => items.mapM Entry.ofJson
  | _ => .error .malformed

/-- Reads the value of one setting into definitions. -/
def readSetting (flag? : Json → Option Bool) (definitions : Definitions) (setting : Setting)
    (json : Json) : Except DefinitionsError Definitions :=
  match setting with
  | .atomKeys => (readFlag flag? json).map fun on => { definitions with atomKeys := on }
  | .stringKeys => (readFlag flag? json).map fun on => { definitions with stringKeys := on }
  | .toggle which => (readFlag flag? json).map (definitions.setToggle which)
  | .entries kind => (readEntries json).map (definitions.setEntries kind)

/-- Reads named settings one after the other into definitions. -/
def readMembers (flag? : Json → Option Bool) :
    Definitions → List (String × Json) → Except DefinitionsError Definitions
  | definitions, [] => .ok definitions
  | definitions, (name, json) :: rest =>
    match Setting.ofName? name with
    | some setting => do readMembers flag? (← readSetting flag? definitions setting json) rest
    | none => .error .malformed

/-- Reads the values of settings in their order into definitions. -/
def readItems (flag? : Json → Option Bool) :
    Definitions → List Setting → List Json → Except DefinitionsError Definitions
  | definitions, _, [] => .ok definitions
  | definitions, setting :: settings, json :: rest => do
    readItems flag? (← readSetting flag? definitions setting json) settings rest
  | _, [], _ :: _ => .error .malformed

/-- Reads definitions from an object of settings or an array of their values. -/
def ofJson : Json → Except DefinitionsError Definitions
  | .object members => readMembers strictFlag? empty members
  | .array items => readItems strictFlag? empty Setting.all items
  | _ => .error .malformed

/-- The definitions that a TOML document states. -/
def ofToml (text : String) : Except DefinitionsError Definitions :=
  match Toml.ofText? .kept text with
  | some members => readMembers strictFlag? empty (Toml.sortedMembers (Toml.typedMembers members))
  | none => .error .malformed

end Definitions

end RequestFilter
