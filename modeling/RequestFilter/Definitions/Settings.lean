import RequestFilter.Definitions.Reader
import RequestFilter.Definitions.Surroundings
import RequestFilter.Json.Path
import RequestFilter.Json.Reader
import RequestFilter.Text.LowerCase
import RequestFilter.Toml.Reader
import RequestFilter.Toml.ToJson

/-! # Definitions from settings

Settings come from a file, in the format that its extension names, and from
variables of the environment, which override parts of the file.  Both name the
places that they set by paths.  Since variables are texts, a flag may also be
written as a number or a word.
-/

namespace RequestFilter

namespace Settings

/-- The extensions of files that can be read. -/
def extensions : List String := ["toml", "json"]

/-- How many brackets may stand inside each other in a JSON document of settings. -/
def maxDepth : Nat := 127

/-- The members of the document that a file of a given extension holds. -/
def ofFile? (extension text : String) : Option (List (String × Json)) :=
  let text := String.ofList (Text.withoutMark text.toList)
  if extension = "toml" then Toml.ofText? .claimed text >>= Toml.settingMembers?
  else if extension = "json" then
    match Json.ofTextWithin? maxDepth text with
    | some (.object members) => some members
    | _ => none
  else none

/-- The members of the document at a path.  A directory stands for the file beside it that has its
name and an extension. -/
def read (surroundings : Surroundings) (path : String) :
    Except DefinitionsError (List (String × Json)) :=
  let members? : Except DefinitionsError (Option (List (String × Json))) :=
    match surroundings.find path with
    | .nothing => .error (.notFound path)
    | .file text => .ok (ofFile? (Surroundings.extension path) text)
    | .directory =>
      .ok (extensions.findSome? fun extension =>
        match (Surroundings.withExtension? path extension).map surroundings.find with
        | some (.file text) => ofFile? extension text
        | _ => none)
  members?.bind fun
    | some members => .ok members
    | none => .error .malformed

/-- The words that switch a flag on or off. -/
def wordFlag? (word : List Char) : Option Bool :=
  if word ∈ ["true", "on", "yes", "1"].map String.toList then some true
  else if word ∈ ["false", "off", "no", "0"].map String.toList then some false
  else none

/-- A flag of settings: a truth value, a number that is zero or not, or a word in any case. -/
def looseFlag? : Json → Option Bool
  | .bool value => some value
  | .integer value => some (value ≠ 0)
  | .double value => some !value.isZero
  | .string word => wordFlag? (Text.lowerCase word.toList)
  | _ => none

/-- A number written with or without a point and an exponent, or as a word. -/
def numberText? (text : List Char) : Option Double := do
  let (negative, unsigned) := Number.splitSign text
  let word := unsigned.map Char.toLower
  if word ∈ ["inf", "infinity"].map String.toList then some (.infinity negative)
  else if word = "nan".toList then some .noNumber
  else
    let (mantissa, exponent) ← Number.splitExponent? unsigned
    let (whole, fraction) := Number.splitPoint mantissa
    let digits := whole ++ fraction.getD []
    guard (Number.isDigits digits)
    some (Number.Decimal.mk negative whole (fraction.getD []) exponent).toDouble

/-- The value that a variable of the environment states: a truth value, a number or a text. -/
def ofVariable (text : String) : Json :=
  if Text.lowerCase text.toList = "true".toList then .bool true
  else if Text.lowerCase text.toList = "false".toList then .bool false
  else
    match (Number.readInt? text.toList).filter fun value => (Number.int64? value).isSome with
    | some value => .integer value
    | none =>
      match numberText? text.toList with
      | some number => .double number
      | none => .string text

/-- A text with points for the pairs of underscores in it. -/
def pointed : List Char → List Char
  | '_' :: '_' :: rest => '.' :: pointed rest
  | c :: rest => c :: pointed rest
  | [] => []

/-- The path that a variable overrides: what follows the prefix and two underscores in its name,
whatever the case of the letters, with two underscores for every point. -/
def overridden? (start name : String) : Option Json.Path :=
  let opening := Text.lowerCase (start ++ "__").toList
  let name := Text.lowerCase name.toList
  if opening.isPrefixOf name then some (Json.Path.ofText (pointed (name.drop opening.length)))
  else none

/-- The settings that a document states: its members name paths. -/
def ofMembers (members : List (String × Json)) : List (String × Json) :=
  members.foldl (fun settings (name, value) =>
    (Json.Path.ofText name.toList).write value settings) []

/-- Settings with the values that variables override, if a prefix for variables is given. -/
def override (start : Option String) (environment : List (String × String))
    (settings : List (String × Json)) : List (String × Json) :=
  match start with
  | none => settings
  | some start =>
    environment.foldl (fun settings (name, text) =>
      match overridden? start name with
      | some path => path.write (ofVariable text) settings
      | none => settings) settings

end Settings

/-- The definitions that the file at a path and the variables under a prefix state. -/
def Definitions.load (surroundings : Surroundings) (path : String) (start : Option String) :
    Except DefinitionsError Definitions := do
  let members ← Settings.read surroundings path
  let settings := Settings.override start surroundings.environment (Settings.ofMembers members)
  readMembers Settings.looseFlag? empty (Toml.sortedMembers settings)

end RequestFilter
