import RequestFilter.Definitions.Basic

/-! # Faults of definitions

What can be wrong with definitions: with one entry of a document, with the
document as a whole, or with definitions that were read but cannot be used.
Within one kind no two entries may have one key; between kinds they may.
-/

namespace RequestFilter

/-- What can be wrong with an entry written as a table of texts. -/
inductive EntryFault where
  /-- The table does not say which key it is about. -/
  | missingKey
  /-- The table has a name that means nothing. -/
  | unknownField (name : String)
deriving DecidableEq, Repr

/-- The complaint about an entry. -/
def EntryFault.message : EntryFault → String
  | .missingKey => "filter entry table is missing `key`"
  | .unknownField name => "unknown field `" ++ name ++ "` in filter entry table"

/-- What can be wrong with definitions. -/
inductive DefinitionsError where
  /-- No form of keys is accepted, so no filter could ever match. -/
  | noKeyForm
  /-- Two entries of one kind have one key. -/
  | duplicateKey (kind : Kind) (key : String)
  /-- An entry that is a table of texts is faulty. -/
  | entry (fault : EntryFault)
  /-- The document does not have the shape of definitions. -/
  | malformed
  /-- There is no file of this name. -/
  | notFound (path : String)
deriving DecidableEq, Repr

/-- The complaint about definitions, where there is more to say than that the document is
malformed. -/
def DefinitionsError.message? : DefinitionsError → Option String
  | .noKeyForm =>
    some "filter definitions enable neither atom keys nor string keys, no filter could ever match"
  | .duplicateKey kind key =>
    some ("duplicate filter key '" ++ key ++ "' in " ++ kind.name)
  | .entry fault => some fault.message
  | .malformed => none
  | .notFound path => some ("IO error: filter definitions not found: " ++ path)

/-- The first text of a list that also stands before it. -/
def firstRepeated? : (seen : List String) → List String → Option String
  | _, [] => none
  | seen, text :: rest => if text ∈ seen then some text else firstRepeated? (text :: seen) rest

/-- The first key of a kind that an earlier entry of the kind has too. -/
def Definitions.repeatedKey? (definitions : Definitions) (kind : Kind) : Option String :=
  firstRepeated? [] ((definitions.entries kind).map Entry.key)

/-- Refuses the first repeated key of the first kind, in dispatch order, that has one. -/
def Definitions.validate (definitions : Definitions) : Except DefinitionsError Unit :=
  match Kind.dispatchOrder.findSome? fun kind =>
      (definitions.repeatedKey? kind).map (DefinitionsError.duplicateKey kind) with
  | some error => .error error
  | none => .ok ()

end RequestFilter
