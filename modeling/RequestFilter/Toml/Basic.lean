import RequestFilter.Number.Double

/-! # TOML documents

The values of TOML and the table that the statements of a document build.  A
table remembers how it came to be, because that decides what may still be added
to it: an inline table is closed, a table made by dotted keys grows by dotted
keys and by headers below it, and a table that a header only passed through may
still get its own header.  A dotted key may pass through such a table too; what
the table is afterwards is left to the reader of the document.
-/

namespace RequestFilter

/-- How a table came to be. -/
inductive Toml.Origin where
  /-- Between braces. -/
  | inline
  /-- By a header of its own. -/
  | header
  /-- By a header of a table below it. -/
  | implied
  /-- By a dotted key. -/
  | dotted
deriving DecidableEq, Repr

/-- A TOML value. -/
inductive Toml where
  /-- A text. -/
  | text (value : String)
  /-- An integer. -/
  | integer (value : Int)
  /-- A floating-point number. -/
  | double (value : Double)
  /-- A number without a value: digits that are missing or that are none of its base, or a
  floating-point number beyond the largest double. -/
  | valueless
  /-- A truth value. -/
  | flag (value : Bool)
  /-- A date, a time of day, or both, as normalized text. -/
  | moment (text : String)
  /-- Values in order. -/
  | array (items : List Toml)
  /-- Named values in order. -/
  | table (origin : Toml.Origin) (members : List (String × Toml))
  /-- Tables in order, each under its own header. -/
  | rows (tables : List Toml)
deriving Inhabited

namespace Toml

/-- The named values of a table. -/
abbrev Members := List (String × Toml)

/-- A dotted key: the names before the last one, and the last one. -/
structure Path where
  /-- The names of the tables on the way. -/
  parents : List String
  /-- The name in the innermost table. -/
  name : String
deriving Repr

/-- All names of a path. -/
def Path.names (path : Path) : List String :=
  path.parents ++ [path.name]

/-- One statement of a document. -/
inductive Statement where
  /-- A value under a key. -/
  | pair (path : Path) (value : Toml)
  /-- The header of a table. -/
  | header (path : Path)
  /-- The header of one more table of an array. -/
  | row (path : Path)

/-- Replaces the value under a name that is there. -/
def replaceMember (name : String) (value : Toml) (members : Members) : Members :=
  members.map fun member => if member.1 = name then (name, value) else member

/-- What a table that only headers implied is to the dotted keys that pass through it. -/
inductive Implied where
  /-- It stays what it is, and no dotted key ends in it. -/
  | kept
  /-- It becomes a table of dotted keys. -/
  | claimed
deriving DecidableEq, Repr

/-- What leads to a table. -/
inductive Way where
  /-- The names of a header. -/
  | header
  /-- The names of a dotted key. -/
  | key (implied : Implied)
deriving DecidableEq, Repr

/-- How the tables that a way finds missing come to be. -/
def Way.origin : Way → Origin
  | .header => .implied
  | .key _ => .dotted

/-- What a table is after a way has entered it, passing through it or ending in it; `none` if the
way may not enter it.  A header enters every table that is not closed.  A dotted key does not enter
tables with a header of their own, and ends only in tables of dotted keys. -/
def Origin.entered? (way : Way) (passes : Bool) : Origin → Option Origin
  | .inline => none
  | .header => if way = .header then some .header else none
  | .dotted => some .dotted
  | .implied =>
    match way with
    | .header => some .implied
    | .key .claimed => some .dotted
    | .key .kept => if passes then some .implied else none

/-- Changes the table at the end of a way, making the tables on the way that are missing.  An array
of tables stands for its last one, through which every way may pass. -/
def changeAt (way : Way) (change : Members → Option Members) :
    List String → Members → Option Members
  | [], members => change members
  | name :: names, members =>
    match members.lookup name with
    | none => do
      let inner ← changeAt way change names []
      some (members ++ [(name, .table way.origin inner)])
    | some (.table origin inner) => do
      let entered ← origin.entered? way (names ≠ [])
      let changed ← changeAt way change names inner
      some (replaceMember name (.table entered changed) members)
    | some (.rows tables) =>
      match tables.getLast? with
      | some (.table origin inner) =>
        if way = .header ∨ names ≠ [] then do
          let changed ← changeAt way change names inner
          some (replaceMember name (.rows (tables.dropLast ++ [.table origin changed])) members)
        else none
      | _ => none
    | some _ => none

/-- Adds a value under a name that is still free. -/
def addMember (name : String) (value : Toml) (members : Members) : Option Members :=
  match members.lookup name with
  | none => some (members ++ [(name, value)])
  | some _ => none

/-- Adds a value under a dotted key. -/
def addPair (implied : Implied) (path : Path) (value : Toml) (members : Members) :
    Option Members :=
  changeAt (.key implied) (addMember path.name value) path.parents members

/-- Opens a table under its own header; a table that was only passed through so far keeps what it
has. -/
def openTable (name : String) (members : Members) : Option Members :=
  match members.lookup name with
  | none => some (members ++ [(name, .table .header [])])
  | some (.table .implied inner) => some (replaceMember name (.table .header inner) members)
  | some _ => none

/-- Adds one more table to an array of tables. -/
def addRow (name : String) (members : Members) : Option Members :=
  match members.lookup name with
  | none => some (members ++ [(name, .rows [.table .header []])])
  | some (.rows tables) =>
    some (replaceMember name (.rows (tables ++ [.table .header []])) members)
  | some _ => none

/-- A document so far, and the names of the header that is in force. -/
structure Draft where
  /-- The table of the whole document. -/
  members : Members
  /-- The names of the table that pairs go into. -/
  current : List String

/-- Adds one statement to a document. -/
def Draft.add (implied : Implied) (draft : Draft) : Statement → Option Draft
  | .pair path value => do
    let members ← changeAt .header (addPair implied path value) draft.current draft.members
    some ⟨members, draft.current⟩
  | .header path => do
    let members ← changeAt .header (openTable path.name) path.parents draft.members
    some ⟨members, path.names⟩
  | .row path => do
    let members ← changeAt .header (addRow path.name) path.parents draft.members
    some ⟨members, path.names⟩

/-- The table that statements build. -/
def ofStatements? (implied : Implied) (statements : List Statement) : Option Members :=
  (statements.foldlM (Draft.add implied) ⟨[], []⟩).map Draft.members

/-- The closed table that the pairs between two braces build.  No header implies a table in it. -/
def inlineTable? (pairs : List (Path × Toml)) : Option Toml :=
  (pairs.foldlM (fun members pair => addPair .kept pair.1 pair.2 members) []).map
    (.table .inline)

end Toml

end RequestFilter
