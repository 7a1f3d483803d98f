import RequestFilter.Json.Basic
import RequestFilter.Number.Digits
import RequestFilter.Text.Blank
import RequestFilter.Text.Reading

/-! # Paths into JSON values

A path names a place in an object: a member, and from there members of members
and items of arrays, as in `roles[0].key`.  Writing at a path makes what is
missing on the way and replaces what is in the way; an object is written over an
object member by member.
-/

namespace RequestFilter.Json

open Text

/-- One step from a value into a part of it. -/
inductive Step where
  /-- Into the member with a name. -/
  | member (name : String)
  /-- Into the item at a position, which counts from the end when it is negative. -/
  | item (position : Int)
deriving DecidableEq, Repr

/-- A place in an object. -/
structure Path where
  /-- The name of the member that the path starts at. -/
  name : String
  /-- The steps from there. -/
  steps : List Step
deriving DecidableEq, Repr

/-- The characters of names in paths. -/
def isPathChar (c : Char) : Bool :=
  c.isAlphanum || c = '_' || c = '-'

/-- A position between two brackets, with blanks around it or without. -/
def position? (text : List Char) : Option Int :=
  let value := match trimWhile isLineBlank text with
    | '-' :: digits => (Number.readNat? digits).map fun n => -(n : Int)
    | digits => (Number.readNat? digits).map Int.ofNat
  value.filter fun position => (Number.int64? position).isSome

/-- Reads steps up to the end of a text. -/
def readSteps (text : List Char) : Option (List Step) :=
  match text with
  | [] => some []
  | '.' :: rest =>
    if rest.takeWhile isPathChar = [] then none
    else do
      let steps ← readSteps (rest.dropWhile isPathChar)
      some (.member (String.ofList (rest.takeWhile isPathChar)) :: steps)
  | '[' :: rest =>
    match close : rest.dropWhile (· ≠ ']') with
    | _ :: last =>
      have := length_lt_of_dropWhile_eq_cons close
      do
        let position ← position? (rest.takeWhile (· ≠ ']'))
        let steps ← readSteps last
        some (.item position :: steps)
    | [] => none
  | _ => none
termination_by text.length
decreasing_by
  · have := length_dropWhile_le isPathChar rest
    simp only [List.length_cons]; omega
  · simp only [List.length_cons]; omega

/-- The path that a text states.  A text that states none is the name of a member as it stands. -/
def Path.ofText (text : List Char) : Path :=
  let name := text.takeWhile isPathChar
  match readSteps (text.dropWhile isPathChar) with
  | some steps => if name = [] then ⟨String.ofList text, []⟩ else ⟨String.ofList name, steps⟩
  | none => ⟨String.ofList text, []⟩

/-- The members of an object; any other value has none. -/
def membersOf : Json → List (String × Json)
  | .object members => members
  | _ => []

/-- The items of an array; any other value has none. -/
def itemsOf : Json → List Json
  | .array items => items
  | _ => []

/-- Items with room for a position, and its index among them: absent values are added at the end,
or in front when the position counts from the end. -/
def makeRoom (position : Int) (items : List Json) : List Json × Nat :=
  match position with
  | .ofNat index => (items ++ List.replicate (index + 1 - items.length) .null, index)
  | .negSucc back =>
    (List.replicate (back + 1 - items.length) .null ++ items, items.length - (back + 1))

/-- Changes the value that steps lead to. -/
def changeAt (change : Json → Json) : List Step → Json → Json
  | [], json => change json
  | .member name :: steps, json =>
    .object (setMember name (changeAt change steps ((get? json.membersOf name).getD .null))
      json.membersOf)
  | .item position :: steps, json =>
    let (items, index) := makeRoom position json.itemsOf
    .array (items.modify index (changeAt change steps))

mutual

/-- A value written over another one. -/
def overlay (old : Json) : Json → Json
  | .object members => .object (overlayMembers old.membersOf members)
  | value => value

/-- The members of an object written over those of another one. -/
def overlayMembers : List (String × Json) → List (String × Json) → List (String × Json)
  | old, [] => old
  | old, (name, value) :: rest =>
    overlayMembers (setMember name (overlay ((get? old name).getD .null) value) old) rest

end

/-- Writes a value at a path into the members of an object. -/
def Path.write (path : Path) (value : Json) (members : List (String × Json)) :
    List (String × Json) :=
  setMember path.name
    (changeAt (fun old => overlay old value) path.steps ((get? members path.name).getD .null)) members

end RequestFilter.Json
