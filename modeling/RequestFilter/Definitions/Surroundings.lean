/-! # Files and variables

What definitions may be loaded from: the files of a system, and the variables of
the environment.  A path that starts with a slash leads from the root, and any
other from the current directory.  It leads through directories only, so nothing
may follow the name of a file, not even a slash.
-/

namespace RequestFilter

/-- Files by their paths and variables of the environment by their names. -/
structure Surroundings where
  /-- The path from the root to the current directory. -/
  directory : String := "/"
  /-- The files with their texts. -/
  files : List (String × String) := []
  /-- The variables with their values. -/
  environment : List (String × String) := []

namespace Surroundings

/-- The name of a file or a directory. -/
abbrev Name := List Char

/-- The parts of a path between its slashes. -/
def segments : List Char → List Name
  | [] => [[]]
  | '/' :: rest => [] :: segments rest
  | c :: rest =>
    match segments rest with
    | first :: others => (c :: first) :: others
    | [] => [[c]]

/-- A part of a path that stays where it is. -/
def stays (segment : Name) : Bool :=
  segment = [] || segment = ['.']

/-- The names on the way from the root, after one more part of a path: two points lead back, and
from the root nowhere else. -/
def goOn (names : List Name) (segment : Name) : List Name :=
  if stays segment then names
  else if segment = ['.', '.'] then names.dropLast
  else names ++ [segment]

/-- The names on the way from the root to the current directory. -/
def current (surroundings : Surroundings) : List Name :=
  (segments surroundings.directory.toList).foldl goOn []

/-- The names on the way from the root to where a path starts. -/
def start (surroundings : Surroundings) (path : String) : List Name :=
  if path.toList.head? = some '/' then [] else surroundings.current

/-- The names on the way from the root to a file. -/
def namesOf (surroundings : Surroundings) (path : String) : List Name :=
  (segments path.toList).foldl goOn (surroundings.start path)

/-- What stands at the end of a path. -/
inductive Found where
  /-- A file with its text. -/
  | file (text : String)
  /-- A directory. -/
  | directory
  /-- Nothing. -/
  | nothing
deriving DecidableEq, Repr

/-- The text of the file under some names. -/
def fileAt? (surroundings : Surroundings) (names : List Name) : Option String :=
  (surroundings.files.find? fun file => surroundings.namesOf file.1 = names).map Prod.snd

/-- There is a directory under some names when the current directory or a file is below them. -/
def hasDirectory (surroundings : Surroundings) (names : List Name) : Bool :=
  names.isPrefixOf surroundings.current ||
    surroundings.files.any fun file =>
      names.isPrefixOf (surroundings.namesOf file.1) && surroundings.namesOf file.1 ≠ names

/-- What the parts of a path lead to from the directory under some names. -/
def follow (surroundings : Surroundings) : List Name → List Name → Found
  | _, [] => .directory
  | names, segment :: rest =>
    let next := goOn names segment
    if surroundings.hasDirectory next then surroundings.follow next rest
    else
      match rest, surroundings.fileAt? next with
      | [], some text => .file text
      | _, _ => .nothing

/-- What stands at a path; the empty path leads nowhere. -/
def find (surroundings : Surroundings) (path : String) : Found :=
  if path = "" then .nothing
  else surroundings.follow (surroundings.start path) (segments path.toList)

/-- What follows the last point in the last name of a path, if anything stands before the point. -/
def extension (path : String) : String :=
  match ((segments path.toList).filter (!stays ·)).getLast? with
  | none => ""
  | some name =>
    let reversed := name.reverse
    match reversed.dropWhile (· ≠ '.') with
    | _ :: _ :: _ => String.ofList (reversed.takeWhile (· ≠ '.')).reverse
    | _ => ""

/-- The path with an extension after its last name; nothing if it ends in no name. -/
def withExtension? (path extension : String) : Option String :=
  match (segments path.toList).reverse.dropWhile stays with
  | [] => none
  | last :: before =>
    if last = ['.', '.'] then none
    else
      some (String.ofList
        (List.intercalate ['/'] (before.reverse ++ [last ++ '.' :: extension.toList])))

end Surroundings

end RequestFilter
