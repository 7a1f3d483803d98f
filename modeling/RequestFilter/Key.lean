import RequestFilter.Text.Quoted

/-! # Filter keys

A request names each of its filters by a key.  Keys made in code are atoms and
keys that arrive as text are texts; the same name in the two forms is two keys.
-/

namespace RequestFilter

/-- The key of a filter in a request. -/
inductive Key where
  /-- A key made in code. -/
  | atom (name : String)
  /-- A key that arrived as text. -/
  | text (name : String)
deriving DecidableEq, Repr, Inhabited

namespace Key

/-- The name of a key, whatever its form. -/
def name : Key → String
  | .atom name => name
  | .text name => name

/-- A key in messages: an atom after a colon, a text between quotes. -/
def display : Key → String
  | .atom name => ":" ++ name
  | .text name => "\"" ++ name ++ "\""

/-- A key in diagnostics. -/
def inspect : Key → String
  | .atom name => "Atom(" ++ Text.quoted name ++ ")"
  | .text name => "Text(" ++ Text.quoted name ++ ")"

end Key

end RequestFilter
