import RequestFilter.Number.Double

/-! # JSON values

Trees of JSON in which the members of an object keep their order.  A number is an
integer or a double, by the way it is written.
-/

namespace RequestFilter

/-- A JSON value. -/
inductive Json where
  /-- The absent value. -/
  | null
  /-- A truth value. -/
  | bool (value : Bool)
  /-- A number that is written as an integer. -/
  | integer (value : Int)
  /-- Any other number. -/
  | double (value : Double)
  /-- A text. -/
  | string (value : String)
  /-- Values in order. -/
  | array (items : List Json)
  /-- Named values in order. -/
  | object (members : List (String × Json))
deriving Inhabited

namespace Json

/-- Replaces the value under a name, or adds the name at the end. -/
def setMember (name : String) (value : Json) : List (String × Json) → List (String × Json)
  | [] => [(name, value)]
  | member :: rest =>
    if member.1 = name then (name, value) :: rest else member :: setMember name value rest

/-- The members in order of their first mention, each with the value of its last one. -/
def mergedMembers (members : List (String × Json)) : List (String × Json) :=
  members.foldl (fun merged member => setMember member.1 member.2 merged) []

/-- The value of a member. -/
def get? (members : List (String × Json)) (name : String) : Option Json :=
  members.lookup name

end Json

end RequestFilter
