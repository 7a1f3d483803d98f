import RequestFilter.Directive

/-! # Definition entries

An entry lets one key restrict one column.  It names the field only where the
field differs from the key, and the relation only where it is not the default
one.
-/

namespace RequestFilter

/-- One configured filter: a key and the column it restricts. -/
inductive Entry where
  /-- The key is also the field, on the default relation. -/
  | bare (key : String)
  /-- The field has a name of its own, on the default relation. -/
  | aliased (key field : String)
  /-- The field lies on a relation of its own. -/
  | qualified (key relation field : String)
deriving DecidableEq, Repr, Inhabited

namespace Entry

/-- The key by which requests name the filter. -/
def key : Entry → String
  | .bare key => key
  | .aliased key _ => key
  | .qualified key _ _ => key

/-- The column the filter restricts, given the default relation. -/
def target (entry : Entry) (default : String) : Column :=
  match entry with
  | .bare key => ⟨default, key⟩
  | .aliased _ field => ⟨default, field⟩
  | .qualified _ relation field => ⟨relation, field⟩

/-- The field as the documentation shows it beside the key, where it is written out. -/
def documentedField? : Entry → Option String
  | .bare _ => none
  | .aliased _ field => some field
  | .qualified _ relation field => some (relation ++ "." ++ field)

end Entry

end RequestFilter
