import RequestFilter.Definitions.Basic
import RequestFilter.Definitions.Validity
import RequestFilter.Key

/-! # Key policies

Which forms of keys select a filter: atoms, texts or both, but never neither.
-/

namespace RequestFilter

/-- The accepted forms of keys. -/
structure KeyPolicy where
  /-- Atoms are accepted. -/
  atoms : Bool
  /-- Texts are accepted. -/
  texts : Bool
  /-- Some form is accepted. -/
  some_form : atoms || texts
deriving DecidableEq

namespace KeyPolicy

/-- The policy that definitions state. -/
def ofDefinitions (definitions : Definitions) : Except DefinitionsError KeyPolicy :=
  if some_form : definitions.atomKeys || definitions.stringKeys then
    .ok ⟨definitions.atomKeys, definitions.stringKeys, some_form⟩
  else .error .noKeyForm

/-- The keys that select a filter of a given name. -/
def acceptedKeys (policy : KeyPolicy) (name : String) : List Key :=
  (if policy.atoms then [.atom name] else []) ++ (if policy.texts then [.text name] else [])

/-- The policy accepts the form of a key. -/
def accepts (policy : KeyPolicy) : Key → Bool
  | .atom _ => policy.atoms
  | .text _ => policy.texts

/-- A key selects a filter when its form is accepted and its name is the filter's. -/
theorem mem_acceptedKeys {policy : KeyPolicy} {name : String} {key : Key} :
    key ∈ policy.acceptedKeys name ↔ policy.accepts key = true ∧ key.name = name := by
  obtain ⟨atoms, texts, some_form⟩ := policy
  cases atoms <;> cases texts <;> cases key <;>
    simp [acceptedKeys, accepts, Key.name]

end KeyPolicy

end RequestFilter
