import RequestFilter.Json.Writer
import RequestFilter.Key
import RequestFilter.Value

/-! # Requests

A request is a list of filters in the order in which they are applied, no two of
them under one key.  Setting a key again replaces its value and keeps its place.
-/

namespace RequestFilter

/-- Filters under distinct keys, in order. -/
structure Request where
  /-- The filters as keys with values. -/
  entries : List (Key × Value)
  /-- No key occurs twice. -/
  distinct : (entries.map Prod.fst).Nodup

namespace Request

/-- The request without filters. -/
def empty : Request := ⟨[], List.nodup_nil⟩

instance : Inhabited Request := ⟨empty⟩

/-- Replaces the value under a key where it stands, or adds the key at the end. -/
def setEntry (key : Key) (value : Value) : List (Key × Value) → List (Key × Value)
  | [] => [(key, value)]
  | entry :: rest =>
    if entry.1 = key then (key, value) :: rest else entry :: setEntry key value rest

/-- Setting an entry keeps the keys, and adds its own at the end if it is new. -/
theorem keys_setEntry (key : Key) (value : Value) (entries : List (Key × Value)) :
    (setEntry key value entries).map Prod.fst =
      if key ∈ entries.map Prod.fst then entries.map Prod.fst
      else entries.map Prod.fst ++ [key] := by
  induction entries with
  | nil => simp only [setEntry, List.map_cons, List.map_nil, List.not_mem_nil, if_false,
      List.nil_append]
  | cons entry rest step =>
    by_cases same : entry.1 = key
    · subst same
      simp only [setEntry, if_true, List.map_cons, List.mem_cons, true_or]
    · have other : ¬key = entry.1 := fun equal => same equal.symm
      simp only [setEntry, same, if_false, List.map_cons, step, List.mem_cons, other, false_or]
      split <;> simp only [List.cons_append]

/-- Sets the value under a key. -/
def insert (request : Request) (key : Key) (value : Value) : Request where
  entries := setEntry key value request.entries
  distinct := by
    rw [keys_setEntry]
    split
    · exact request.distinct
    · rename_i absent
      refine List.nodup_append.mpr ⟨request.distinct, List.pairwise_singleton _ _, ?_⟩
      intro first first_mem second second_mem same
      rw [List.mem_singleton] at second_mem
      exact absent (second_mem ▸ same ▸ first_mem)

/-- The request with the given filters set one after the other. -/
def ofList (entries : List (Key × Value)) : Request :=
  entries.foldl (fun request entry => request.insert entry.1 entry.2) empty

/-- The value under a key. -/
def get? (request : Request) (key : Key) : Option Value :=
  request.entries.lookup key

/-- The keys in order. -/
def keys (request : Request) : List Key :=
  request.entries.map Prod.fst

/-- The number of filters. -/
def size (request : Request) : Nat :=
  request.entries.length

/-- Why a JSON value is no request. -/
inductive ReadError where
  /-- It is not an object. -/
  | notObject (json : Json)
  /-- The value under a name stands for no filter value. -/
  | unsupported (name : String) (json : Json)

/-- What is wrong with the value of one filter; for a value that is no object there is no such
filter. -/
def ReadError.reason : ReadError → String
  | .notObject json => "expected a JSON object, got " ++ json.compact
  | .unsupported _ json => "unsupported JSON value " ++ json.compact

/-- The complaint about a JSON value that is no request. -/
def ReadError.message : ReadError → String
  | .notObject json => "malformed filter input: " ++ (notObject json).reason
  | .unsupported name json =>
    "invalid value for filter " ++ (Key.text name).display ++ ": " ++
      (unsupported name json).reason

/-- Adds the members of a JSON object under their names as texts, up to the first whose value is
not supported. -/
def addMembers (request : Request) : List (String × Json) → Except ReadError Request
  | [] => .ok request
  | (name, json) :: rest =>
    match Value.ofJson? json with
    | some value => addMembers (request.insert (.text name) value) rest
    | none => .error (.unsupported name json)

/-- The request that a JSON object states, its names as texts in document order. -/
def ofJson : Json → Except ReadError Request
  | .object members => addMembers empty members
  | json => .error (.notObject json)

end Request

end RequestFilter
