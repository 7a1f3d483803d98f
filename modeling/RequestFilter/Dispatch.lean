import RequestFilter.Kind
import RequestFilter.Request
import RequestFilter.Query

/-! # Dispatch of requests

A rule matches some pairs of a key and a value and changes the query for them.
A request is dispatched filter by filter: of the custom rules and then the table
the first rule that matches is run, and what no rule matches goes to the
fallback.  The first fault ends the dispatch.
-/

namespace RequestFilter

/-- What can be wrong with the value of a filter. -/
inductive ValueFault where
  /-- A list or a sort directive stands where one value is needed. -/
  | notScalar
  /-- One value stands where a list is needed. -/
  | notList
  /-- The value has no text for a pattern. -/
  | notText
  /-- The value is no number of rows. -/
  | notCount
  /-- A rule of the caller refuses the value. -/
  | refused (reason : String)
deriving DecidableEq, Repr

/-- The complaint about a value. -/
def ValueFault.reason : ValueFault → String
  | .notScalar => "expected a scalar value"
  | .notList => "expected a list value"
  | .notText => "expected a string for a pattern filter"
  | .notCount => "expected a non-negative integer"
  | .refused reason => reason

/-- What can be wrong with an element of a sort list. -/
inductive DirectiveFault where
  /-- It is neither a field name nor a directive. -/
  | notDirective (value : Value)
  /-- A rule of the caller refuses the element. -/
  | refused (reason : String)

/-- The complaint about an element of a sort list. -/
def DirectiveFault.reason : DirectiveFault → String
  | .notDirective value => "expected a field name or a directive, got " ++ value.inspect
  | .refused reason => reason

/-- Why a request cannot be applied to a query. -/
inductive DispatchError (Fault : Type) where
  /-- No rule matches a filter. -/
  | noMatch (key : Key)
  /-- The value of a filter is not what its rule needs. -/
  | invalidValue (key : Key) (fault : ValueFault)
  /-- An element of a sort list is not what the rule needs. -/
  | invalidDirective (key : Key) (fault : DirectiveFault)
  /-- The query refuses an operation. -/
  | query (fault : Fault)

/-- The complaint about a request, given the complaints of the query. -/
def DispatchError.message {Fault : Type} (faultMessage : Fault → String) :
    DispatchError Fault → String
  | .noMatch key => "no filter matches key " ++ key.display
  | .invalidValue key fault =>
    "invalid value for filter " ++ key.display ++ ": " ++ fault.reason
  | .invalidDirective key fault =>
    "invalid order directive for " ++ key.display ++ ": " ++ fault.reason
  | .query fault => "query error: " ++ faultMessage fault

/-- What a rule does to a query for a key and a value. -/
abbrev Transform (Query Fault : Type) := Query → Key → Value → Except (DispatchError Fault) Query

/-- Which keys and values a rule matches. -/
inductive Matcher where
  /-- Certain keys, and perhaps only with lists. -/
  | keys (accepted : List Key) (listOnly : Bool)
  /-- Whatever the caller decides. -/
  | custom (matches? : Key → Value → Bool)

/-- A matcher accepts a key and a value. -/
def Matcher.accepts (matcher : Matcher) (key : Key) (value : Value) : Bool :=
  match matcher with
  | .keys accepted listOnly => decide (key ∈ accepted) && (!listOnly || value.isList)
  | .custom matches? => matches? key value

/-- A matcher and what to do for the pairs that it accepts. -/
structure Rule (Query Fault : Type) where
  /-- The kind of filter the rule is for; rules of the caller have none. -/
  kind : Option Kind
  /-- The pairs of a key and a value that the rule is for. -/
  matcher : Matcher
  /-- What the rule does. -/
  run : Transform Query Fault

namespace Rule

variable {Query Fault : Type}

/-- A rule of the caller with a matcher of its own. -/
def custom (matches? : Key → Value → Bool) (run : Transform Query Fault) : Rule Query Fault :=
  ⟨none, .custom matches?, run⟩

/-- A rule of the caller for a single key. -/
def forKey (key : Key) (run : Transform Query Fault) : Rule Query Fault :=
  ⟨none, .keys [key] false, run⟩

/-- The rule is for this key and value. -/
def accepts (rule : Rule Query Fault) (key : Key) (value : Value) : Bool :=
  rule.matcher.accepts key value

/-- A rule in diagnostics. -/
def inspect (rule : Rule Query Fault) : String :=
  let kind := match rule.kind with
    | some kind => "Some(" ++ kind.inspect ++ ")"
    | none => "None"
  let matcher := match rule.matcher with
    | .keys accepted listOnly =>
      "keys: [" ++ ", ".intercalate (accepted.map Key.inspect) ++ "], list_only: " ++
        (if listOnly then "true" else "false")
    | .custom _ => "matcher: \"<custom>\""
  "DispatchRule \x7b kind: " ++ kind ++ ", " ++ matcher ++ ", .. \x7d"

end Rule

/-- What happens to a filter that no rule matches. -/
inductive Fallback (Query Fault : Type) where
  /-- The dispatch fails. -/
  | fail
  /-- The filter is skipped. -/
  | ignore
  /-- The caller handles the filter. -/
  | handle (run : Transform Query Fault)

namespace Fallback

variable {Query Fault : Type}

/-- What a fallback does for a key and a value. -/
def run (fallback : Fallback Query Fault) : Transform Query Fault := fun query key value =>
  match fallback with
  | .fail => .error (.noMatch key)
  | .ignore => .ok query
  | .handle run => run query key value

/-- A fallback in diagnostics. -/
def inspect : Fallback Query Fault → String
  | .fail => "Error"
  | .ignore => "Ignore"
  | .handle _ => "With(<fn>)"

end Fallback

section Dispatch

variable {Query Fault : Type}

/-- Dispatches one filter: the first rule that matches it, or else the fallback. -/
def dispatchEntry (rules : List (Rule Query Fault)) (fallback : Fallback Query Fault) :
    Transform Query Fault := fun query key value =>
  match rules.find? fun rule => rule.accepts key value with
  | some rule => rule.run query key value
  | none => fallback.run query key value

/-- Dispatches filters one after the other, up to the first fault. -/
def dispatchEntries (rules : List (Rule Query Fault)) (fallback : Fallback Query Fault) :
    Query → List (Key × Value) → Except (DispatchError Fault) Query
  | query, [] => .ok query
  | query, (key, value) :: rest => do
    dispatchEntries rules fallback (← dispatchEntry rules fallback query key value) rest

theorem dispatchEntries_eq_foldlM_dispatchEntry (rules : List (Rule Query Fault))
    (fallback : Fallback Query Fault) (query : Query) (entries : List (Key × Value)) :
    dispatchEntries rules fallback query entries =
      entries.foldlM (fun query entry => dispatchEntry rules fallback query entry.1 entry.2)
        query := by
  induction entries generalizing query with
  | nil => rfl
  | cons entry rest ih =>
      rw [List.foldlM_cons, dispatchEntries]
      congr 1
      funext next
      exact ih next

/-- Dispatches a request over the rules of the caller and then those of a table. -/
def dispatch (table custom : List (Rule Query Fault)) (fallback : Fallback Query Fault)
    (query : Query) (request : Request) : Except (DispatchError Fault) Query :=
  dispatchEntries (custom ++ table) fallback query request.entries

end Dispatch

end RequestFilter
