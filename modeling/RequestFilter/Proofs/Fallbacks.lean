import RequestFilter.CustomRule
import RequestFilter.Proofs.Outcome
import RequestFilter.Recorder

/-! # Fallbacks

What no rule matches goes to the fallback, so a fallback that handles filters acts
as one more rule behind all others (`dispatchEntry_always`), and skipping filters
is the same as not being asked for them (`dispatchEntries_ignore`).  A dispatch
that has to match every filter and succeeds never came to its fallback, nor past
the end of its rules (`someAccepts_of_dispatchEntries`).
-/

namespace RequestFilter

section Rules

variable {Query Fault : Type}

/-- A rule of the caller that matches everything. -/
def Rule.always (run : Transform Query Fault) : Rule Query Fault :=
  .custom (fun _ _ => true) run

/-- Some of the rules matches a key and a value. -/
def someAccepts (rules : List (Rule Query Fault)) (key : Key) (value : Value) : Bool :=
  rules.any fun rule => rule.accepts key value

end Rules

/-- The filters of a request that meet a condition, in order. -/
def Request.only (request : Request) (keep : Key → Value → Bool) : Request where
  entries := request.entries.filter fun filter => keep filter.1 filter.2
  distinct := request.distinct.sublist (List.filter_sublist.map Prod.fst)

section Filters

variable {Query Fault : Type} {rules : List (Rule Query Fault)} {query : Query} {key : Key}
  {value : Value}

/-- A filter that some rule matches gets neither to further rules nor to the fallback. -/
theorem dispatchEntry_append_of_someAccepts (accepted : someAccepts rules key value = true)
    (more : List (Rule Query Fault)) (fallback other : Fallback Query Fault) :
    dispatchEntry (rules ++ more) fallback query key value =
      dispatchEntry rules other query key value := by
  have found : (rules.find? fun rule => rule.accepts key value).isSome = true := by
    rw [List.find?_isSome]
    exact List.any_eq_true.mp accepted
  obtain ⟨rule, search⟩ := Option.isSome_iff_exists.mp found
  unfold dispatchEntry
  rw [List.find?_append, search, Option.some_or]

/-- A filter that no rule matches gets to the fallback. -/
theorem dispatchEntry_of_not_someAccepts (refused : someAccepts rules key value = false)
    (fallback : Fallback Query Fault) :
    dispatchEntry rules fallback query key value = fallback.run query key value := by
  have search : (rules.find? fun rule => rule.accepts key value) = none :=
    List.find?_eq_none.mpr (List.any_eq_false.mp refused)
  unfold dispatchEntry
  rw [search]

/-- A rule that matches everything, tried last, does what a fallback does. -/
theorem dispatchEntry_always (run : Transform Query Fault) :
    dispatchEntry (rules ++ [.always run]) .fail query key value =
      dispatchEntry rules (.handle run) query key value := by
  unfold dispatchEntry
  rw [List.find?_append]
  cases rules.find? fun rule => rule.accepts key value <;> rfl

end Filters

section Requests

variable {Query Fault : Type} {rules others : List (Rule Query Fault)}
  {fallback other : Fallback Query Fault} {entries : List (Key × Value)}

theorem dispatchEntries_congr
    (same : ∀ filter ∈ entries, ∀ query, dispatchEntry rules fallback query filter.1 filter.2 =
      dispatchEntry others other query filter.1 filter.2) (query : Query) :
    dispatchEntries rules fallback query entries = dispatchEntries others other query entries := by
  rw [dispatchEntries_eq_foldlM_dispatchEntry, dispatchEntries_eq_foldlM_dispatchEntry]
  exact Outcome.foldlM_congr same query

/-- Skipping the filters that no rule matches is dispatching the others. -/
theorem dispatchEntries_ignore (query : Query) :
    dispatchEntries rules .ignore query entries =
      dispatchEntries rules .fail query
        (entries.filter fun filter => someAccepts rules filter.1 filter.2) := by
  induction entries generalizing query with
  | nil => rfl
  | cons filter rest ih =>
      obtain ⟨key, value⟩ := filter
      rw [List.filter_cons]
      cases accepted : someAccepts rules key value with
      | true =>
          have same : dispatchEntry rules .ignore query key value =
              dispatchEntry rules .fail query key value := by
            rw [← dispatchEntry_append_of_someAccepts accepted [], List.append_nil]
          simp only [↓reduceIte, dispatchEntries, same, ih]
      | false =>
          simp only [Bool.false_eq_true, ↓reduceIte, dispatchEntries,
            dispatchEntry_of_not_someAccepts accepted]
          exact ih query

/-- Where every filter has to be matched, success means that every filter was. -/
theorem someAccepts_of_dispatchEntries {query result : Query}
    (success : dispatchEntries rules .fail query entries = .ok result) :
    ∀ filter ∈ entries, someAccepts rules filter.1 filter.2 = true := by
  induction entries generalizing query with
  | nil => exact fun filter member => absurd member List.not_mem_nil
  | cons filter rest ih =>
      obtain ⟨next, made, success⟩ := Outcome.bind_eq_ok_iff.mp success
      refine List.forall_mem_cons.mpr ⟨?_, ih success⟩
      by_contra refused
      rw [dispatchEntry_of_not_someAccepts (Bool.not_eq_true _ ▸ refused)] at made
      cases made

/-- **Fallbacks are rules.**  A dispatch with a fallback that handles filters is one that has to
match every filter, with one more rule at its end that matches everything.  A dispatch that skips
filters has to match those filters of its request that some rule matches.  And where a dispatch that
has to match every filter succeeds, it gives the same query with any fallback, and with any further
rules at the end of its table. -/
theorem dispatch_fallback_as_rule (table custom : List (Rule Query Fault)) (query : Query)
    (request : Request) :
    (∀ run, dispatch table custom (.handle run) query request =
        dispatch (table ++ [.always run]) custom .fail query request) ∧
      dispatch table custom .ignore query request =
        dispatch table custom .fail query (request.only (someAccepts (custom ++ table))) ∧
      ∀ result, dispatch table custom .fail query request = .ok result →
        ∀ more fallback, dispatch (table ++ more) custom fallback query request = .ok result := by
  unfold dispatch
  refine ⟨fun run => ?_, dispatchEntries_ignore query, fun result success more fallback => ?_⟩
  · rw [← List.append_assoc]
    exact (dispatchEntries_congr (fun _ _ _ => dispatchEntry_always run) query).symm
  · rw [← List.append_assoc, ← success]
    have accepted := someAccepts_of_dispatchEntries success
    exact dispatchEntries_congr (fun filter member _ =>
      dispatchEntry_append_of_someAccepts (accepted filter member) more fallback .fail) query

end Requests

/-- A page of names, under keys of which the caller answers one by a rule of its own. -/
def Request.page : Request where
  entries := [(.text "page_size", .integer 5), (.atom "name", .text "Ann")]
  distinct := by decide

/-- The rule of a table for names. -/
def Rule.names : Rule Recorder Recorder.Rejected :=
  .forShape (some "name") .scalar (Action.equal ⟨"users", "name"⟩).run

/-- A rule of the caller for the size of pages. -/
def Rule.pageSize : Rule Recorder Recorder.Rejected :=
  .forKey (.text "page_size") Action.limit.run

theorem dispatch_fallback_as_rule_page :
    ∃ result : Recorder,
      dispatch [.names] [.pageSize] .fail { base := "users" } .page = .ok result ∧
        dispatch ([.names] ++ [.always (Action.refuseValue "unknown").run]) [.pageSize] .ignore
          { base := "users" } .page = .ok result :=
  ⟨_, rfl, (dispatch_fallback_as_rule _ _ _ _).2.2 _ rfl _ _⟩

end RequestFilter
