import Mathlib.Data.List.Infix
import RequestFilter.Live
import RequestFilter.Proofs.Validity
import RequestFilter.Recorder

/-! # Live tables over time

A live table is used in a session: definitions are reloaded, requests are applied,
and the table in place is taken to apply requests through it later.  After any
events the table in place is the one that the definitions of the last reload to
succeed compile to, with the default relation and the resolver of the start
(`Session.serves_run`).  What is said of a session by its answers alone is
collected in `Session.Follows`, and holds after any events
(`Session.follows_of_compile`).
-/

namespace RequestFilter.Live

variable {Query Fault : Type}

/-- What is done with a live table. -/
inductive Event (Query Fault : Type) where
  /-- New definitions are put in place. -/
  | reload (definitions : Definitions)
  /-- A request is applied through the live table. -/
  | apply (query : Query) (request : Request)
  /-- A request is applied through the table in place, with rules of the caller. -/
  | applyCurrent (custom : List (Rule Query Fault)) (fallback : Fallback Query Fault)
      (query : Query) (request : Request)
  /-- The table in place is taken for later. -/
  | take
  /-- A request is applied through a table that was taken, with rules of the caller. -/
  | applyTaken (place : Nat) (custom : List (Rule Query Fault)) (fallback : Fallback Query Fault)
      (query : Query) (request : Request)

/-- What comes of an event. -/
inductive Answer (Query Fault : Type) where
  /-- New definitions are in place, or are refused. -/
  | reloaded (outcome : Except DefinitionsError Unit)
  /-- A request is applied, or is refused. -/
  | applied (outcome : Except (DispatchError Fault) Query)
  /-- A table is taken and can be found at a place. -/
  | taken (place : Nat)
  /-- No table was taken to that place. -/
  | nothingTaken

/-- A live table and the tables that were taken from it. -/
structure Session (Query Fault : Type) where
  /-- The live table. -/
  live : Live Query Fault
  /-- The tables that were taken, in order. -/
  taken : List (Table Query Fault) := []

/-- Definitions that an event put in place. -/
def accepted? : Event Query Fault × Answer Query Fault → Option Definitions
  | (.reload definitions, .reloaded (.ok _)) => some definitions
  | _ => none

/-- The definitions of the last reload to succeed, or else those of the start. -/
def inForce (initial : Definitions) (transcript : List (Event Query Fault × Answer Query Fault)) :
    Definitions :=
  (transcript.filterMap accepted?).getLast?.getD initial

theorem inForce_cons (initial : Definitions) (entry : Event Query Fault × Answer Query Fault)
    (transcript : List (Event Query Fault × Answer Query Fault)) :
    inForce initial (entry :: transcript) =
      inForce ((accepted? entry).getD initial) transcript := by
  unfold inForce
  cases made : accepted? entry with
  | none => rw [List.filterMap_cons_none made, Option.getD_none]
  | some definitions =>
      rw [List.filterMap_cons_some made, List.getLast?_cons, Option.getD_some, Option.getD_some]

namespace Session

variable [Filterable Query Fault]

/-- The session in which nothing has happened to a table. -/
def start (table : Table Query Fault) : Session Query Fault := ⟨⟨table⟩, []⟩

/-- Carries out an event. -/
def step (session : Session Query Fault) :
    Event Query Fault → Session Query Fault × Answer Query Fault
  | .reload definitions =>
    match session.live.reload definitions with
    | .ok live => ({ session with live }, .reloaded (.ok ()))
    | .error error => (session, .reloaded (.error error))
  | .apply query request => (session, .applied (session.live.apply query request))
  | .applyCurrent custom fallback query request =>
    (session, .applied (session.live.current.applyWith custom fallback query request))
  | .take =>
    ({ session with taken := session.taken ++ [session.live.current] },
      .taken session.taken.length)
  | .applyTaken place custom fallback query request =>
    (session,
      match session.taken[place]? with
      | some table => .applied (table.applyWith custom fallback query request)
      | none => .nothingTaken)

/-- Carries out events one after the other. -/
def run (session : Session Query Fault) (events : List (Event Query Fault)) : Session Query Fault :=
  events.foldl (fun session event => (session.step event).1) session

/-- Events with what comes of them, one after the other. -/
def transcript (session : Session Query Fault) :
    List (Event Query Fault) → List (Event Query Fault × Answer Query Fault)
  | [] => []
  | event :: rest => (event, (session.step event).2) :: (session.step event).1.transcript rest

/-- The table in place is that of some definitions. -/
def Serves (session : Session Query Fault) (definitions : Definitions) (relation : String)
    (resolver : Resolver Query) : Prop :=
  Table.compile definitions relation resolver = .ok session.live.current

section Steps

variable {session : Session Query Fault} {definitions : Definitions} {relation : String}
  {resolver : Resolver Query}

theorem step_reload_of_ok {live : Live Query Fault}
    (reloaded : session.live.reload definitions = .ok live) :
    session.step (.reload definitions) = ({ session with live }, .reloaded (.ok ())) := by
  simp only [step, reloaded]

theorem step_reload_of_error {fault : DefinitionsError}
    (refused : session.live.reload definitions = .error fault) :
    session.step (.reload definitions) = (session, .reloaded (.error fault)) := by
  simp only [step, refused]

theorem step_applyTaken {place : Nat} {table : Table Query Fault}
    (found : session.taken[place]? = some table) (custom : List (Rule Query Fault))
    (fallback : Fallback Query Fault) (query : Query) (request : Request) :
    session.step (.applyTaken place custom fallback query request) =
      (session, .applied (table.applyWith custom fallback query request)) := by
  simp only [step, found]

theorem Serves.relation_eq (serves : session.Serves definitions relation resolver) :
    session.live.current.relation = relation := by
  obtain ⟨policy, _, _, same⟩ := Table.compile_eq_ok_iff.mp serves
  rw [same]

theorem Serves.resolver_eq (serves : session.Serves definitions relation resolver) :
    session.live.current.resolver = resolver := by
  obtain ⟨policy, _, _, same⟩ := Table.compile_eq_ok_iff.mp serves
  rw [same]

/-- A reload compiles for the relation and the resolver of the table that it replaces, which are
those of every table before it. -/
theorem Serves.reload_eq (serves : session.Serves definitions relation resolver)
    (other : Definitions) :
    session.live.reload other =
      (Table.compile other relation resolver).map fun table => ⟨table⟩ := by
  unfold Live.reload
  rw [serves.relation_eq, serves.resolver_eq]
  cases Table.compile other relation resolver <;> rfl

theorem Serves.step_reload (serves : session.Serves definitions relation resolver)
    (other : Definitions) :
    session.step (.reload other) =
      match Table.compile other relation resolver with
      | .ok table => ({ session with live := ⟨table⟩ }, .reloaded (.ok ()))
      | .error fault => (session, .reloaded (.error fault)) := by
  have reloading := serves.reload_eq other
  cases compiled : (Table.compile other relation resolver :
      Except DefinitionsError (Table Query Fault)) with
  | error fault =>
      rw [compiled] at reloading
      exact step_reload_of_error reloading
  | ok table =>
      rw [compiled] at reloading
      exact step_reload_of_ok reloading

/-- An event leaves the table of the definitions in force in place. -/
theorem Serves.step (serves : session.Serves definitions relation resolver)
    (event : Event Query Fault) :
    (session.step event).1.Serves
      ((accepted? (event, (session.step event).2)).getD definitions) relation resolver := by
  cases event with
  | reload other =>
      rw [serves.step_reload]
      cases compiled : (Table.compile other relation resolver :
          Except DefinitionsError (Table Query Fault)) with
      | error fault => exact serves
      | ok table => exact compiled
  | apply query request => exact serves
  | applyCurrent custom fallback query request => exact serves
  | take => exact serves
  | applyTaken place custom fallback query request => exact serves

/-- After any events the table in place is that of the definitions in force. -/
theorem serves_run (serves : session.Serves definitions relation resolver)
    (events : List (Event Query Fault)) :
    (session.run events).Serves (inForce definitions (session.transcript events)) relation
      resolver := by
  induction events generalizing session definitions with
  | nil => exact serves
  | cons event rest ih =>
      unfold transcript
      rw [inForce_cons]
      exact ih (serves.step event)

/-- An event keeps the tables that were taken. -/
theorem taken_isPrefix_step (session : Session Query Fault) (event : Event Query Fault) :
    session.taken <+: (session.step event).1.taken := by
  cases event with
  | reload definitions =>
      cases outcome : session.live.reload definitions with
      | error fault => rw [step_reload_of_error outcome]
      | ok live => rw [step_reload_of_ok outcome]
  | take => exact List.prefix_append _ _
  | apply query request => exact List.prefix_rfl
  | applyCurrent custom fallback query request => exact List.prefix_rfl
  | applyTaken place custom fallback query request => exact List.prefix_rfl

theorem taken_isPrefix_run (session : Session Query Fault) (events : List (Event Query Fault)) :
    session.taken <+: (session.run events).taken := by
  induction events generalizing session with
  | nil => exact List.prefix_rfl
  | cons event rest ih =>
      exact (taken_isPrefix_step session event).trans (ih (session.step event).1)

/-- What is found at a place stays there. -/
theorem taken_run {place : Nat} {table : Table Query Fault}
    (found : session.taken[place]? = some table) (events : List (Event Query Fault)) :
    (session.run events).taken[place]? = some table := by
  obtain ⟨later, same⟩ := taken_isPrefix_run session events
  obtain ⟨inside, _⟩ := List.getElem?_eq_some_iff.mp found
  rw [← same, List.getElem?_append_left inside]
  exact found

end Steps

/-- A session follows definitions: what it answers now, and what the tables taken from it now will
answer, is what the table of the definitions answers. -/
structure Follows (session : Session Query Fault) (definitions : Definitions) (relation : String)
    (resolver : Resolver Query) : Prop where
  relation_eq : session.live.current.relation = relation
  resolver_eq : session.live.current.resolver = resolver
  /-- The definitions compile, and a request meets the same fate as through their table. -/
  applies : ∃ table : Table Query Fault, Table.compile definitions relation resolver = .ok table ∧
    (∀ query request, (session.step (.apply query request)).2 =
      .applied (table.apply query request)) ∧
    ∀ custom fallback query request,
      (session.step (.applyCurrent custom fallback query request)).2 =
        .applied (table.applyWith custom fallback query request)
  /-- A reload succeeds exactly when its definitions compile, and fails with their fault. -/
  reloads : ∀ other, (session.step (.reload other)).2 =
    .reloaded ((Table.compile other relation resolver :
      Except DefinitionsError (Table Query Fault)).map fun _ => ())
  /-- A reload that fails changes nothing. -/
  refuses : ∀ other fault, (session.step (.reload other)).2 = .reloaded (.error fault) →
    (session.step (.reload other)).1 = session
  /-- A table that is taken answers, whatever happens later, as the table in place does now. -/
  keeps : ∃ place, (session.step .take).2 = .taken place ∧
    ∀ later custom fallback query request,
      (((session.step .take).1.run later).step
          (.applyTaken place custom fallback query request)).2 =
        (session.step (.applyCurrent custom fallback query request)).2

theorem Serves.follows {session : Session Query Fault} {definitions : Definitions}
    {relation : String} {resolver : Resolver Query}
    (serves : session.Serves definitions relation resolver) :
    session.Follows definitions relation resolver where
  relation_eq := serves.relation_eq
  resolver_eq := serves.resolver_eq
  applies := ⟨session.live.current, serves, fun _ _ => rfl, fun _ _ _ _ => rfl⟩
  reloads := by
    intro other
    rw [serves.step_reload]
    cases (Table.compile other relation resolver :
      Except DefinitionsError (Table Query Fault)) <;> rfl
  refuses := by
    intro other fault refused
    rw [serves.step_reload] at refused ⊢
    cases compiled : (Table.compile other relation resolver :
        Except DefinitionsError (Table Query Fault)) with
    | error _ => rfl
    | ok table =>
        rw [compiled] at refused
        cases refused
  keeps := by
    refine ⟨session.taken.length, rfl, ?_⟩
    intro later custom fallback query request
    have found : (session.step .take).1.taken[session.taken.length]? =
        some session.live.current := List.getElem?_concat_length
    rw [step_applyTaken (taken_run found later)]
    rfl

/-- **A live table follows its definitions.**  After any events of a session that started with the
table of some definitions, the default relation and the resolver are those of the start, and the
session answers as the table of the definitions that the last successful reload put in place.  A
reload succeeds exactly when its definitions compile, and changes nothing otherwise.  A table that
was taken keeps answering as the live table did when it was taken. -/
theorem follows_of_compile {initial : Definitions} {relation : String} {resolver : Resolver Query}
    {table : Table Query Fault} (compiled : Table.compile initial relation resolver = .ok table)
    (events : List (Event Query Fault)) :
    ((start table).run events).Follows (inForce initial ((start table).transcript events)) relation
      resolver := by
  have serves : (start table).Serves initial relation resolver := compiled
  exact (serves_run serves events).follows

/-- A session in which definitions without a form of keys are refused before and after others are
put in place, and a table is taken in between. -/
theorem follows_of_compile_cities :
    ∃ (table : Table Recorder Recorder.Rejected)
      (events : List (Event Recorder Recorder.Rejected)),
      Table.compile { atomKeys := true, equalTo := [.bare "address"] } "users"
          (Resolver.joinOnce Recorder.join) = .ok table ∧
        events = [.reload { equalTo := [.bare "city"] }, .take,
          .reload { stringKeys := true, equalTo := [.bare "city"] },
          .reload { equalTo := [.bare "street"] }] ∧
        inForce { atomKeys := true, equalTo := [.bare "address"] }
            ((start table).transcript events) =
          { stringKeys := true, equalTo := [.bare "city"] } ∧
        ((start table).run events).Follows
          (inForce { atomKeys := true, equalTo := [.bare "address"] }
            ((start table).transcript events)) "users" (Resolver.joinOnce Recorder.join) :=
  ⟨_, _, rfl, rfl, rfl, follows_of_compile rfl _⟩

end Session

end RequestFilter.Live
