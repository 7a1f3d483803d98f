import RequestFilter.Proofs.Locality

/-! # Forms of keys

Definitions that accept a key do not look at its form any further: the form of a
key shows only in the faults that name the key
(`Definitions.interpretEntry_rekeyed`).  So a table that accepts both forms
answers requests that differ in the forms of their keys alike, and a table that
accepts one form answers as that table does while all keys have the form, and
fails otherwise (`Table.apply_keyForms`).
-/

namespace RequestFilter

/-- The two forms of keys. -/
inductive Key.Form where
  /-- Keys made in code. -/
  | atom
  /-- Keys that arrive as text. -/
  | text
deriving DecidableEq

namespace Key

/-- The form of a key. -/
def form : Key → Form
  | .atom _ => .atom
  | .text _ => .text

/-- The key of the same name in the form of a text. -/
def asText (key : Key) : Key := .text key.name

end Key

/-- Two requests ask for the same, value by value under the same names, whatever the forms of their
keys. -/
def Request.SameNames (first second : Request) : Prop :=
  first.entries.map (fun filter => (filter.1.name, filter.2)) =
    second.entries.map fun filter => (filter.1.name, filter.2)

/-- The same fault about another key. -/
def DispatchError.mapKey {Fault : Type} (view : Key → Key) :
    DispatchError Fault → DispatchError Fault
  | .noMatch key => .noMatch (view key)
  | .invalidValue key fault => .invalidValue (view key) fault
  | .invalidDirective key fault => .invalidDirective (view key) fault
  | .query fault => .query fault

/-- The faults of a query name no key. -/
theorem DispatchError.mapKey_query {Query Fault : Type} (step : Except Fault Query)
    (view : Key → Key) :
    (step.mapError DispatchError.query).mapError (mapKey view) = step.mapError .query := by
  cases step <;> rfl

namespace Definitions

/-- The same definitions with the forms of keys that they accept chosen anew. -/
def accepting (definitions : Definitions) (allowed : Key.Form → Bool) : Definitions :=
  { definitions with atomKeys := allowed .atom, stringKeys := allowed .text }

/-- The definitions with keys of both forms. -/
def withBothForms (definitions : Definitions) : Definitions :=
  definitions.accepting fun _ => true

/-- The definitions with keys of one form. -/
def withForm (definitions : Definitions) (form : Key.Form) : Definitions :=
  definitions.accepting fun other => other = form

section Accepting

variable (definitions : Definitions) (allowed other : Key.Form → Bool)

theorem acceptsForm_accepting (key : Key) :
    (definitions.accepting allowed).acceptsForm key = allowed key.form := by
  cases key <;> rfl

theorem fieldEntries_accepting (kind : FieldKind) :
    (definitions.accepting allowed).fieldEntries kind = definitions.fieldEntries kind := by
  cases kind <;> rfl

theorem isOn_accepting (which : Toggle) :
    (definitions.accepting allowed).isOn which = definitions.isOn which := by
  cases which <;> rfl

variable {definitions allowed other}

theorem DistinctKeys.accepting (distinct : (definitions.accepting allowed).DistinctKeys) :
    (definitions.accepting other).DistinctKeys := by
  intro kind
  cases kind with
  | toggle which => exact distinct (.toggle which)
  | field kind =>
      have each : (((definitions.accepting allowed).fieldEntries kind).map Entry.key).Nodup :=
        distinct (.field kind)
      rw [fieldEntries_accepting] at each
      change (((definitions.accepting other).fieldEntries kind).map Entry.key).Nodup
      rwa [fieldEntries_accepting]

/-- A key whose form is accepted on both sides, or on neither, finds the same. -/
theorem readAlike_accepting {key : Key} (same : allowed key.form = other key.form)
    (value : Value) :
    (definitions.accepting allowed).ReadAlike (definitions.accepting other) key value where
  form := by rw [acceptsForm_accepting, acceptsForm_accepting, same]
  toggles which := by rw [isOn_accepting, isOn_accepting]
  entries kind := by rw [fieldEntries_accepting, fieldEntries_accepting]
  sorts _ _ _ _ := rfl

end Accepting

section Rekeyed

variable {Query Fault : Type} [Filterable Query Fault] {definitions : Definitions}
  (relation : String) (resolver : Resolver Query) (query : Query) (view : Key → Key) (key : Key)
  (value : Value)

theorem restriction_rekeyed (asked : Except ValueFault Restriction) (target : Column) :
    Restriction.carryOut asked target query (view key) =
      (Restriction.carryOut asked target query key).mapError (DispatchError.mapKey view) := by
  unfold Restriction.carryOut
  cases asked with
  | error fault => rfl
  | ok restriction => exact (DispatchError.mapKey_query _ view).symm

omit [Filterable Query Fault] in
theorem assignCount_rekeyed (assign : Query → Count → Except Fault Query) :
    assignCount assign query (view key) value =
      (assignCount assign query key value).mapError (DispatchError.mapKey view) := by
  unfold assignCount
  cases value.count? with
  | none => rfl
  | some count => exact (DispatchError.mapKey_query _ view).symm

theorem sortBy_rekeyed (item : Value) :
    definitions.sortBy relation resolver (view key) query item =
      (definitions.sortBy relation resolver key query item).mapError
        (DispatchError.mapKey view) := by
  unfold sortBy
  cases definitions.sortTarget? relation item with
  | none => rfl
  | some sort => exact (DispatchError.mapKey_query _ view).symm

/-- What a filter was taken for is carried out under any key, which shows in the faults only. -/
theorem carryOut_rekeyed (reading : Reading) :
    definitions.carryOut relation resolver reading query (view key) value =
      (definitions.carryOut relation resolver reading query key value).mapError
        (DispatchError.mapKey view) := by
  cases reading with
  | entry kind entry => exact restriction_rekeyed _ view key _ _
  | toggle which =>
      cases which with
      | limit => exact assignCount_rekeyed query view key value Filterable.limit
      | offset => exact assignCount_rekeyed query view key value Filterable.offset
      | orderBy =>
          exact Outcome.foldlM_eq_mapError
            (fun query item => sortBy_rekeyed relation resolver query view key item) _ query

variable {view key}

/-- A key of the same name whose form is accepted as well shows in the faults only. -/
theorem interpretEntry_rekeyed (named : (view key).name = key.name)
    (accepted : definitions.acceptsForm (view key) = definitions.acceptsForm key) :
    definitions.interpretEntry relation resolver query (view key) value =
      (definitions.interpretEntry relation resolver query key value).mapError
        (DispatchError.mapKey view) := by
  have reads : definitions.reading? (view key) value = definitions.reading? key value := by
    unfold reading?
    rw [named, accepted]
  unfold interpretEntry
  rw [reads]
  cases definitions.reading? key value with
  | none => rfl
  | some reading => exact carryOut_rekeyed relation resolver query view key value reading

theorem interpretEntry_of_refused (refused : definitions.acceptsForm key = false) :
    (definitions.interpretEntry relation resolver query key value :
      Except (DispatchError Fault) Query) = .error (.noMatch key) := by
  unfold interpretEntry reading?
  rw [refused]
  rfl

end Rekeyed

end Definitions

namespace Table

variable {Query Fault : Type} [Filterable Query Fault] {definitions : Definitions}
  {relation : String} {resolver : Resolver Query} {table other : Table Query Fault}
  {allowed chosen : Key.Form → Bool}

/-- Definitions that compile do so with any choice of forms but none. -/
theorem exists_compile_accepting
    (compiled : Table.compile (definitions.accepting allowed) relation resolver = .ok table)
    (some_form : chosen .atom || chosen .text) :
    ∃ other : Table Query Fault,
      Table.compile (definitions.accepting chosen) relation resolver = .ok other := by
  obtain ⟨_, -, distinct, -⟩ := Table.compile_eq_ok_iff.mp compiled
  exact ⟨_, Table.compile_eq_ok_iff.mpr ⟨_, dif_pos some_form, distinct.accepting, rfl⟩⟩

/-- With keys of both forms accepted, an answer is that to the names and the values of the request,
up to the form of the key in a fault. -/
theorem apply_mapError_asText
    (compiled : Table.compile definitions.withBothForms relation resolver = .ok table)
    (query : Query) (request : Request) :
    (table.apply query request).mapError (DispatchError.mapKey Key.asText) =
      (request.entries.map fun filter => (filter.1.name, filter.2)).foldlM
        (fun query filter => definitions.withBothForms.interpretEntry relation resolver query
          (.text filter.1) filter.2) query := by
  rw [Table.apply_eq_foldlM compiled, List.foldlM_map]
  symm
  refine Outcome.foldlM_eq_mapError (fun query filter => ?_) _ query
  have accepted : definitions.withBothForms.acceptsForm filter.1.asText =
      definitions.withBothForms.acceptsForm filter.1 := by
    cases filter.1 <;> rfl
  exact Definitions.interpretEntry_rekeyed relation resolver query filter.2 rfl accepted

/-- A request whose keys are accepted on both sides, or on neither, has the same answer on both. -/
theorem apply_eq_of_accepting
    (compiled : Table.compile (definitions.accepting allowed) relation resolver = .ok table)
    (otherCompiled : Table.compile (definitions.accepting chosen) relation resolver = .ok other)
    {request : Request} (same : ∀ key ∈ request.keys, allowed key.form = chosen key.form)
    (query : Query) : table.apply query request = other.apply query request := by
  rw [Table.apply_eq_foldlM compiled, Table.apply_eq_foldlM otherCompiled]
  refine Outcome.foldlM_congr (fun filter member query => ?_) query
  exact (Definitions.readAlike_accepting (same filter.1 (List.mem_map_of_mem member))
    filter.2).interpretEntry_eq relation resolver query

/-- A key whose form is refused makes its request fail. -/
theorem exists_error_of_refused
    (compiled : Table.compile (definitions.accepting allowed) relation resolver = .ok table)
    {request : Request} {key : Key} (inside : key ∈ request.keys)
    (refused : allowed key.form = false) (query : Query) :
    ∃ fault, table.apply query request = .error fault := by
  obtain ⟨filter, member, rfl⟩ := List.mem_map.mp inside
  rw [Table.apply_eq_foldlM compiled]
  refine Outcome.exists_error_of_foldlM member (fun query => ⟨.noMatch filter.1, ?_⟩) query
  refine Definitions.interpretEntry_of_refused relation resolver query filter.2 ?_
  rw [Definitions.acceptsForm_accepting, refused]

/-- **Forms of keys are interchangeable as far as they are accepted.**  A table with keys of both
forms answers requests that differ in the forms of their keys alike: with the same query, or with
faults that are the same up to the form of the key in them.  The table of the same definitions with
keys of one form only answers a request whose keys all have the form as the first table does, and
fails on a request with any other key. -/
theorem apply_keyForms
    (compiled : Table.compile definitions.withBothForms relation resolver = .ok table) :
    (∀ (query : Query) (first second : Request), first.SameNames second →
      (table.apply query first).mapError (DispatchError.mapKey Key.asText) =
        (table.apply query second).mapError (DispatchError.mapKey Key.asText)) ∧
    ∀ form, ∃ single : Table Query Fault,
      Table.compile (definitions.withForm form) relation resolver = .ok single ∧
      ∀ (query : Query) (request : Request),
        ((∀ key ∈ request.keys, key.form = form) →
          single.apply query request = table.apply query request) ∧
        ((∃ key ∈ request.keys, key.form ≠ form) →
          ∃ fault, single.apply query request = .error fault) := by
  refine ⟨fun query first second same => ?_, fun form => ?_⟩
  · rw [apply_mapError_asText compiled, apply_mapError_asText compiled, same]
  · obtain ⟨single, compiledSingle⟩ : ∃ single : Table Query Fault,
        Table.compile (definitions.withForm form) relation resolver = .ok single :=
      exists_compile_accepting compiled (by cases form <;> rfl)
    refine ⟨single, compiledSingle, fun query request => ⟨fun all => ?_, ?_⟩⟩
    · exact apply_eq_of_accepting compiledSingle compiled
        (fun key inside => decide_eq_true (all key inside)) query
    · rintro ⟨key, inside, apart⟩
      exact exists_error_of_refused compiledSingle inside (decide_eq_false apart) query

end Table

/-- The request with its keys in the other forms. -/
def Request.emmaSwapped : Request where
  entries := [(.atom "title", .text "Emma"), (.atom "order_by", .list [.text "length"]),
    (.text "title", .null)]
  distinct := by decide

theorem Table.apply_keyForms_library :
    ∃ table single : Table Recorder Recorder.Rejected,
      Table.compile Definitions.library.withBothForms "books" (Resolver.joinOnce Recorder.join) =
          .ok table ∧
        Table.compile (Definitions.library.withForm .text) "books"
          (Resolver.joinOnce Recorder.join) = .ok single ∧
        (table.apply { base := "books" } .emma).mapError (DispatchError.mapKey Key.asText) =
          (table.apply { base := "books" } .emmaSwapped).mapError
            (DispatchError.mapKey Key.asText) ∧
        single.apply { base := "books" } (.ofList [(.text "title", .text "Emma")]) =
          table.apply { base := "books" } (.ofList [(.text "title", .text "Emma")]) ∧
        ∃ fault, single.apply { base := "books" } .emma = .error fault := by
  obtain ⟨table, compiled⟩ : ∃ table : Table Recorder Recorder.Rejected,
      Table.compile Definitions.library.withBothForms "books" (Resolver.joinOnce Recorder.join) =
        .ok table := ⟨_, rfl⟩
  obtain ⟨alike, each⟩ := Table.apply_keyForms compiled
  obtain ⟨single, compiledSingle, answers⟩ := each .text
  exact ⟨table, single, compiled, compiledSingle, alike _ .emma .emmaSwapped rfl,
    (answers _ _).1 (by decide), (answers _ .emma).2 (by decide)⟩

end RequestFilter
