import RequestFilter.Proofs.Interpreter
import RequestFilter.Proofs.Validity
import RequestFilter.Recorder

/-! # Tables against definitions

A compiled table does what its definitions say when they are read without any
rules.  The rule that a table finds for a filter is the rule of the filter's
reading (`find?_rules`), and running the rule carries the reading out
(`Reading.run_rule`), so a request meets the same fate either way
(`Table.apply_eq_interpret`).
-/

namespace RequestFilter

variable {Query Fault : Type} [Filterable Query Fault]

section Restrictions

variable (query : Query) (target : Column) (key : Key) (value : Value)

theorem scalarOf_bind (form : Value → Restriction) :
    (scalarOf key value >>= fun value => ofQuery ((form value).apply query target)) =
      Restriction.carryOut (Restriction.ofScalar form value) target query key := by
  unfold scalarOf Restriction.ofScalar
  by_cases isScalar : value.isScalar = true
  · simp only [isScalar, ↓reduceIte]
    rfl
  · simp only [isScalar, Bool.false_eq_true, ↓reduceIte]
    rfl

theorem listOf_bind (form : List Value → Restriction) :
    (listOf key value >>= fun values => ofQuery ((form values).apply query target)) =
      Restriction.carryOut (Restriction.ofItems form value) target query key := by
  cases value <;> rfl

theorem textOf_bind (form : String → Restriction) :
    (textOf key value >>= fun text => ofQuery ((form text).apply query target)) =
      Restriction.carryOut (Restriction.ofText form value) target query key := by
  unfold textOf Restriction.ofText
  cases value.patternText? <;> rfl

/-- The rule of an entry restricts its column as its kind and the value of the filter ask. -/
theorem restrict_eq (kind : FieldKind) :
    restrict kind target query key value =
      Restriction.carryOut (kind.restriction value) target query key := by
  cases kind with
  | equalTo => exact scalarOf_bind query target key value .equal
  | equalToAny => exact listOf_bind query target key value .equalAny
  | smallerThan => exact scalarOf_bind query target key value (.compare .smallerThan)
  | greaterOrEqual => exact scalarOf_bind query target key value (.compare .greaterOrEqual)
  | startsWith => exact textOf_bind query target key value (.pattern .startsWith)
  | contains => exact textOf_bind query target key value (.pattern .contains)
  | listContains =>
      exact scalarOf_bind query target key value fun value => .listTest .contains [value]
  | listContainsAny => exact listOf_bind query target key value (.listTest .containsAny)
  | listContainsAll => exact listOf_bind query target key value (.listTest .containsAll)

omit [Filterable Query Fault] in
theorem countOf_bind (assign : Query → Count → Except Fault Query) :
    (countOf key value >>= fun count => ofQuery (assign query count)) =
      Definitions.assignCount assign query key value := by
  unfold countOf Definitions.assignCount
  cases value.count? <;> rfl

end Restrictions

section Sorting

variable {definitions : Definitions} (distinct : definitions.DistinctKeys)

include distinct in
theorem sortColumn_eq_namedColumn (relation : String) :
    definitions.sortColumn relation = definitions.namedColumn relation := by
  funext name
  have same : Definitions.findLast? (fun entry : Entry => entry.key = name) definitions.equalTo =
      definitions.equalTo.find? fun entry => entry.key = name := distinct.findLast?_eq .equalTo name
  unfold Definitions.sortColumn
  rw [same]
  rfl

include distinct in
theorem sortByItem_eq_sortBy (relation : String) (resolver : Resolver Query) (key : Key)
    (query : Query) (item : Value) :
    sortByItem (definitions.sortColumn relation) resolver key query item =
      definitions.sortBy relation resolver key query item := by
  rw [sortColumn_eq_namedColumn distinct]
  cases item with
  | order directive => cases directive <;> rfl
  | _ => rfl

include distinct in
theorem sortByItems_eq_foldlM (relation : String) (resolver : Resolver Query) (key : Key)
    (query : Query) (items : List Value) :
    sortByItems (definitions.sortColumn relation) resolver key query items =
      items.foldlM (definitions.sortBy relation resolver key) query := by
  induction items generalizing query with
  | nil => rfl
  | cons item rest ih =>
      rw [List.foldlM_cons, ← sortByItem_eq_sortBy distinct]
      unfold sortByItems
      congr 1
      funext next
      exact ih next

end Sorting

section Rules

variable {definitions : Definitions} {relation : String} {resolver : Resolver Query}
  {policy : KeyPolicy}

/-- The rule that carries out a reading. -/
def Reading.rule (policy : KeyPolicy) (definitions : Definitions) (relation : String)
    (resolver : Resolver Query) : Reading → Rule Query Fault
  | .toggle which => toggleRule policy (definitions.sortColumn relation) resolver which
  | .entry kind chosen => fieldRule policy relation resolver kind chosen

theorem Reading.kind_rule (reading : Reading) :
    (reading.rule policy definitions relation resolver).kind =
      some reading.kind := by
  cases reading <;> rfl

/-- Running the rule of a reading carries the reading out. -/
theorem Reading.run_rule (distinct : definitions.DistinctKeys) (reading : Reading) (query : Query)
    (key : Key) (value : Value) :
    (reading.rule policy definitions relation resolver).run query key value =
      definitions.carryOut relation resolver reading query key value := by
  cases reading with
  | entry kind chosen => exact restrict_eq _ _ key value kind
  | toggle which =>
      cases which with
      | limit => exact countOf_bind query key value Filterable.limit
      | offset => exact countOf_bind query key value Filterable.offset
      | orderBy => exact sortByItems_eq_foldlM distinct relation resolver key query _

theorem acceptsForm_eq_accepts (compiled : KeyPolicy.ofDefinitions definitions = .ok policy)
    (key : Key) : definitions.acceptsForm key = policy.accepts key := by
  unfold KeyPolicy.ofDefinitions at compiled
  split at compiled
  · cases compiled
    cases key <;> rfl
  · cases compiled

/-- A rule for the keys of a name takes a filter when the form of its key, its name and the shape of
its value are right. -/
theorem accepts_acceptedKeys (name : String) (listOnly : Bool) (key : Key) (value : Value) :
    (Matcher.keys (policy.acceptedKeys name) listOnly).accepts key value =
      (policy.accepts key && !(listOnly && !value.isList) && decide (name = key.name)) := by
  change (decide (key ∈ policy.acceptedKeys name) && (!listOnly || value.isList)) = _
  have member : decide (key ∈ policy.acceptedKeys name) =
      (policy.accepts key && decide (name = key.name)) := by
    rw [Bool.eq_iff_iff, Bool.and_eq_true, decide_eq_true_eq, decide_eq_true_eq,
      KeyPolicy.mem_acceptedKeys, eq_comm (a := name)]
  rw [member, Bool.not_and, Bool.not_not, Bool.and_assoc, Bool.and_assoc, Bool.and_comm
    (decide (name = key.name))]

/-- The rules that match lists only are those of the kinds that take lists only. -/
theorem Kind.takesList_iff_mem_ofLists (kind : Kind) :
    kind.takesList = true ↔ kind ∈ Kind.ofLists := by
  rcases kind with which | which
  · cases which <;> decide
  · cases which <;> decide

theorem Kind.takesList_eq (kind : Kind) : kind.takesList = decide (kind ∈ Kind.ofLists) :=
  Bool.eq_iff_iff.mpr ((takesList_iff_mem_ofLists kind).trans decide_eq_true_iff.symm)

/-- Among the rules of one kind, a filter finds the rule of its reading as that kind. -/
theorem find?_rulesOfKind (key : Key) (value : Value) (kind : Kind) :
    (rulesOfKind policy definitions relation resolver kind).find?
        (fun rule => rule.accepts key value) =
      if policy.accepts key then
        (definitions.readingAs? key.name value kind).map
          (Reading.rule policy definitions relation resolver)
      else none := by
  have accepts_eq (rule : Rule Query Fault) (name : String)
      (matcher : rule.matcher = .keys (policy.acceptedKeys name) kind.takesList) :
      rule.accepts key value = (policy.accepts key && !(kind ∈ Kind.ofLists && !value.isList) &&
        decide (name = key.name)) := by
    unfold Rule.accepts
    rw [matcher, accepts_acceptedKeys, Kind.takesList_eq]
  unfold Definitions.readingAs?
  cases kind with
  | toggle which =>
      have accepts := accepts_eq
        (toggleRule policy (definitions.sortColumn relation) resolver which) which.name rfl
      cases on : definitions.isOn which with
      | false =>
          simp only [rulesOfKind, on, Bool.false_eq_true, ↓reduceIte, List.find?_nil,
            Bool.false_and, ite_self, Option.map_none]
      | true =>
          simp only [rulesOfKind, on, ↓reduceIte, List.find?_singleton, accepts, Bool.true_and]
          cases policy.accepts key <;>
            cases (.toggle which ∈ Kind.ofLists && !value.isList : Bool) <;>
              cases decide (which.name = key.name) <;> rfl
  | field kind =>
      have accepts (entry : Entry) := accepts_eq (fieldRule policy relation resolver kind entry)
        entry.key rfl
      have none_found : (definitions.fieldEntries kind).find? (fun _ => false) = none :=
        List.find?_eq_none.mpr fun _ _ => Bool.false_ne_true
      simp only [rulesOfKind, List.find?_map, Function.comp_def, accepts]
      cases policy.accepts key with
      | false => simp only [Bool.false_and, none_found, Option.map_none, Bool.false_eq_true,
          ↓reduceIte]
      | true =>
          cases (.field kind ∈ Kind.ofLists && !value.isList : Bool) with
          | true => simp only [Bool.not_true, Bool.and_false, Bool.false_and, none_found,
              Option.map_none, ↓reduceIte]
          | false =>
              simp only [Bool.not_false, Bool.true_and, Bool.false_eq_true, ↓reduceIte,
                Option.map_map]
              rfl

/-- The rule that a table finds for a filter is the rule of the filter's reading. -/
theorem find?_rules (compiled : KeyPolicy.ofDefinitions definitions = .ok policy) (key : Key)
    (value : Value) :
    (Kind.dispatchOrder.flatMap (rulesOfKind policy definitions relation resolver)).find?
        (fun rule => rule.accepts key value) =
      (definitions.reading? key value).map
        (Reading.rule policy definitions relation resolver) := by
  rw [List.find?_flatMap]
  unfold Definitions.reading?
  rw [acceptsForm_eq_accepts compiled]
  simp only [find?_rulesOfKind]
  by_cases accepted : policy.accepts key = true
  · simp only [accepted, ↓reduceIte, List.map_findSome?]
    rfl
  · simp only [accepted, Bool.false_eq_true, ↓reduceIte, Option.map_none,
      List.findSome?_eq_none_iff, implies_true]

end Rules

section Tables

variable {definitions : Definitions} {relation : String} {resolver : Resolver Query}
  {table : Table Query Fault}

/-- A table dispatches a filter as its definitions read it. -/
theorem dispatchEntry_eq_interpretEntry
    (compiled : Table.compile definitions relation resolver = .ok table) (query : Query)
    (key : Key) (value : Value) :
    dispatchEntry table.rules .fail query key value =
      definitions.interpretEntry relation resolver query key value := by
  obtain ⟨policy, accepted, distinct, rfl⟩ := Table.compile_eq_ok_iff.mp compiled
  unfold dispatchEntry Definitions.interpretEntry
  rw [find?_rules accepted]
  cases definitions.reading? key value with
  | none => rfl
  | some reading => exact reading.run_rule distinct query key value

theorem dispatchEntries_eq_foldlM
    (compiled : Table.compile definitions relation resolver = .ok table) (query : Query)
    (entries : List (Key × Value)) :
    dispatchEntries table.rules .fail query entries =
      entries.foldlM (fun query entry =>
        definitions.interpretEntry relation resolver query entry.1 entry.2) query := by
  rw [dispatchEntries_eq_foldlM_dispatchEntry]
  exact Outcome.foldlM_congr (fun entry _ query =>
    dispatchEntry_eq_interpretEntry compiled query entry.1 entry.2) query

/-- Applying a request carries out its filters one after the other. -/
theorem Table.apply_eq_foldlM
    (compiled : Table.compile definitions relation resolver = .ok table) (query : Query)
    (request : Request) :
    table.apply query request =
      request.entries.foldlM (fun query entry =>
        definitions.interpretEntry relation resolver query entry.1 entry.2) query :=
  dispatchEntries_eq_foldlM compiled query request.entries

/-- **A table is its definitions.**  Applying a request through a compiled table gives the query,
or the fault, that reading the request straight from the definitions gives. -/
theorem Table.apply_eq_interpret
    (compiled : Table.compile definitions relation resolver = .ok table) (query : Query)
    (request : Request) :
    table.apply query request = definitions.interpret relation resolver query request := by
  unfold Table.apply Table.applyWith dispatch Definitions.interpret
  rw [List.nil_append]
  exact dispatchEntries_eq_foldlM compiled query request.entries

/-- Definitions with a key of two kinds, and with an entry whose key is the name of a kind that is
switched on. -/
def Definitions.sharedKeys : Definitions where
  stringKeys := true
  limit := true
  orderBy := true
  equalTo := [.aliased "name" "first_name", .bare "limit"]
  equalToAny := [.qualified "name" "role" "title"]

theorem Table.apply_eq_interpret_sharedKeys :
    ∃ table : Table Recorder Recorder.Rejected,
      Table.compile .sharedKeys "users" (Resolver.joinOnce Recorder.join) = .ok table ∧
        table.apply { base := "users" }
            ⟨[(.text "name", .list [.text "a", .null]), (.text "limit", .text " 5 "),
              (.text "order_by", .list [.text "name", .order (.qualified .desc "team" "rank")])],
              by decide⟩ =
          Definitions.interpret .sharedKeys "users" (Resolver.joinOnce Recorder.join)
            { base := "users" }
            ⟨[(.text "name", .list [.text "a", .null]), (.text "limit", .text " 5 "),
              (.text "order_by", .list [.text "name", .order (.qualified .desc "team" "rank")])],
              by decide⟩ :=
  ⟨_, rfl, Table.apply_eq_interpret rfl _ _⟩

end Tables

end RequestFilter
