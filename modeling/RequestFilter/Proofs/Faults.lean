import RequestFilter.Proofs.Compiled

/-! # Faults of filters

A request fails with a fault of one of its filters
(`Table.exists_of_apply_eq_error`).  Such a fault names the key of the filter or
is one of the query (`DispatchError.Befalls.names`), and it never is that the
value is no list (`DispatchError.Befalls.reason?_ne`): a kind that needs a list is
not what any other value is taken for.
-/

namespace RequestFilter

open Outcome

namespace DispatchError

variable {Fault : Type}

/-- The key that a fault names. -/
def key? : DispatchError Fault → Option Key
  | .noMatch key | .invalidValue key _ | .invalidDirective key _ => some key
  | .query _ => none

/-- What a fault says of a value or of an element of a sort list. -/
def reason? : DispatchError Fault → Option String
  | .invalidValue _ fault => some fault.reason
  | .invalidDirective _ fault => some fault.reason
  | .noMatch _ | .query _ => none

/-- The faults that a filter under a key can have in a table. -/
inductive Befalls (key : Key) : DispatchError Fault → Prop
  | noMatch : Befalls key (.noMatch key)
  | notScalar : Befalls key (.invalidValue key .notScalar)
  | notText : Befalls key (.invalidValue key .notText)
  | notCount : Befalls key (.invalidValue key .notCount)
  | notDirective (item : Value) : Befalls key (.invalidDirective key (.notDirective item))
  | query (cause : Fault) : Befalls key (.query cause)

namespace Befalls

variable {key : Key} {fault : DispatchError Fault} (befalls : Befalls key fault)

include befalls

theorem names : fault.key? = some key ∨ ∃ cause, fault = .query cause := by
  cases befalls with
  | query cause => exact .inr ⟨cause, rfl⟩
  | _ => exact .inl rfl

theorem reason?_ne : fault.reason? ≠ some "expected a list value" := by
  cases befalls with
  | notDirective item =>
      intro same
      -- The two sentences part at their twelfth character.
      have letters : ("expected a field name or a directive, got " ++ item.inspect).toList[11]? =
          "expected a list value".toList[11]? :=
        congrArg (fun text : String => text.toList[11]?) (Option.some.inj same)
      rw [String.toList_append, List.getElem?_append_left (by decide)] at letters
      exact absurd letters (by decide)
  | noMatch | query cause =>
      intro same
      cases same
  | notScalar | notText | notCount =>
      intro same
      exact absurd (Option.some.inj same) (by decide)

end Befalls

end DispatchError

namespace FieldKind

variable {kind : FieldKind} {value : Value}

/-- A kind that needs a list is content with any. -/
theorem exists_restriction_of_isList (lists : .field kind ∈ Kind.ofLists)
    (list : value.isList = true) : ∃ restriction, kind.restriction value = .ok restriction := by
  cases value with
  | list items =>
      cases kind with
      | equalToAny | listContainsAny | listContainsAll => exact ⟨_, rfl⟩
      | _ => exact absurd lists (by decide)
  | _ => cases list

/-- A kind that needs no list complains about other things. -/
theorem fault_of_restriction {fault : ValueFault} (single : .field kind ∉ Kind.ofLists)
    (refused : kind.restriction value = .error fault) :
    fault = .notScalar ∨ fault = .notText := by
  have ofScalar {form : Value → Restriction}
      (refused : Restriction.ofScalar form value = .error fault) : fault = .notScalar := by
    unfold Restriction.ofScalar at refused
    split at refused
    · cases refused
    · cases refused
      rfl
  have ofText {form : String → Restriction}
      (refused : Restriction.ofText form value = .error fault) : fault = .notText := by
    unfold Restriction.ofText at refused
    split at refused
    · cases refused
    · cases refused
      rfl
  cases kind with
  | equalTo | smallerThan | greaterOrEqual | listContains =>
      rw [FieldKind.restriction] at refused
      exact .inl (ofScalar refused)
  | startsWith | contains => exact .inr (ofText refused)
  | _ => exact absurd (by decide) single

end FieldKind

namespace Definitions

variable {definitions : Definitions} {key : Key} {value : Value}

variable {Query Fault : Type} [Filterable Query Fault] {relation : String}
  {resolver : Resolver Query} {query : Query} {fault : DispatchError Fault}

theorem befalls_of_sortBy {item : Value}
    (failure : definitions.sortBy relation resolver key query item = .error fault) :
    fault.Befalls key := by
  unfold sortBy at failure
  split at failure
  · obtain ⟨cause, -, rfl⟩ := mapError_eq_error_iff.mp failure
    exact .query cause
  · cases failure
    exact .notDirective item

omit [Filterable Query Fault] in
theorem befalls_of_assignCount {assign : Query → Count → Except Fault Query}
    (failure : assignCount assign query key value = .error fault) : fault.Befalls key := by
  unfold assignCount at failure
  split at failure
  · obtain ⟨cause, -, rfl⟩ := mapError_eq_error_iff.mp failure
    exact .query cause
  · cases failure
    exact .notCount

/-- What is wrong with a value for an entry is not that it is no list. -/
theorem befalls_of_restriction {kind : FieldKind} {chosen : Entry} {target : Column}
    (reads : definitions.reading? key value = some (.entry kind chosen))
    (failure : Restriction.carryOut (kind.restriction value) target query key = .error fault) :
    fault.Befalls key := by
  cases asked : kind.restriction value with
  | ok restriction =>
      rw [asked] at failure
      obtain ⟨cause, -, rfl⟩ := mapError_eq_error_iff.mp failure
      exact .query cause
  | error complaint =>
      rw [asked] at failure
      cases failure
      by_cases lists : .field kind ∈ Kind.ofLists
      · obtain ⟨restriction, taken⟩ :=
          FieldKind.exists_restriction_of_isList lists (isList_of_reading? reads lists)
        rw [taken] at asked
        cases asked
      · rcases FieldKind.fault_of_restriction lists asked with rfl | rfl
        · exact .notScalar
        · exact .notText

theorem befalls_of_interpretEntry
    (failure : definitions.interpretEntry relation resolver query key value = .error fault) :
    fault.Befalls key := by
  unfold interpretEntry at failure
  cases reads : definitions.reading? key value with
  | none =>
      rw [reads] at failure
      cases failure
      exact .noMatch
  | some reading =>
      rw [reads] at failure
      cases reading with
      | entry kind chosen => exact befalls_of_restriction reads failure
      | toggle which =>
          cases which with
          | limit => exact befalls_of_assignCount failure
          | offset => exact befalls_of_assignCount failure
          | orderBy =>
              obtain ⟨_, _, _, _, -, -, failed⟩ := foldlM_eq_error_iff.mp failure
              exact befalls_of_sortBy failed

end Definitions

/-- The fault of a request is that of a filter, in the query that the filters before it lead to. -/
theorem Table.exists_of_apply_eq_error {Query Fault : Type} [Filterable Query Fault]
    {definitions : Definitions} {relation : String} {resolver : Resolver Query}
    {table : Table Query Fault} {query : Query} {request : Request} {fault : DispatchError Fault}
    (compiled : Table.compile definitions relation resolver = .ok table)
    (failure : table.apply query request = .error fault) :
    ∃ filter ∈ request.entries, ∃ middle,
      definitions.interpretEntry relation resolver middle filter.1 filter.2 = .error fault := by
  rw [Table.apply_eq_foldlM compiled] at failure
  obtain ⟨before, filter, after, middle, same, -, failed⟩ := foldlM_eq_error_iff.mp failure
  exact ⟨filter, same ▸ List.mem_append_right _ List.mem_cons_self, middle, failed⟩

end RequestFilter
