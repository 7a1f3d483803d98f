import RequestFilter.Proofs.Validity
import RequestFilter.Recorder

/-! # Definitions that do not compile

The search for a repeated key goes over the entries of a kind.  Behind entries with
new keys it has seen these keys and no others (`firstRepeated?_append_of_fresh`),
so it stops at the first entry whose key an entry before it has too
(`firstRepeated?_eq_some_iff`).  Definitions that do not compile therefore have
exactly one fault: that they accept no form of keys, or else the first repeated
key of the first kind that has one (`Table.compile_iff`).
-/

namespace RequestFilter

open Outcome

/-- Behind texts that are new, the search goes on with these as seen too. -/
theorem firstRepeated?_append_of_fresh {seen before : List String} (distinct : before.Nodup)
    (fresh : ∀ text ∈ before, text ∉ seen) (rest : List String) :
    firstRepeated? seen (before ++ rest) = firstRepeated? (before.reverse ++ seen) rest := by
  induction before generalizing seen with
  | nil => rfl
  | cons first before ih =>
      obtain ⟨absent, distinct⟩ := List.nodup_cons.mp distinct
      obtain ⟨unseen, fresh⟩ := List.forall_mem_cons.mp fresh
      have stillFresh : ∀ text ∈ before, text ∉ first :: seen := by
        intro text member inside
        rcases List.mem_cons.mp inside with rfl | inside
        · exact absent member
        · exact fresh text member inside
      rw [List.cons_append, firstRepeated?, if_neg unseen, ih distinct stillFresh,
        List.reverse_cons, List.append_assoc, List.singleton_append]

/-- A text is the first repeated one when it was seen before, or stands earlier in the list, and
all texts before it are new. -/
theorem firstRepeated?_eq_some_iff {seen texts : List String} {text : String} :
    firstRepeated? seen texts = some text ↔
      ∃ before after, texts = before ++ text :: after ∧ (text ∈ before ∨ text ∈ seen) ∧
        before.Nodup ∧ ∀ other ∈ before, other ∉ seen := by
  constructor
  · intro found
    -- A new text counts as seen for the texts behind it, and stands before them.
    induction texts generalizing seen with
    | nil => cases found
    | cons first rest ih =>
        by_cases repeated : first ∈ seen
        · rw [firstRepeated?, if_pos repeated, Option.some.injEq] at found
          subst found
          exact ⟨[], rest, rfl, .inr repeated, List.nodup_nil, fun _ member =>
            absurd member List.not_mem_nil⟩
        · rw [firstRepeated?, if_neg repeated] at found
          obtain ⟨before, after, rfl, again, distinct, fresh⟩ := ih found
          have absent : first ∉ before := fun member => fresh first member List.mem_cons_self
          have unseen : ∀ other ∈ before, other ∉ seen := fun other member inside =>
            fresh other member (List.mem_cons_of_mem first inside)
          refine ⟨first :: before, after, rfl, ?_, List.nodup_cons.mpr ⟨absent, distinct⟩,
            List.forall_mem_cons.mpr ⟨repeated, unseen⟩⟩
          rcases again with earlier | inside
          · exact .inl (List.mem_cons_of_mem first earlier)
          · rcases List.mem_cons.mp inside with rfl | inside
            · exact .inl List.mem_cons_self
            · exact .inr inside
  · rintro ⟨before, after, rfl, again, distinct, fresh⟩
    have known : text ∈ before.reverse ++ seen := by
      rw [List.mem_append, List.mem_reverse]
      exact again
    rw [firstRepeated?_append_of_fresh distinct fresh, firstRepeated?, if_pos known]

namespace Definitions

variable {definitions : Definitions} {kind : Kind} {key : String}

/-- A key is that of the first entry of a kind whose key an entry before it has too. -/
def RepeatsFirst (definitions : Definitions) (kind : Kind) (key : String) : Prop :=
  ∃ before entry after, definitions.entries kind = before ++ entry :: after ∧ entry.key = key ∧
    (∃ earlier ∈ before, earlier.key = key) ∧ (before.map Entry.key).Nodup

theorem repeatedKey?_eq_some_iff :
    definitions.repeatedKey? kind = some key ↔ definitions.RepeatsFirst kind key := by
  unfold repeatedKey? RepeatsFirst
  rw [firstRepeated?_eq_some_iff]
  constructor
  · rintro ⟨keys, others, same, again, distinct, -⟩
    obtain ⟨before, rest, split, rfl, tail⟩ := List.map_eq_append_iff.mp same
    obtain ⟨entry, after, rfl, named, -⟩ := List.map_eq_cons_iff.mp tail
    have earlier := again.resolve_right List.not_mem_nil
    exact ⟨before, entry, after, split, named, List.mem_map.mp earlier, distinct⟩
  · rintro ⟨before, entry, after, split, rfl, earlier, distinct⟩
    refine ⟨before.map Entry.key, after.map Entry.key, ?_, .inl (List.mem_map.mpr earlier),
      distinct, fun _ _ => List.not_mem_nil⟩
    rw [split, List.map_append, List.map_cons]

/-- Why definitions do not compile. -/
inductive RefusedFor (definitions : Definitions) : DefinitionsError → Prop
  /-- They accept no form of keys. -/
  | noKeyForm (atoms : definitions.atomKeys = false) (texts : definitions.stringKeys = false) :
    RefusedFor definitions .noKeyForm
  /-- They accept some form, but a kind repeats a key, and the kinds that are tried before it do
  not. -/
  | duplicateKey {kind : Kind} {key : String} {before after : List Kind}
    (some_form : definitions.atomKeys = true ∨ definitions.stringKeys = true)
    (order : Kind.dispatchOrder = before ++ kind :: after)
    (earlier : ∀ other ∈ before, ((definitions.entries other).map Entry.key).Nodup)
    (repeats : definitions.RepeatsFirst kind key) :
    RefusedFor definitions (.duplicateKey kind key)

theorem validate_eq_error_iff {fault : DefinitionsError} :
    definitions.validate = .error fault ↔
      ∃ before kind after key, Kind.dispatchOrder = before ++ kind :: after ∧
        (∀ other ∈ before, ((definitions.entries other).map Entry.key).Nodup) ∧
        definitions.RepeatsFirst kind key ∧ fault = .duplicateKey kind key := by
  have found_iff : definitions.validate = .error fault ↔
      (Kind.dispatchOrder.findSome? fun kind =>
        (definitions.repeatedKey? kind).map (DefinitionsError.duplicateKey kind)) = some fault := by
    unfold validate
    split
    · rename_i error found
      rw [found, Except.error.injEq, Option.some.injEq]
    · rename_i absent
      simp only [absent, reduceCtorEq]
  rw [found_iff, List.findSome?_eq_some_iff]
  simp only [Option.map_eq_some_iff, Option.map_eq_none_iff, repeatedKey?_eq_some_iff,
    repeatedKey?_eq_none_iff]
  constructor
  · rintro ⟨before, kind, after, order, ⟨key, repeats, rfl⟩, earlier⟩
    exact ⟨before, kind, after, key, order, earlier, repeats, rfl⟩
  · rintro ⟨before, kind, after, key, order, earlier, repeats, rfl⟩
    exact ⟨before, kind, after, order, ⟨key, repeats, rfl⟩, earlier⟩

end Definitions

namespace KeyPolicy

variable {definitions : Definitions}

theorem exists_ofDefinitions_iff :
    (∃ policy, ofDefinitions definitions = .ok policy) ↔
      definitions.atomKeys = true ∨ definitions.stringKeys = true := by
  rw [← Bool.or_eq_true]
  unfold ofDefinitions
  split
  · rename_i some_form
    exact iff_of_true ⟨_, rfl⟩ some_form
  · rename_i no_form
    refine iff_of_false ?_ no_form
    rintro ⟨_, success⟩
    cases success

theorem ofDefinitions_eq_error_iff {fault : DefinitionsError} :
    ofDefinitions definitions = .error fault ↔
      (definitions.atomKeys = false ∧ definitions.stringKeys = false) ∧ fault = .noKeyForm := by
  rw [← Bool.or_eq_false_iff]
  unfold ofDefinitions
  split
  · rename_i some_form
    simp only [some_form, reduceCtorEq, false_and]
  · rename_i no_form
    rw [Bool.not_eq_true] at no_form
    rw [Except.error.injEq, eq_comm, and_iff_right no_form]

end KeyPolicy

namespace Table

variable {Query Fault : Type} [Filterable Query Fault] {definitions : Definitions}
  {relation : String} {resolver : Resolver Query}

theorem exists_compile_iff :
    (∃ table : Table Query Fault, Table.compile definitions relation resolver = .ok table) ↔
      (definitions.atomKeys = true ∨ definitions.stringKeys = true) ∧
        definitions.DistinctKeys := by
  rw [← KeyPolicy.exists_ofDefinitions_iff]
  constructor
  · rintro ⟨table, compiled⟩
    obtain ⟨policy, accepted, distinct, -⟩ := Table.compile_eq_ok_iff.mp compiled
    exact ⟨⟨policy, accepted⟩, distinct⟩
  · rintro ⟨⟨policy, accepted⟩, distinct⟩
    exact ⟨_, Table.compile_eq_ok_iff.mpr ⟨policy, accepted, distinct, rfl⟩⟩

theorem compile_eq_error_iff {fault : DefinitionsError} :
    (Table.compile definitions relation resolver :
        Except DefinitionsError (Table Query Fault)) = .error fault ↔
      definitions.RefusedFor fault := by
  unfold Table.compile
  rw [bind_eq_error_iff, KeyPolicy.ofDefinitions_eq_error_iff]
  constructor
  · rintro (⟨⟨atoms, texts⟩, rfl⟩ | ⟨policy, accepted, failure⟩)
    · exact .noKeyForm atoms texts
    · have some_form := KeyPolicy.exists_ofDefinitions_iff.mp ⟨policy, accepted⟩
      rcases bind_eq_error_iff.mp failure with failure | ⟨_, -, success⟩
      · obtain ⟨_, _, _, _, order, earlier, repeats, rfl⟩ :=
          Definitions.validate_eq_error_iff.mp failure
        exact .duplicateKey some_form order earlier repeats
      · cases success
  · intro refused
    cases refused with
    | noKeyForm atoms texts => exact .inl ⟨⟨atoms, texts⟩, rfl⟩
    | duplicateKey some_form order earlier repeats =>
        obtain ⟨policy, accepted⟩ := KeyPolicy.exists_ofDefinitions_iff.mpr some_form
        refine .inr ⟨policy, accepted, bind_eq_error_iff.mpr (.inl ?_)⟩
        exact Definitions.validate_eq_error_iff.mpr ⟨_, _, _, _, order, earlier, repeats, rfl⟩

/-- **Definitions compile unless they have one fault.**  Definitions compile exactly when they
accept keys of some form and no kind has a key twice.  Otherwise they are refused for accepting no
form of keys, or else for the first key that repeats one before it in the first kind, in dispatch
order, that has such a key. -/
theorem compile_iff (definitions : Definitions) (relation : String) (resolver : Resolver Query) :
    ((∃ table : Table Query Fault, Table.compile definitions relation resolver = .ok table) ↔
        (definitions.atomKeys = true ∨ definitions.stringKeys = true) ∧
          definitions.DistinctKeys) ∧
      ∀ fault, (Table.compile definitions relation resolver :
          Except DefinitionsError (Table Query Fault)) = .error fault ↔
        definitions.RefusedFor fault :=
  ⟨exists_compile_iff, fun _ => compile_eq_error_iff⟩

example :
    (Table.compile
      { stringKeys := true
        equalTo := [.bare "a", .aliased "b" "a", .qualified "b" "role" "a", .bare "a"]
        smallerThan := [.bare "c", .bare "c"]
        contains := [.bare "d", .bare "d"] }
      "users" (Resolver.identity Recorder) :
        Except DefinitionsError (Table Recorder Recorder.Rejected)) =
      .error (.duplicateKey (.field .equalTo) "b") :=
  rfl

end Table

end RequestFilter
