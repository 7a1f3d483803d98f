import Mathlib.Data.List.Nodup
import RequestFilter.Proofs.Outcome
import RequestFilter.Table

/-! # Definitions that compile

Definitions compile when they accept some form of keys and no kind has a key
twice (`Table.compile_eq_ok_iff`).  Within a kind a key then belongs to one entry
only, so the first entry with the key is also the last
(`Definitions.DistinctKeys.findLast?_eq`).
-/

namespace RequestFilter

/-- No text of a list is repeated exactly when all are distinct from each other and from those seen
before. -/
theorem firstRepeated?_eq_none_iff (seen texts : List String) :
    firstRepeated? seen texts = none ↔ texts.Nodup ∧ ∀ text ∈ texts, text ∉ seen := by
  induction texts generalizing seen with
  | nil => simp only [firstRepeated?, List.nodup_nil, List.not_mem_nil, false_imp_iff,
      implies_true, and_self]
  | cons text rest ih =>
      by_cases repeated : text ∈ seen
      · simp only [firstRepeated?, repeated, ↓reduceIte, reduceCtorEq, List.mem_cons,
          forall_eq_or_imp, not_true_eq_false, false_and, and_false]
      · simp only [firstRepeated?, repeated, ↓reduceIte, ih, List.nodup_cons, List.mem_cons,
          forall_eq_or_imp, not_or, not_false_eq_true, true_and]
        constructor
        · rintro ⟨distinct, apart⟩
          exact ⟨⟨fun member => (apart text member).1 rfl, distinct⟩,
            fun other member => (apart other member).2⟩
        · rintro ⟨⟨absent, distinct⟩, apart⟩
          exact ⟨distinct, fun other member =>
            ⟨fun same => absent (same ▸ member), apart other member⟩⟩

namespace Definitions

/-- Within each kind no two entries have one key. -/
def DistinctKeys (definitions : Definitions) : Prop :=
  ∀ kind, ((definitions.entries kind).map Entry.key).Nodup

theorem repeatedKey?_eq_none_iff (definitions : Definitions) (kind : Kind) :
    definitions.repeatedKey? kind = none ↔ ((definitions.entries kind).map Entry.key).Nodup := by
  unfold repeatedKey?
  rw [firstRepeated?_eq_none_iff]
  simp only [List.not_mem_nil, not_false_eq_true, implies_true, and_true]

/-- Definitions are valid when their keys are distinct within each kind. -/
theorem validate_eq_ok_iff (definitions : Definitions) :
    definitions.validate = .ok () ↔ definitions.DistinctKeys := by
  have none_iff : Kind.dispatchOrder.findSome? (fun kind =>
      (definitions.repeatedKey? kind).map (DefinitionsError.duplicateKey kind)) = none ↔
        definitions.DistinctKeys := by
    rw [List.findSome?_eq_none_iff]
    constructor
    · intro absent kind
      have unrepeated := absent kind (Kind.mem_dispatchOrder kind)
      rw [Option.map_eq_none_iff] at unrepeated
      exact (definitions.repeatedKey?_eq_none_iff kind).mp unrepeated
    · intro distinct kind _
      rw [Option.map_eq_none_iff]
      exact (definitions.repeatedKey?_eq_none_iff kind).mpr (distinct kind)
  unfold validate
  rw [← none_iff]
  split
  · rename_i error found
    simp only [found, reduceCtorEq]
  · rename_i absent
    simp only [absent]

end Definitions

/-- Among entries with distinct keys, an entry is the one found under its key. -/
theorem Entry.find?_eq_some_iff {entries : List Entry} (distinct : (entries.map Entry.key).Nodup)
    (name : String) (entry : Entry) :
    entries.find? (fun entry => entry.key = name) = some entry ↔
      entry ∈ entries ∧ entry.key = name := by
  constructor
  · intro found
    have named := List.find?_some found
    exact ⟨List.mem_of_find?_eq_some found, of_decide_eq_true named⟩
  · rintro ⟨member, named⟩
    cases search : entries.find? (fun entry => entry.key = name) with
    | none =>
        exact absurd (decide_eq_true named) (List.find?_eq_none.mp search entry member)
    | some other =>
        have otherNamed := List.find?_some search
        rw [List.inj_on_of_nodup_map distinct (List.mem_of_find?_eq_some search) member
          ((of_decide_eq_true otherNamed).trans named.symm)]

/-- Among entries with distinct keys, the last with a key is the first with it. -/
theorem Definitions.DistinctKeys.findLast?_eq {definitions : Definitions}
    (distinct : definitions.DistinctKeys) (kind : FieldKind) (name : String) :
    findLast? (fun entry : Entry => entry.key = name) (definitions.fieldEntries kind) =
      (definitions.fieldEntries kind).find? fun entry => entry.key = name := by
  have forward : ((definitions.fieldEntries kind).map Entry.key).Nodup := distinct (.field kind)
  have backward : ((definitions.fieldEntries kind).reverse.map Entry.key).Nodup := by
    rw [List.map_reverse]
    exact List.nodup_reverse.mpr forward
  apply Option.ext
  intro entry
  unfold findLast?
  rw [Entry.find?_eq_some_iff backward, Entry.find?_eq_some_iff forward, List.mem_reverse]

/-- Definitions compile exactly when they accept some form of keys and their keys are distinct
within each kind. -/
theorem Table.compile_eq_ok_iff {Query Fault : Type} [Filterable Query Fault]
    {definitions : Definitions} {relation : String} {resolver : Resolver Query}
    {table : Table Query Fault} :
    Table.compile definitions relation resolver = .ok table ↔
      ∃ policy, KeyPolicy.ofDefinitions definitions = .ok policy ∧ definitions.DistinctKeys ∧
        table = ⟨definitions, relation, resolver,
          Kind.dispatchOrder.flatMap (rulesOfKind policy definitions relation resolver)⟩ := by
  unfold Table.compile
  rw [Outcome.bind_eq_ok_iff]
  apply exists_congr
  intro policy
  rw [Outcome.bind_eq_ok_iff]
  constructor
  · rintro ⟨accepted, _, valid, same⟩
    cases same
    exact ⟨accepted, definitions.validate_eq_ok_iff.mp valid, rfl⟩
  · rintro ⟨accepted, distinct, rfl⟩
    exact ⟨accepted, (), definitions.validate_eq_ok_iff.mpr distinct, rfl⟩

end RequestFilter
