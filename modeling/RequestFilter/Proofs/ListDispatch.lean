import RequestFilter.Proofs.Faults
import RequestFilter.Proofs.Reachability

/-! # Where lists go

Every rule for a name takes lists, so a list goes to the first kind in dispatch
order that has the name of its key (`Table.exists_rule_of_list`).  For a name with
entries in several kinds this is a kind that needs lists unless the name is
reserved or another kind stands before all such kinds of the name
(`Table.takesAsSet_of_compile`).
-/

namespace RequestFilter

open Outcome

/-- In an ordered list the first element of a kind comes before all others of the kind. -/
theorem related_of_find? {α : Type} {related : α → α → Prop} {items : List α}
    (ordered : items.Pairwise related) {accepts : α → Bool} {found other : α}
    (search : items.find? accepts = some found) (member : other ∈ items)
    (accepted : accepts other = true) : other = found ∨ related found other := by
  obtain ⟨-, before, after, rfl, refused⟩ := List.find?_eq_some_iff_append.mp search
  rw [List.pairwise_append, List.pairwise_cons] at ordered
  rcases List.mem_append.mp member with inside | inside
  · have refuses := refused other inside
    rw [accepted] at refuses
    cases refuses
  · rcases List.mem_cons.mp inside with same | later
    · exact .inl same
    · exact .inr (ordered.2.1.1 other later)

theorem Toggle.name_injective {first second : Toggle} (same : first.name = second.name) :
    first = second := by
  revert same
  cases first <;> cases second <;> decide

/-- The kinds that are switched on as a whole stand before all others. -/
theorem Kind.rank_toggle_lt (which : Toggle) (kind : FieldKind) :
    (Kind.toggle which).rank < (Kind.field kind).rank := by
  cases which <;> cases kind <;> decide

theorem Documentation.mem_documented_iff {bullets : Kind → List Bullet} {kind : Kind}
    {name : String} :
    (kind, name) ∈ documented bullets ↔ name ∈ (bullets kind).map Bullet.name := by
  simp only [documented, List.mem_flatMap, List.mem_map, Prod.mk.injEq]
  constructor
  · rintro ⟨own, -, bullet, member, rfl, named⟩
    exact ⟨bullet, member, named⟩
  · rintro ⟨bullet, member, named⟩
    exact ⟨kind, Kind.documentationOrder_perm.mem_iff.mpr (Kind.mem_dispatchOrder kind), bullet,
      member, rfl, named⟩

/-- Equality with one of several values stands before all kinds that take one value. -/
theorem Kind.rank_equalToAny_lt {kind : FieldKind} (single : .field kind ∉ Kind.ofLists) :
    (Kind.field .equalToAny).rank < (Kind.field kind).rank := by
  revert single
  cases kind <;> decide

/-- Of the kinds that take one value, three stand before some that need lists. -/
theorem Kind.rank_lt_of_ofLists {kind other : FieldKind} (lists : .field kind ∈ Kind.ofLists)
    (single : .field other ∉ Kind.ofLists)
    (late : other ∉ [FieldKind.equalTo, .startsWith, .contains]) :
    (Kind.field kind).rank < (Kind.field other).rank := by
  revert lists single late
  cases kind <;> cases other <;> decide

section Tables

variable {Query Fault : Type}

/-- A list under a key is taken by a rule that needs lists, and never refused for its value. -/
structure Table.TakesAsSet (table : Table Query Fault) (key : Key) (items : List Value) :
    Prop where
  /-- The first rule that matches is for the name of the key and of a kind that needs lists. -/
  rule : ∃ rule kind, table.rules.find? (fun rule => rule.accepts key (.list items)) = some rule ∧
    rule.kind = some (.field kind) ∧ .field kind ∈ Kind.ofLists ∧ rule.name? = some key.name
  /-- No request with the list under the key fails because of the value of the key. -/
  served : ∀ query request, (key, .list items) ∈ request.entries →
    ∀ fault, table.apply query request ≠ .error (.invalidValue key fault)

variable [Filterable Query Fault] {definitions : Definitions} {relation : String}
  {resolver : Resolver Query} {table : Table Query Fault}
  (compiled : Table.compile definitions relation resolver = .ok table)

include compiled

/-- The names of a kind are those of its rules. -/
theorem Table.mem_names_iff {kind : Kind} {name : String} :
    name ∈ definitions.names kind ↔
      ∃ rule ∈ table.rules, rule.kind = some kind ∧ rule.name? = some name := by
  rw [← Table.mem_documented_iff compiled, ← (names_bullets_perm kind).mem_iff]
  exact Documentation.mem_documented_iff.symm

/-- A rule takes a list under an accepted key when it is for the name of the key. -/
theorem Table.accepts_list_iff {key : Key} (form : definitions.acceptsForm key = true)
    (items : List Value) {rule : Rule Query Fault} (member : rule ∈ table.rules) :
    rule.accepts key (.list items) = true ↔ rule.name? = some key.name := by
  obtain ⟨policy, accepted, -, rfl⟩ := Table.compile_eq_ok_iff.mp compiled
  obtain ⟨kind, -, inKind⟩ := List.mem_flatMap.mp member
  obtain ⟨name, isFor⟩ := exists_isFor_of_mem_rulesOfKind inKind
  rw [isFor.accepts_iff, ← acceptsForm_eq_accepts accepted, form]
  exact ⟨fun taken => taken.2.1, fun named => ⟨rfl, named, fun _ => rfl⟩⟩

/-- A list goes to a rule of the first kind in dispatch order that has the name of its key. -/
theorem Table.exists_rule_of_list {key : Key} (form : definitions.acceptsForm key = true)
    (items : List Value) {kind : Kind} (configured : key.name ∈ definitions.names kind) :
    ∃ rule own, table.rules.find? (fun rule => rule.accepts key (.list items)) = some rule ∧
      rule.kind = some own ∧ rule.name? = some key.name ∧ key.name ∈ definitions.names own ∧
        ∀ other, key.name ∈ definitions.names other → own.rank ≤ other.rank := by
  have takes (rule) (member : rule ∈ table.rules) :=
    Table.accepts_list_iff compiled form items member
  obtain ⟨candidate, inside, -, named⟩ := (Table.mem_names_iff compiled).mp configured
  have found : (table.rules.find? fun rule => rule.accepts key (.list items)).isSome :=
    List.find?_isSome.mpr ⟨candidate, inside, (takes candidate inside).mpr named⟩
  obtain ⟨rule, search⟩ := Option.isSome_iff_exists.mp found
  have member := List.mem_of_find?_eq_some search
  have taken := List.find?_some search
  have own := (takes rule member).mp taken
  obtain ⟨policy, all⟩ := Table.exists_isFor compiled
  obtain ⟨ownKind, _, isFor⟩ := all rule member
  refine ⟨rule, ownKind, search, isFor.ofKind, own,
    (Table.mem_names_iff compiled).mpr ⟨rule, member, isFor.ofKind, own⟩, fun other elsewhere => ?_⟩
  obtain ⟨later, laterMember, ofOther, laterNamed⟩ := (Table.mem_names_iff compiled).mp elsewhere
  rcases related_of_find? (Table.pairwise_rank_rules compiled) search laterMember
      ((takes later laterMember).mpr laterNamed) with rfl | before
  · rw [isFor.ofKind, Option.some.injEq] at ofOther
    exact ofOther ▸ Nat.le_refl _
  · exact before ownKind other isFor.ofKind ofOther

/-- A list under a name that is reserved by a kind that is switched on goes to that kind. -/
theorem Table.exists_rule_of_reserved {key : Key} (form : definitions.acceptsForm key = true)
    (items : List Value) {which : Toggle} (reserved : key.name ∈ definitions.names (.toggle which)) :
    ∃ rule, table.rules.find? (fun rule => rule.accepts key (.list items)) = some rule ∧
      rule.kind = some (.toggle which) := by
  obtain ⟨rule, own, search, ofKind, -, ownName, first⟩ :=
    Table.exists_rule_of_list compiled form items reserved
  refine ⟨rule, search, ?_⟩
  cases own with
  | field kind => exact absurd (first _ reserved) (Nat.not_le_of_lt (Kind.rank_toggle_lt which kind))
  | toggle other =>
      rw [Definitions.names, List.mem_ite_nil_right, List.mem_singleton] at ownName reserved
      rw [ofKind, Toggle.name_injective (ownName.2.symm.trans reserved.2)]

/-- A list that goes to a rule of a kind that needs lists is not refused for its value. -/
theorem Table.ne_invalidValue_of_list {key : Key} {items : List Value} {rule : Rule Query Fault}
    {kind : FieldKind}
    (search : table.rules.find? (fun rule => rule.accepts key (.list items)) = some rule)
    (ofKind : rule.kind = some (.field kind)) (lists : .field kind ∈ Kind.ofLists)
    {query : Query} {request : Request} (member : (key, .list items) ∈ request.entries)
    (fault : ValueFault) : table.apply query request ≠ .error (.invalidValue key fault) := by
  intro failure
  obtain ⟨filter, inside, middle, failed⟩ := Table.exists_of_apply_eq_error compiled failure
  have sameKey : filter.1 = key := by
    rcases (Definitions.befalls_of_interpretEntry failed).names with named | ⟨cause, same⟩
    · exact (Option.some.inj named).symm
    · cases same
  obtain rfl : filter = (key, .list items) :=
    List.inj_on_of_nodup_map request.distinct inside member sameKey
  obtain ⟨policy, accepted, -, rfl⟩ := Table.compile_eq_ok_iff.mp compiled
  rw [find?_rules accepted, Option.map_eq_some_iff] at search
  obtain ⟨reading, reads, rfl⟩ := search
  rw [Reading.kind_rule, Option.some.injEq] at ofKind
  unfold Definitions.interpretEntry at failed
  rw [reads] at failed
  cases reading with
  | toggle which => cases ofKind
  | entry own chosen =>
      obtain rfl : own = kind := Kind.field.inj ofKind
      have list : (Value.list items).isList = true := rfl
      obtain ⟨restriction, asked⟩ := FieldKind.exists_restriction_of_isList lists list
      simp only [Definitions.carryOut, asked] at failed
      obtain ⟨_, -, same⟩ := mapError_eq_error_iff.mp failed
      cases same

/-- **Lists go to kinds of lists.**  Let a key have an accepted form and the name of an entry of a
kind that needs lists.  Where its name is reserved by a kind that is switched on, lists go to that
kind.  Elsewhere they go to a rule that needs lists and are never refused for their value, as long
as the name has an entry for equality with one of several values, or has no entry of the kinds that
take one value and stand before the other kinds that need lists. -/
theorem Table.takesAsSet_of_compile {key : Key} (form : definitions.acceptsForm key = true)
    {set : FieldKind} (lists : .field set ∈ Kind.ofLists)
    (configured : key.name ∈ definitions.names (.field set)) (items : List Value) :
    (∀ which, key.name ∈ definitions.names (.toggle which) →
        ∃ rule, table.rules.find? (fun rule => rule.accepts key (.list items)) = some rule ∧
          rule.kind = some (.toggle which)) ∧
      ((∀ which, key.name ∉ definitions.names (.toggle which)) →
        (key.name ∈ definitions.names (.field .equalToAny) ∨
          ∀ kind ∈ [FieldKind.equalTo, .startsWith, .contains],
            key.name ∉ definitions.names (.field kind)) →
        table.TakesAsSet key items) := by
  constructor
  · intro which reserved
    exact Table.exists_rule_of_reserved compiled form items reserved
  · intro unreserved apart
    obtain ⟨rule, own, search, ofKind, named, ownName, first⟩ :=
      Table.exists_rule_of_list compiled form items configured
    cases own with
    | toggle which => exact absurd ownName (unreserved which)
    | field kind =>
        have ownLists : .field kind ∈ Kind.ofLists := by
          by_contra single
          rcases apart with equalToAny | absent
          · exact absurd (first _ equalToAny) (Nat.not_le_of_lt (Kind.rank_equalToAny_lt single))
          · have late : kind ∉ [FieldKind.equalTo, .startsWith, .contains] := fun early =>
              absent kind early ownName
            exact absurd (first _ configured)
              (Nat.not_le_of_lt (Kind.rank_lt_of_ofLists lists single late))
        exact ⟨⟨rule, kind, search, ofKind, ownLists, named⟩, fun query request member fault =>
          Table.ne_invalidValue_of_list compiled search ofKind ownLists member fault⟩

end Tables

/-- Posts by a status that four kinds share, by tags, and by a column with a reserved name. -/
def Definitions.tagged : Definitions where
  atomKeys := true
  stringKeys := true
  limit := true
  equalTo := [.bare "tags", .bare "status"]
  equalToAny := [.bare "status", .bare "limit"]
  listContains := [.bare "status"]
  listContainsAny := [.bare "tags", .aliased "status" "states"]

theorem Table.takesAsSet_of_compile_status :
    ∃ table : Table Recorder Recorder.Rejected,
      Table.compile .tagged "posts" (Resolver.joinOnce Recorder.join) = .ok table ∧
        Definitions.tagged.acceptsForm (.text "status") = true ∧
        Kind.field .listContainsAny ∈ Kind.ofLists ∧
        "status" ∈ Definitions.tagged.names (.field .listContainsAny) ∧
        table.TakesAsSet (.text "status") [.text "draft", .null] := by
  have form : Definitions.tagged.acceptsForm (.text "status") = true := rfl
  have lists : Kind.field .listContainsAny ∈ Kind.ofLists := by decide
  have configured : (Key.text "status").name ∈ Definitions.tagged.names (.field .listContainsAny) :=
    by decide
  refine ⟨_, rfl, form, lists, configured, ?_⟩
  refine (Table.takesAsSet_of_compile rfl form lists configured _).2 (fun which => ?_)
    (.inl (by decide))
  cases which <;> decide

/-- Tags have an entry of a kind that needs lists, but equality stands before it, and a reserved
name stands before all entries. -/
theorem Table.not_takesAsSet_tags :
    ∃ table : Table Recorder Recorder.Rejected,
      Table.compile .tagged "posts" (Resolver.joinOnce Recorder.join) = .ok table ∧
        Definitions.tagged.acceptsForm (.text "tags") = true ∧
        "tags" ∈ Definitions.tagged.names (.field .listContainsAny) ∧
        (table.rules.find? fun rule => rule.accepts (.text "tags") (.list [.text "lean"])).bind
          Rule.kind = some (.field .equalTo) ∧
        ¬table.TakesAsSet (.text "tags") [.text "lean"] ∧
        Definitions.tagged.acceptsForm (.text "limit") = true ∧
        "limit" ∈ Definitions.tagged.names (.field .equalToAny) ∧
        (table.rules.find? fun rule => rule.accepts (.text "limit") (.list [.text "lean"])).bind
          Rule.kind = some (.toggle .limit) ∧
        ¬table.TakesAsSet (.text "limit") [.text "lean"] := by
  refine ⟨_, rfl, rfl, by decide, rfl, fun takes => ?_, rfl, by decide, rfl, fun takes => ?_⟩
  · exact takes.served { base := "posts" } ⟨[(.text "tags", .list [.text "lean"])], by decide⟩
      List.mem_cons_self .notScalar rfl
  · exact takes.served { base := "posts" } ⟨[(.text "limit", .list [.text "lean"])], by decide⟩
      List.mem_cons_self .notCount rfl

end RequestFilter
