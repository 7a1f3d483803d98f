import RequestFilter.Proofs.Compiled
import RequestFilter.Proofs.DocumentedRules

/-! # Rules that can fire

The first rule that matches a filter answers it, so a rule is of no use when an
earlier one takes everything that it takes.  Rules for different names have no
filter in common.  Of two rules for one name, the earlier leaves something to the
later one exactly when it takes lists only and the later one does not
(`Rule.IsFor.exists_first_iff`).  Since the rules of a table stand in dispatch
order and no kind has a name twice, a line of the documentation that nothing can
reach is one whose name also belongs to a kind that hides its own
(`Table.canFire_iff`).
-/

namespace RequestFilter

namespace Kind

/-- The place of a kind in the dispatch order. -/
def rank (kind : Kind) : Nat :=
  dispatchOrder.idxOf kind

theorem rank_inj {first second : Kind} : first.rank = second.rank ↔ first = second :=
  List.idxOf_inj (mem_dispatchOrder first)

theorem pairwise_rank_dispatchOrder :
    dispatchOrder.Pairwise fun first second => first.rank ≤ second.rank := by
  decide

/-- A kind is tried before another one and takes all values that the other one takes. -/
structure Hides (other kind : Kind) : Prop where
  earlier : other.rank < kind.rank
  takesAll : other ∈ ofLists → kind ∈ ofLists

end Kind

theorem KeyPolicy.exists_accepted_key (policy : KeyPolicy) (name : String) :
    ∃ key : Key, policy.accepts key = true ∧ key.name = name := by
  rcases Bool.or_eq_true_iff.mp policy.some_form with atoms | texts
  · exact ⟨.atom name, atoms, rfl⟩
  · exact ⟨.text name, texts, rfl⟩

theorem Value.exists_isList_eq (list : Bool) : ∃ value : Value, value.isList = list := by
  cases list
  · exact ⟨.null, rfl⟩
  · exact ⟨.list [], rfl⟩

/-- An element behind others is the first to be accepted when it is accepted and none of the others
is. -/
theorem find?_eq_some_iff_of_notMem {α : Type} {before after : List α} {item : α}
    (fresh : item ∉ before) (accepts : α → Bool) :
    (before ++ item :: after).find? accepts = some item ↔
      accepts item = true ∧ ∀ earlier ∈ before, accepts earlier = false := by
  constructor
  · intro found
    refine ⟨List.find?_some found, fun earlier inside => ?_⟩
    by_contra accepted
    obtain ⟨first, search⟩ := Option.isSome_iff_exists.mp
      (List.find?_isSome.mpr ⟨earlier, inside, (Bool.not_eq_false _).mp accepted⟩)
    rw [List.find?_append, search, Option.some_or, Option.some.injEq] at found
    exact fresh (found ▸ List.mem_of_find?_eq_some search)
  · rintro ⟨accepted, refused⟩
    have none_before : before.find? accepts = none :=
      List.find?_eq_none.mpr fun earlier inside => Bool.not_eq_true _ ▸ refused earlier inside
    rw [List.find?_append, none_before, Option.none_or, List.find?_cons_of_pos accepted]

section Rules

variable {Query Fault : Type}

/-- The rule matches lists of values and nothing else. -/
def Rule.listOnly (rule : Rule Query Fault) : Bool :=
  match rule.matcher with
  | .keys _ listOnly => listOnly
  | .custom _ => false

/-- A rule is for a kind, and for the keys of a name in the forms that a policy accepts. -/
structure Rule.IsFor (rule : Rule Query Fault) (policy : KeyPolicy) (kind : Kind)
    (name : String) : Prop where
  ofKind : rule.kind = some kind
  matcher : rule.matcher = .keys (policy.acceptedKeys name) kind.takesList

namespace Rule.IsFor

variable {rule : Rule Query Fault} {policy : KeyPolicy} {kind : Kind} {name : String}
  (isFor : rule.IsFor policy kind name)

include isFor

theorem name? : rule.name? = some name :=
  Rule.name?_eq isFor.matcher

theorem listOnly_eq : rule.listOnly = kind.takesList := by
  unfold Rule.listOnly
  rw [isFor.matcher]

/-- A rule takes the accepted keys of its name, with lists or with any values. -/
theorem accepts_iff (key : Key) (value : Value) :
    rule.accepts key value = true ↔
      policy.accepts key = true ∧ rule.name? = some key.name ∧
        (rule.listOnly = true → value.isList = true) := by
  have list : (!kind.takesList || value.isList) = true ↔
      (kind.takesList = true → value.isList = true) := by
    cases kind.takesList <;> cases value.isList <;> decide
  have keyed : decide (key ∈ policy.acceptedKeys name) = true ↔
      policy.accepts key = true ∧ name = key.name := by
    rw [decide_eq_true_eq, KeyPolicy.mem_acceptedKeys, eq_comm (a := name)]
  unfold Rule.accepts
  rw [isFor.name?, isFor.listOnly_eq, isFor.matcher, Option.some.injEq, ← list, ← and_assoc,
    ← keyed]
  exact Bool.and_eq_true_iff

/-- Some filter is left to a rule exactly when the rules for its name before it take lists only and
it does not. -/
theorem exists_first_iff {before : List (Rule Query Fault)}
    (others : ∀ earlier ∈ before, ∃ kind name, earlier.IsFor policy kind name) :
    (∃ key value, rule.accepts key value = true ∧
        ∀ earlier ∈ before, earlier.accepts key value = false) ↔
      ∀ earlier ∈ before, earlier.name? = rule.name? →
        earlier.listOnly = true ∧ rule.listOnly = false := by
  constructor
  · rintro ⟨key, value, taken, refused⟩ earlier inside same
    obtain ⟨_, _, otherFor⟩ := others earlier inside
    obtain ⟨form, named, list⟩ := (isFor.accepts_iff key value).mp taken
    have untaken : ¬(earlier.listOnly = true → value.isList = true) := fun list =>
      Bool.eq_false_iff.mp (refused earlier inside)
        ((otherFor.accepts_iff key value).mpr ⟨form, same.trans named, list⟩)
    obtain ⟨listOnly, unlisted⟩ := Classical.not_imp.mp untaken
    exact ⟨listOnly, Bool.eq_false_iff.mpr fun only => unlisted (list only)⟩
  · intro leaves
    obtain ⟨key, form, named⟩ := policy.exists_accepted_key name
    have own : rule.name? = some key.name := by rw [isFor.name?, named]
    -- A list where the rule takes nothing else, and otherwise what no rule for lists takes.
    obtain ⟨value, shape⟩ := Value.exists_isList_eq rule.listOnly
    have taken := (isFor.accepts_iff key value).mpr ⟨form, own, fun only => shape.trans only⟩
    refine ⟨key, value, taken, fun earlier inside => Bool.eq_false_iff.mpr fun otherTaken => ?_⟩
    obtain ⟨_, _, otherFor⟩ := others earlier inside
    obtain ⟨-, otherNamed, list⟩ := (otherFor.accepts_iff key value).mp otherTaken
    obtain ⟨otherOnly, unlisted⟩ := leaves earlier inside (otherNamed.trans own.symm)
    exact Bool.false_ne_true (unlisted.symm.trans (shape.symm.trans (list otherOnly)))

end Rule.IsFor

variable [Filterable Query Fault] {definitions : Definitions} {relation : String}
  {resolver : Resolver Query} {policy : KeyPolicy}

theorem exists_isFor_of_mem_rulesOfKind {kind : Kind} {rule : Rule Query Fault}
    (member : rule ∈ rulesOfKind policy definitions relation resolver kind) :
    ∃ name, rule.IsFor policy kind name := by
  cases kind with
  | toggle which =>
      rw [rulesOfKind, List.mem_ite_nil_right, List.mem_singleton] at member
      obtain ⟨-, rfl⟩ := member
      exact ⟨which.name, rfl, rfl⟩
  | field which =>
      rw [rulesOfKind, List.mem_map] at member
      obtain ⟨entry, -, rfl⟩ := member
      exact ⟨entry.key, rfl, rfl⟩

end Rules

section Tables

open Documentation

variable {Query Fault : Type}

/-- Some filter finds the rule in a table. -/
def Table.CanFire (table : Table Query Fault) (rule : Rule Query Fault) : Prop :=
  ∃ key value, table.rules.find? (fun rule => rule.accepts key value) = some rule

/-- Which rules of a table can fire, as its rules tell and as the bullets of its documentation
tell. -/
structure Table.FiresUnlessHidden (table : Table Query Fault) (bullets : Kind → List Bullet) :
    Prop where
  /-- Every rule is of a kind and for a name, and its kind decides whether it takes lists only. -/
  kinds : ∀ rule ∈ table.rules, ∃ kind name, rule.kind = some kind ∧ rule.name? = some name ∧
    (rule.listOnly = true ↔ kind ∈ Kind.ofLists)
  /-- A rule can fire exactly when every rule for its name before it takes lists only and it does
  not. -/
  fires_iff : ∀ before rule after, table.rules = before ++ rule :: after →
    (table.CanFire rule ↔ ∀ earlier ∈ before, earlier.name? = rule.name? →
      earlier.listOnly = true ∧ rule.listOnly = false)
  /-- A documented name of a kind reaches no rule of the kind exactly when the name is documented
  for a kind that hides it. -/
  unreachable_iff : ∀ kind name, (kind, name) ∈ documented bullets →
    ((¬∃ rule, rule.kind = some kind ∧ rule.name? = some name ∧ table.CanFire rule) ↔
      ∃ other : Kind, other.Hides kind ∧ (other, name) ∈ documented bullets)

variable [Filterable Query Fault] {definitions : Definitions} {relation : String}
  {resolver : Resolver Query} {table : Table Query Fault}
  (compiled : Table.compile definitions relation resolver = .ok table)

include compiled

theorem Table.exists_isFor :
    ∃ policy : KeyPolicy, ∀ rule ∈ table.rules, ∃ kind name, rule.IsFor policy kind name := by
  obtain ⟨policy, -, -, rfl⟩ := Table.compile_eq_ok_iff.mp compiled
  refine ⟨policy, fun rule member => ?_⟩
  obtain ⟨kind, -, inKind⟩ := List.mem_flatMap.mp member
  exact ⟨kind, exists_isFor_of_mem_rulesOfKind inKind⟩

/-- The rules of a table stand in dispatch order. -/
theorem Table.pairwise_rank_rules :
    table.rules.Pairwise fun first second => ∀ kind other, first.kind = some kind →
      second.kind = some other → kind.rank ≤ other.rank := by
  obtain ⟨policy, -, -, rfl⟩ := Table.compile_eq_ok_iff.mp compiled
  refine List.pairwise_flatMap.mpr ⟨fun kind _ => ?_, ?_⟩
  · refine List.pairwise_of_forall_mem_list fun first inFirst second inSecond => ?_
    rw [kind_of_mem_rulesOfKind inFirst, kind_of_mem_rulesOfKind inSecond]
    rintro _ _ ⟨⟩ ⟨⟩
    exact Nat.le_refl _
  · refine Kind.pairwise_rank_dispatchOrder.imp fun order first inFirst second inSecond => ?_
    rw [kind_of_mem_rulesOfKind inFirst, kind_of_mem_rulesOfKind inSecond]
    rintro _ _ ⟨⟩ ⟨⟩
    exact order

/-- No two rules of a table have one kind and one name. -/
theorem Table.nodup_kind_name :
    (table.rules.map fun rule => (rule.kind, rule.name?)).Nodup := by
  refine (Table.documented_perm compiled).nodup_iff.mp ?_
  refine (Table.documents_bullets compiled).nodup_documented.map ?_
  rintro ⟨kind, name⟩ ⟨otherKind, otherName⟩ same
  cases same
  rfl

theorem Table.eq_of_kind_of_name {first second : Rule Query Fault} (inFirst : first ∈ table.rules)
    (inSecond : second ∈ table.rules) (sameKind : first.kind = second.kind)
    (sameName : first.name? = second.name?) : first = second :=
  List.inj_on_of_nodup_map (Table.nodup_kind_name compiled) inFirst inSecond
    (by rw [sameKind, sameName])

/-- A rule of a table can fire exactly when the rules for its name before it take lists only and it
does not. -/
theorem Table.canFire_iff_of_rules {before after : List (Rule Query Fault)}
    {rule : Rule Query Fault} (split : table.rules = before ++ rule :: after) :
    table.CanFire rule ↔
      ∀ earlier ∈ before, earlier.name? = rule.name? →
        earlier.listOnly = true ∧ rule.listOnly = false := by
  obtain ⟨policy, all⟩ := Table.exists_isFor compiled
  have distinct := Table.nodup_kind_name compiled
  rw [split] at all
  rw [split, List.map_append, List.map_cons] at distinct
  have fresh : rule ∉ before := fun inside =>
    (List.nodup_append.mp distinct).2.2 _ (List.mem_map_of_mem inside) _ List.mem_cons_self rfl
  obtain ⟨_, _, isFor⟩ := all rule (List.mem_append_right _ List.mem_cons_self)
  rw [← isFor.exists_first_iff fun earlier inside => all earlier (List.mem_append_left _ inside)]
  unfold Table.CanFire
  simp only [split, find?_eq_some_iff_of_notMem fresh]

/-- The rules before a rule of a table that have its name are those of earlier kinds. -/
theorem Table.mem_before_iff {before after : List (Rule Query Fault)}
    {rule other : Rule Query Fault} {kind otherKind : Kind}
    (split : table.rules = before ++ rule :: after)
    (ofKind : rule.kind = some kind) (ofOther : other.kind = some otherKind)
    (sameName : other.name? = rule.name?) :
    other ∈ before ↔ other ∈ table.rules ∧ otherKind.rank < kind.rank := by
  have ordered := Table.pairwise_rank_rules compiled
  have distinct := Table.nodup_kind_name compiled
  rw [split, List.pairwise_append, List.pairwise_cons] at ordered
  rw [split, List.map_append, List.map_cons] at distinct
  obtain ⟨-, ⟨notAfter, -⟩, notBefore⟩ := ordered
  constructor
  · intro inside
    refine ⟨split ▸ List.mem_append_left _ inside, ?_⟩
    refine Nat.lt_of_le_of_ne (notBefore other inside rule List.mem_cons_self _ _ ofOther ofKind) ?_
    intro sameRank
    refine (List.nodup_append.mp distinct).2.2 _ (List.mem_map_of_mem inside) _
      List.mem_cons_self ?_
    rw [ofOther, ofKind, Kind.rank_inj.mp sameRank, sameName]
  · rintro ⟨member, below⟩
    rw [split, List.mem_append, List.mem_cons] at member
    rcases member with inside | rfl | inside
    · exact inside
    · rw [ofKind, Option.some.injEq] at ofOther
      exact absurd below (ofOther ▸ Nat.lt_irrefl _)
    · exact absurd (notAfter other inside _ _ ofKind ofOther) (Nat.not_le_of_lt below)

/-- Whether a rule of a table takes lists only is a matter of its kind. -/
theorem Table.listOnly_iff {rule : Rule Query Fault} {kind : Kind} (member : rule ∈ table.rules)
    (ofKind : rule.kind = some kind) : rule.listOnly = true ↔ kind ∈ Kind.ofLists := by
  obtain ⟨policy, all⟩ := Table.exists_isFor compiled
  obtain ⟨own, _, isFor⟩ := all rule member
  obtain rfl : own = kind := Option.some.inj (isFor.ofKind.symm.trans ofKind)
  rw [isFor.listOnly_eq, Kind.takesList_iff_mem_ofLists]

/-- A rule of a table can fire exactly when no rule for its name is of a kind that hides its own. -/
theorem Table.canFire_iff_not_hidden {rule : Rule Query Fault} {kind : Kind}
    (member : rule ∈ table.rules) (ofKind : rule.kind = some kind) :
    table.CanFire rule ↔ ∀ other ∈ table.rules, other.name? = rule.name? →
      ∀ otherKind, other.kind = some otherKind → ¬otherKind.Hides kind := by
  obtain ⟨before, after, split⟩ := List.append_of_mem member
  have own := Table.listOnly_iff compiled member ofKind
  rw [Table.canFire_iff_of_rules compiled split]
  constructor
  · intro leaves other otherMember sameName otherKind ofOther hides
    have inside := (Table.mem_before_iff compiled split ofKind ofOther sameName).mpr
      ⟨otherMember, hides.earlier⟩
    obtain ⟨otherOnly, unlisted⟩ := leaves other inside sameName
    have lists := own.mpr
      (hides.takesAll ((Table.listOnly_iff compiled otherMember ofOther).mp otherOnly))
    exact Bool.false_ne_true (unlisted.symm.trans lists)
  · intro unhidden earlier inside sameName
    have earlierMember : earlier ∈ table.rules := split ▸ List.mem_append_left _ inside
    obtain ⟨policy, all⟩ := Table.exists_isFor compiled
    obtain ⟨otherKind, _, isFor⟩ := all earlier earlierMember
    have notHides := unhidden earlier earlierMember sameName otherKind isFor.ofKind
    have below := ((Table.mem_before_iff compiled split ofKind isFor.ofKind sameName).mp inside).2
    have leaves : ¬(otherKind ∈ Kind.ofLists → kind ∈ Kind.ofLists) := fun takesAll =>
      notHides ⟨below, takesAll⟩
    obtain ⟨otherLists, unlisted⟩ := Classical.not_imp.mp leaves
    exact ⟨(Table.listOnly_iff compiled earlierMember isFor.ofKind).mpr otherLists,
      Bool.eq_false_iff.mpr fun only => unlisted (own.mp only)⟩

theorem Table.mem_documented_iff {kind : Kind} {name : String} :
    (kind, name) ∈ documented (bullets definitions .empty) ↔
      ∃ rule ∈ table.rules, rule.kind = some kind ∧ rule.name? = some name := by
  have perm := (Table.documented_perm compiled).mem_iff (a := (some kind, some name))
  simp only [List.mem_map, Prod.mk.injEq, Option.some.injEq] at perm
  rw [← perm]
  constructor
  · intro member
    exact ⟨(kind, name), member, rfl, rfl⟩
  · rintro ⟨⟨_, _⟩, member, rfl, rfl⟩
    exact member

/-- What is documented and cannot be reached is hidden by what is documented elsewhere. -/
theorem Table.unreachable_iff_hidden {kind : Kind} {name : String}
    (advertised : (kind, name) ∈ documented (bullets definitions .empty)) :
    (¬∃ rule, rule.kind = some kind ∧ rule.name? = some name ∧ table.CanFire rule) ↔
      ∃ other : Kind, other.Hides kind ∧
        (other, name) ∈ documented (bullets definitions .empty) := by
  obtain ⟨rule, member, ofKind, named⟩ := (Table.mem_documented_iff compiled).mp advertised
  have sole : (∃ rule, rule.kind = some kind ∧ rule.name? = some name ∧ table.CanFire rule) ↔
      table.CanFire rule := by
    constructor
    · rintro ⟨other, sameKind, sameName, key, value, found⟩
      have same := Table.eq_of_kind_of_name compiled (List.mem_of_find?_eq_some found) member
        (sameKind.trans ofKind.symm) (sameName.trans named.symm)
      exact same ▸ ⟨key, value, found⟩
    · intro fires
      exact ⟨rule, ofKind, named, fires⟩
  rw [sole, Table.canFire_iff_not_hidden compiled member ofKind]
  constructor
  · intro hidden
    by_contra apart
    refine hidden fun other otherMember sameName otherKind ofOther hides => apart ?_
    exact ⟨otherKind, hides, (Table.mem_documented_iff compiled).mpr
      ⟨other, otherMember, ofOther, sameName.trans named⟩⟩
  · rintro ⟨otherKind, hides, elsewhere⟩ unhidden
    obtain ⟨other, otherMember, ofOther, otherNamed⟩ :=
      (Table.mem_documented_iff compiled).mp elsewhere
    exact unhidden other otherMember (otherNamed.trans named.symm) otherKind ofOther hides

/-- **Only hidden rules are out of reach.**  In a table that compiled definitions give, a rule is
the first to match some filter exactly when each rule for its name before it takes lists only and it
does not.  The documentation of the definitions has a line for each rule, and a line that no filter
reaches is one whose name is also documented for a kind that is tried before and takes all values
that its own kind takes. -/
theorem Table.exists_firesUnlessHidden :
    ∃ bullets : Kind → List Bullet, table.Documents bullets ∧
      definitions.documentation .empty =
        "\n".intercalate ((Kind.documentationOrder.filter fun kind =>
          table.rulesOf kind ≠ []).map fun kind => sectionOf kind (bullets kind)) ∧
      table.FiresUnlessHidden bullets := by
  have documents := Table.documents_bullets compiled
  refine ⟨bullets definitions .empty, documents, ?_, ?_⟩
  · simp only [documentation_eq, ne_eq, documents.bullets_eq_nil_iff]
  · refine ⟨fun rule member => ?_, fun _ _ _ split => Table.canFire_iff_of_rules compiled split,
      fun _ _ advertised => Table.unreachable_iff_hidden compiled advertised⟩
    obtain ⟨policy, all⟩ := Table.exists_isFor compiled
    obtain ⟨kind, name, isFor⟩ := all rule member
    exact ⟨kind, name, isFor.ofKind, isFor.name?, Table.listOnly_iff compiled member isFor.ofKind⟩

end Tables

/-- Players by a name that four kinds share, with a limit that hides an entry. -/
def Definitions.overlapping : Definitions where
  stringKeys := true
  limit := true
  equalTo := [.bare "name", .bare "limit"]
  equalToAny := [.bare "name"]
  contains := [.aliased "name" "nickname"]
  listContainsAll := [.aliased "name" "titles"]

theorem Table.exists_firesUnlessHidden_overlapping :
    ∃ table : Table Recorder Recorder.Rejected,
      Table.compile .overlapping "players" (Resolver.joinOnce Recorder.join) = .ok table ∧
      ∃ bullets : Kind → List Documentation.Bullet, table.Documents bullets ∧
        Definitions.overlapping.documentation .empty =
          "\n".intercalate ((Kind.documentationOrder.filter fun kind =>
            table.rulesOf kind ≠ []).map fun kind =>
              Documentation.sectionOf kind (bullets kind)) ∧
        table.FiresUnlessHidden bullets :=
  ⟨_, rfl, Table.exists_firesUnlessHidden rfl⟩

end RequestFilter
