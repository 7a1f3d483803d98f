import Mathlib.Data.List.Nodup
import Mathlib.Data.List.Perm.Basic
import RequestFilter.Documentation
import RequestFilter.Proofs.Validity
import RequestFilter.Recorder

/-! # Documentation of tables

The documentation of definitions and the rules of their table are made apart from
each other: in different orders of kinds, with names of their own, and sorted in
the one but not in the other.  They agree nevertheless.  A section consists of
bullets (`Documentation.section?_eq_some`), and those of a kind name its rules,
one each, in strict order (`Table.Documents`).  The documentation is exactly the
sections of the kinds that have rules (`Table.exists_documents`).
-/

namespace RequestFilter

/-- Where only one element of a list of distinct elements gives anything, it gives all. -/
theorem flatMap_eq_of_only {α β : Type} {items : List α} {results : α → List β} {item : α}
    (distinct : items.Nodup) (member : item ∈ items)
    (only : ∀ other ∈ items, other ≠ item → results other = []) :
    items.flatMap results = results item := by
  obtain ⟨before, after, rfl⟩ := List.append_of_mem member
  obtain ⟨-, distinct, apart⟩ := List.nodup_append.mp distinct
  have none_before : before.flatMap results = [] := List.flatMap_eq_nil_iff.mpr fun other inside =>
    only other (List.mem_append_left _ inside) (apart other inside item List.mem_cons_self)
  have none_after : after.flatMap results = [] := List.flatMap_eq_nil_iff.mpr fun other inside =>
    only other (List.mem_append_right _ (List.mem_cons_of_mem _ inside)) fun same =>
      (List.nodup_cons.mp distinct).1 (same ▸ inside)
  rw [List.flatMap_append, List.flatMap_cons, none_before, none_after, List.nil_append,
    List.append_nil]

namespace Documentation

/-- A line of a section: a name, and the field that is written beside it. -/
structure Bullet where
  /-- The name of the keys that select the filter. -/
  name : String
  /-- The field, where it is written out. -/
  field : Option String
deriving DecidableEq, Repr

/-- The text of a bullet: the name, and the field in brackets beside it. -/
def Bullet.text (bullet : Bullet) : String :=
  "* `" ++ bullet.name ++ "`" ++
    (match bullet.field with
      | some field => " (`" ++ field ++ "`)"
      | none => "") ++ "\n"

/-- The title by which readers know the section of a kind. -/
def title : Kind → String
  | .field .equalTo => "Equal to"
  | .field .equalToAny => "Equal to any"
  | .field .smallerThan => "Smaller than"
  | .field .greaterOrEqual => "Greater than or equal to"
  | .field .startsWith => "String starts with"
  | .field .contains => "String contains"
  | .field .listContains => "List contains"
  | .field .listContainsAny => "List contains any"
  | .field .listContainsAll => "List contains all"
  | .toggle .orderBy => "Order by"
  | .toggle .limit => "Limit"
  | .toggle .offset => "Offset"

/-- The name that is reserved for a kind that is switched on as a whole. -/
def reservedName : Toggle → String
  | .limit => "limit"
  | .offset => "offset"
  | .orderBy => "order_by"

/-- What the section of sort lists says about directions. -/
def directions : String :=
  "\nDirections: `asc`, `desc`, `asc_nulls_first`, `asc_nulls_last`, `desc_nulls_first`, " ++
    "`desc_nulls_last`.\n"

/-- The section of a kind with given bullets; that of sort lists also lists the directions. -/
def sectionOf (kind : Kind) (bullets : List Bullet) : String :=
  "### " ++ title kind ++ "\n\n" ++ kind.description ++ "\n\n" ++
    (String.join (bullets.map Bullet.text) ++
      if kind = .toggle .orderBy then directions else "")

/-- The bullets of the section of a kind. -/
def bullets (definitions extras : Definitions) : Kind → List Bullet
  | .toggle which =>
    if definitions.isOn which || extras.isOn which then [⟨which.name, none⟩] else []
  | .field which =>
    (sortedEntries (definitions.fieldEntries which ++ extras.fieldEntries which)).map fun entry =>
      ⟨entry.key, entry.documentedField?⟩

/-- The documented pairs of a kind and a name, in the order of the documentation. -/
def documented (bullets : Kind → List Bullet) : List (Kind × String) :=
  Kind.documentationOrder.flatMap fun kind => (bullets kind).map fun bullet => (kind, bullet.name)

theorem sectionText_eq (kind : Kind) (body : String) :
    sectionText kind body =
      "### " ++ title kind ++ "\n\n" ++ kind.description ++ "\n\n" ++ body := by
  cases kind with
  | toggle which => cases which <;> rfl
  | field which => cases which <;> rfl

/-- An entry is written as the bullet of its key. -/
theorem entryLine_eq (entry : Entry) :
    entryLine entry = Bullet.text ⟨entry.key, entry.documentedField?⟩ := by
  apply String.toList_injective
  unfold entryLine Bullet.text code
  cases entry.documentedField? <;> simp

theorem directionsLine_eq : directionsLine = directions := by decide

theorem toggleBody_eq (which : Toggle) :
    toggleBody which =
      String.join ([⟨which.name, none⟩].map Bullet.text) ++
        if Kind.toggle which = .toggle .orderBy then directions else "" := by
  have line : "* " ++ code which.name ++ "\n" = Bullet.text ⟨which.name, none⟩ := by
    apply String.toList_injective
    simp [Bullet.text, code]
  unfold toggleBody
  rw [line, directionsLine_eq]
  cases which <;> rfl

section Sections

variable (definitions extras : Definitions) {kind : Kind}

/-- A kind without bullets has no section. -/
theorem section?_eq_none (absent : bullets definitions extras kind = []) :
    Documentation.section? definitions extras kind = none := by
  cases kind with
  | toggle which =>
      simp only [section?, bullets] at absent ⊢
      split at absent
      · cases absent
      · rename_i off
        rw [if_neg off]
  | field which =>
      simp only [section?, bullets, List.map_eq_nil_iff] at absent ⊢
      rw [absent]

/-- The section of any other kind consists of its bullets. -/
theorem section?_eq_some (present : bullets definitions extras kind ≠ []) :
    Documentation.section? definitions extras kind =
      some (sectionOf kind (bullets definitions extras kind)) := by
  cases kind with
  | toggle which =>
      simp only [section?, bullets] at present ⊢
      split
      · rw [toggleBody_eq, sectionText_eq]
        rfl
      · rename_i off
        rw [if_neg off] at present
        exact absurd rfl present
  | field which =>
      simp only [section?, bullets, ne_eq, List.map_eq_nil_iff] at present ⊢
      split
      · rename_i absent
        exact absurd absent present
      · rw [sectionOf, if_neg Kind.noConfusion, String.append_empty, List.map_map, sectionText_eq,
          List.map_congr_left fun entry _ => entryLine_eq entry]
        rfl

/-- The documentation is the sections of the kinds that have bullets. -/
theorem documentation_eq :
    definitions.documentation extras =
      "\n".intercalate ((Kind.documentationOrder.filter fun kind =>
          bullets definitions extras kind ≠ []).map fun kind =>
        sectionOf kind (bullets definitions extras kind)) := by
  have sections (kinds : List Kind) :
      kinds.filterMap (section? definitions extras) =
        (kinds.filter fun kind => bullets definitions extras kind ≠ []).map fun kind =>
          sectionOf kind (bullets definitions extras kind) := by
    induction kinds with
    | nil => rfl
    | cons kind rest ih =>
        rw [List.filterMap_cons, List.filter_cons, ih]
        by_cases absent : bullets definitions extras kind = []
        · simp only [section?_eq_none _ _ absent, absent, ne_eq, not_true_eq_false, decide_false,
            Bool.false_eq_true, ↓reduceIte]
        · simp only [section?_eq_some _ _ absent, absent, ne_eq, not_false_eq_true, decide_true,
            ↓reduceIte, List.map_cons]
  unfold Definitions.documentation
  rw [sections]

end Sections

/-- Sorting keeps the entries. -/
theorem sortedEntries_perm (entries : List Entry) : (sortedEntries entries).Perm entries :=
  List.mergeSort_perm _ _

/-- Entries with distinct keys are sorted in strict order of their keys. -/
theorem pairwise_keys_sortedEntries {entries : List Entry}
    (distinct : (entries.map Entry.key).Nodup) :
    ((sortedEntries entries).map Entry.key).Pairwise (· < ·) := by
  have sorted : (sortedEntries entries).Pairwise fun first second =>
      decide (¬second.key < first.key) = true := by
    apply List.pairwise_mergeSort
    · intro first second third before after
      rw [decide_eq_true_eq, String.not_lt] at before after ⊢
      exact String.le_trans before after
    · intro first second
      rw [Bool.or_eq_true, decide_eq_true_eq, decide_eq_true_eq, String.not_lt, String.not_lt]
      exact String.le_total first.key second.key
  have apart : ((sortedEntries entries).map Entry.key).Nodup :=
    ((sortedEntries_perm entries).map Entry.key).nodup_iff.mpr distinct
  rw [List.pairwise_map]
  refine (sorted.and (List.pairwise_map.mp apart)).imp ?_
  intro first second order
  have below := String.not_lt.mp (of_decide_eq_true order.1)
  by_contra above
  exact order.2 (String.le_antisymm below (String.not_lt.mp above))

end Documentation

/-- The names that definitions give to the keys of a kind. -/
def Definitions.names (definitions : Definitions) : Kind → List String
  | .toggle which => if definitions.isOn which then [which.name] else []
  | .field which => (definitions.fieldEntries which).map Entry.key

/-- The field that definitions write out for a name of a kind: that of the entry with this key, with
the relation where the entry has one of its own. -/
def Definitions.writtenField? (definitions : Definitions) (kind : Kind) (name : String) :
    Option String :=
  match (definitions.entries kind).find? fun entry => entry.key = name with
  | some (.aliased _ field) => some field
  | some (.qualified _ relation field) => some (relation ++ "." ++ field)
  | _ => none

section Bullets

open Documentation

variable {definitions : Definitions}

theorem bullets_toggle (which : Toggle) :
    bullets definitions .empty (.toggle which) =
      if definitions.isOn which then [⟨which.name, none⟩] else [] := by
  have off : Definitions.empty.isOn which = false := by cases which <;> rfl
  unfold bullets
  simp only [off, Bool.or_false]

theorem bullets_field (which : FieldKind) :
    bullets definitions .empty (.field which) =
      (sortedEntries (definitions.fieldEntries which)).map fun entry =>
        ⟨entry.key, entry.documentedField?⟩ := by
  have none_added : Definitions.empty.fieldEntries which = [] := by cases which <;> rfl
  unfold bullets
  simp only [none_added, List.append_nil]

/-- The bullets of a kind are for its names. -/
theorem names_bullets_perm (kind : Kind) :
    ((bullets definitions .empty kind).map Bullet.name).Perm (definitions.names kind) := by
  cases kind with
  | toggle which =>
      simp only [bullets_toggle, Definitions.names]
      split <;> exact .refl _
  | field which =>
      rw [bullets_field, List.map_map]
      exact (sortedEntries_perm _).map Entry.key

theorem name_of_mem_bullets {which : Toggle} {bullet : Bullet}
    (member : bullet ∈ bullets definitions .empty (.toggle which)) :
    bullet.name = reservedName which := by
  rw [bullets_toggle, List.mem_ite_nil_right, List.mem_singleton] at member
  rw [member.2]
  cases which <;> rfl

variable (distinct : definitions.DistinctKeys)

include distinct

/-- The bullets of a kind are in strict order. -/
theorem pairwise_names_bullets (kind : Kind) :
    ((bullets definitions .empty kind).map Bullet.name).Pairwise (· < ·) := by
  cases kind with
  | toggle which =>
      rw [bullets_toggle]
      cases definitions.isOn which
      · exact .nil
      · exact List.pairwise_singleton _ _
  | field which =>
      rw [bullets_field, List.map_map]
      exact pairwise_keys_sortedEntries (distinct (.field which))

theorem field_of_mem_bullets {kind : Kind} {bullet : Bullet}
    (member : bullet ∈ bullets definitions .empty kind) :
    bullet.field = definitions.writtenField? kind bullet.name := by
  cases kind with
  | toggle which =>
      rw [bullets_toggle, List.mem_ite_nil_right, List.mem_singleton] at member
      rw [member.2]
      rfl
  | field which =>
      rw [bullets_field, List.mem_map] at member
      obtain ⟨entry, inside, rfl⟩ := member
      have found := (Entry.find?_eq_some_iff (distinct (.field which)) entry.key entry).mpr
        ⟨(sortedEntries_perm _).mem_iff.mp inside, rfl⟩
      unfold Definitions.writtenField?
      rw [found]
      cases entry <;> rfl

end Bullets

section Rules

variable {Query Fault : Type}

/-- The name that all keys of a rule have. -/
def Rule.name? (rule : Rule Query Fault) : Option String :=
  match rule.matcher with
  | .keys (first :: others) _ =>
    if others.all fun key => key.name = first.name then some first.name else none
  | _ => none

/-- The rules of a kind, in order. -/
def Table.rulesOf (table : Table Query Fault) (kind : Kind) : List (Rule Query Fault) :=
  table.rules.filter fun rule => rule.kind = some kind

theorem Rule.name?_eq {rule : Rule Query Fault} {policy : KeyPolicy} {name : String}
    {listOnly : Bool} (matcher : rule.matcher = .keys (policy.acceptedKeys name) listOnly) :
    rule.name? = some name := by
  unfold Rule.name?
  rw [matcher]
  obtain ⟨atoms, texts, some_form⟩ := policy
  cases atoms <;> cases texts
  · cases some_form
  · rfl
  · rfl
  · simp only [KeyPolicy.acceptedKeys, ↓reduceIte, List.cons_append, List.nil_append,
      List.all_cons, Key.name, decide_true, List.all_nil, Bool.and_true]

variable [Filterable Query Fault] {definitions : Definitions} {relation : String}
  {resolver : Resolver Query} {policy : KeyPolicy}

/-- The rules of a kind are for its names. -/
theorem map_rulesOfKind (kind : Kind) :
    (rulesOfKind policy definitions relation resolver kind).map
        (fun rule : Rule Query Fault => (rule.kind, rule.name?)) =
      (definitions.names kind).map fun name => (some kind, some name) := by
  cases kind with
  | toggle which =>
      have named : (toggleRule policy (definitions.sortColumn relation) resolver which :
          Rule Query Fault).name? = some which.name := Rule.name?_eq rfl
      simp only [rulesOfKind, Definitions.names]
      split
      · rw [List.map_singleton, List.map_singleton, named]
        rfl
      · rfl
  | field which =>
      simp only [rulesOfKind, Definitions.names, List.map_map]
      refine List.map_congr_left fun entry _ => ?_
      have named : (fieldRule policy relation resolver which entry : Rule Query Fault).name? =
          some entry.key := Rule.name?_eq rfl
      exact congrArg (Prod.mk _) named

theorem map_name?_rulesOfKind (kind : Kind) :
    (rulesOfKind policy definitions relation resolver kind).map
        (Rule.name? : Rule Query Fault → Option String) =
      (definitions.names kind).map some := by
  have pairs : ((rulesOfKind policy definitions relation resolver kind).map
      fun rule : Rule Query Fault => (rule.kind, rule.name?)).map Prod.snd = _ :=
    congrArg (List.map Prod.snd) (map_rulesOfKind kind)
  rwa [List.map_map, List.map_map] at pairs

theorem kind_of_mem_rulesOfKind {kind : Kind} {rule : Rule Query Fault}
    (member : rule ∈ rulesOfKind policy definitions relation resolver kind) :
    rule.kind = some kind := by
  have paired := List.mem_map_of_mem (f := fun rule => (rule.kind, rule.name?)) member
  rw [map_rulesOfKind] at paired
  obtain ⟨name, -, same⟩ := List.mem_map.mp paired
  exact (congrArg Prod.fst same).symm

/-- Of all rules, those of a kind are the ones made for it. -/
theorem filter_rules (kind : Kind) :
    (Kind.dispatchOrder.flatMap (rulesOfKind policy definitions relation resolver)).filter
        (fun rule : Rule Query Fault => rule.kind = some kind) =
      rulesOfKind policy definitions relation resolver kind := by
  rw [List.filter_flatMap,
    flatMap_eq_of_only Kind.dispatchOrder_nodup (Kind.mem_dispatchOrder kind)]
  · refine List.filter_eq_self.mpr fun rule member => ?_
    exact decide_eq_true (kind_of_mem_rulesOfKind member)
  · intro other _ different
    refine List.filter_eq_nil_iff.mpr fun rule member same => different ?_
    rw [decide_eq_true_eq, kind_of_mem_rulesOfKind member, Option.some.injEq] at same
    exact same

end Rules

section Tables

open Documentation

variable {Query Fault : Type}

/-- Bullets of all kinds that document the rules of a table. -/
structure Table.Documents (table : Table Query Fault) (bullets : Kind → List Bullet) : Prop where
  /-- The bullets of a kind name its rules, one each. -/
  named : ∀ kind, ((bullets kind).map fun bullet => some bullet.name).Perm
    ((table.rulesOf kind).map Rule.name?)
  /-- A kind that is switched on as a whole goes by its reserved name. -/
  reserved : ∀ which, ∀ bullet ∈ bullets (.toggle which), bullet.name = reservedName which
  /-- They are in strict order of their names. -/
  ordered : ∀ kind, ((bullets kind).map Bullet.name).Pairwise (· < ·)
  /-- A field is written beside a name where the entry of the name writes one out. -/
  fields : ∀ kind, ∀ bullet ∈ bullets kind,
    bullet.field = table.definitions.writtenField? kind bullet.name

namespace Table.Documents

variable {table : Table Query Fault} {bullets : Kind → List Bullet}
  (documents : table.Documents bullets)

include documents

/-- No pair of a kind and a name is documented twice. -/
theorem nodup_documented : (documented bullets).Nodup := by
  refine List.nodup_flatMap.mpr ⟨fun kind _ => ?_, ?_⟩
  · have distinct : ((bullets kind).map Bullet.name).Nodup := by
      refine (documents.ordered kind).imp ?_
      rintro first _ less rfl
      exact String.lt_irrefl first less
    refine List.Nodup.of_map Prod.snd ?_
    rwa [List.map_map]
  · refine (Kind.documentationOrder_perm.nodup_iff.mpr Kind.dispatchOrder_nodup).imp ?_
    intro first second different pair inFirst inSecond
    obtain ⟨_, -, rfl⟩ := List.mem_map.mp inFirst
    obtain ⟨_, -, same⟩ := List.mem_map.mp inSecond
    exact different (congrArg Prod.fst same).symm

theorem bullets_eq_nil_iff (kind : Kind) : bullets kind = [] ↔ table.rulesOf kind = [] := by
  have same := (documents.named kind).length_eq
  rw [List.length_map, List.length_map] at same
  rw [← List.length_eq_zero_iff, ← List.length_eq_zero_iff, same]

end Table.Documents

variable [Filterable Query Fault] {definitions : Definitions} {relation : String}
  {resolver : Resolver Query} {table : Table Query Fault}

theorem Table.documents_bullets
    (compiled : Table.compile definitions relation resolver = .ok table) :
    table.Documents (bullets definitions .empty) := by
  obtain ⟨policy, -, distinct, rfl⟩ := Table.compile_eq_ok_iff.mp compiled
  refine ⟨fun kind => ?_, fun which bullet member => name_of_mem_bullets member,
    pairwise_names_bullets distinct, fun kind bullet member => field_of_mem_bullets distinct member⟩
  have perm : (((bullets definitions .empty kind).map Bullet.name).map some).Perm
      ((definitions.names kind).map some) := (names_bullets_perm kind).map some
  rw [List.map_map] at perm
  rw [Table.rulesOf, filter_rules, map_name?_rulesOfKind]
  exact perm

/-- The documented pairs are the kinds and the names of the rules. -/
theorem Table.documented_perm
    (compiled : Table.compile definitions relation resolver = .ok table) :
    ((documented (bullets definitions .empty)).map fun pair => (some pair.1, some pair.2)).Perm
      (table.rules.map fun rule => (rule.kind, rule.name?)) := by
  obtain ⟨policy, -, distinct, rfl⟩ := Table.compile_eq_ok_iff.mp compiled
  unfold documented
  rw [List.map_flatMap, List.map_flatMap]
  refine Kind.documentationOrder_perm.flatMap fun kind _ => ?_
  rw [map_rulesOfKind, List.map_map]
  have perm : (((bullets definitions .empty kind).map Bullet.name).map fun name =>
      (some kind, some name)).Perm _ := (names_bullets_perm kind).map _
  rwa [List.map_map] at perm

/-- **Documentation and rules cannot drift apart.**  The documentation of definitions is the
sections, in the order of the documentation, of exactly the kinds that have a rule in the table of
the definitions.  A section has one bullet for each rule of its kind, in strict order of the names
of the rules.  So the documented pairs of a kind and a name are those of the rules, and none is
documented twice. -/
theorem Table.exists_documents
    (compiled : Table.compile definitions relation resolver = .ok table) :
    ∃ bullets : Kind → List Bullet, table.Documents bullets ∧
      definitions.documentation .empty =
        "\n".intercalate ((Kind.documentationOrder.filter fun kind =>
          table.rulesOf kind ≠ []).map fun kind => sectionOf kind (bullets kind)) ∧
      (documented bullets).Nodup ∧
      ((documented bullets).map fun pair => (some pair.1, some pair.2)).Perm
        (table.rules.map fun rule => (rule.kind, rule.name?)) := by
  have documents := Table.documents_bullets compiled
  refine ⟨_, documents, ?_, documents.nodup_documented, Table.documented_perm compiled⟩
  simp only [documentation_eq, ne_eq, documents.bullets_eq_nil_iff]

end Tables

/-- Books by parts of their titles and by their authors, with a key of two kinds. -/
def Definitions.books : Definitions where
  stringKeys := true
  orderBy := true
  equalTo := [.aliased "title" "name", .qualified "author" "author" "name", .bare "limit"]
  contains := [.bare "title"]

theorem Table.exists_documents_books :
    ∃ table : Table Recorder Recorder.Rejected,
      Table.compile .books "books" (Resolver.joinOnce Recorder.join) = .ok table ∧
      ∃ bullets : Kind → List Documentation.Bullet, table.Documents bullets ∧
        Definitions.books.documentation .empty =
          "\n".intercalate ((Kind.documentationOrder.filter fun kind =>
            table.rulesOf kind ≠ []).map fun kind =>
              Documentation.sectionOf kind (bullets kind)) ∧
        (Documentation.documented bullets).Nodup ∧
        ((Documentation.documented bullets).map fun pair => (some pair.1, some pair.2)).Perm
          (table.rules.map fun rule => (rule.kind, rule.name?)) :=
  ⟨_, rfl, Table.exists_documents rfl⟩

end RequestFilter
