import RequestFilter.Proofs.Compiled

/-! # What a request reads of definitions

A request reads little of the definitions behind a table: the forms of keys, the
kinds that are switched on, for each of its filters the entries under the name of
the key, and for each name in a sort list the equality filter of that name.  Two
definitions in which a filter finds the same carry it out alike
(`Definitions.ReadAlike.interpretEntry_eq`), so tables of definitions that agree
on all that a request names give it the same answer, whatever else the
definitions hold (`Table.apply_eq_of_agreeOn`).
-/

namespace RequestFilter

/-- The name that an element of a sort list looks up among the equality filters. -/
def Value.sortName? : Value → Option String
  | .text name => some name
  | .order (.field name) => some name
  | .order (.directed _ name) => some name
  | _ => none

namespace Definitions

/-- Both definitions have the same entry of a kind under a name, or neither has one. -/
def SameEntry (first second : Definitions) (kind : FieldKind) (name : String) : Prop :=
  ∀ entry : Entry, entry.key = name →
    (entry ∈ first.fieldEntries kind ↔ entry ∈ second.fieldEntries kind)

/-- Only the entries that either of them has need a look. -/
instance (first second : Definitions) (kind : FieldKind) (name : String) :
    Decidable (first.SameEntry second kind name) :=
  decidable_of_iff (∀ entry ∈ first.fieldEntries kind ++ second.fieldEntries kind,
    entry.key = name → (entry ∈ first.fieldEntries kind ↔ entry ∈ second.fieldEntries kind)) <| by
    constructor
    · intro looked entry named
      by_cases found : entry ∈ first.fieldEntries kind ++ second.fieldEntries kind
      · exact looked entry found named
      · rw [List.mem_append, not_or] at found
        exact iff_of_false found.1 found.2
    · intro same entry _ named
      exact same entry named

/-- Two definitions agree on all that a request names. -/
structure AgreeOn (first second : Definitions) (request : Request) : Prop where
  /-- Keys made in code are accepted in both or in neither. -/
  atomKeys : first.atomKeys = second.atomKeys
  /-- So are keys that arrive as text. -/
  stringKeys : first.stringKeys = second.stringKeys
  /-- The same kinds are switched on. -/
  toggles : ∀ which, first.isOn which = second.isOn which
  /-- Under the name of a key of the request each kind has the same entry in both. -/
  entries : ∀ filter ∈ request.entries, ∀ kind, first.SameEntry second kind filter.1.name
  /-- So do equality filters under a name in a sort list of the request. -/
  sortNames : ∀ filter ∈ request.entries, filter.1.name = Toggle.orderBy.name →
    ∀ items, filter.2 = .list items → ∀ item ∈ items, ∀ name, item.sortName? = some name →
      first.SameEntry second .equalTo name

/-- A filter finds the same in two definitions. -/
structure ReadAlike (first second : Definitions) (key : Key) (value : Value) : Prop where
  form : first.acceptsForm key = second.acceptsForm key
  toggles : ∀ which, first.isOn which = second.isOn which
  entries : ∀ kind, (first.fieldEntries kind).find? (fun entry => entry.key = key.name) =
    (second.fieldEntries kind).find? fun entry => entry.key = key.name
  sorts : key.name = Toggle.orderBy.name → ∀ item ∈ value.items?.getD [], ∀ relation,
    first.sortTarget? relation item = second.sortTarget? relation item

variable {first second : Definitions} {key : Key} {value : Value}

namespace ReadAlike

variable (alike : first.ReadAlike second key value)

include alike

theorem reading?_eq : first.reading? key value = second.reading? key value := by
  have each (kind : Kind) :
      first.readingAs? key.name value kind = second.readingAs? key.name value kind := by
    unfold readingAs?
    cases kind with
    | toggle which => simp only [alike.toggles which]
    | field kind => simp only [alike.entries kind]
  unfold reading?
  rw [alike.form, funext each]

variable {Query Fault : Type} [Filterable Query Fault] (relation : String)
  (resolver : Resolver Query) (query : Query)

/-- Definitions in which a filter finds the same carry it out alike. -/
theorem interpretEntry_eq :
    first.interpretEntry relation resolver query key value =
      second.interpretEntry relation resolver query key value := by
  unfold interpretEntry
  rw [← alike.reading?_eq]
  cases reads : first.reading? key value with
  | none => rfl
  | some reading =>
      cases reading with
      | entry kind chosen => rfl
      | toggle which =>
          cases which with
          | limit => rfl
          | offset => rfl
          | orderBy =>
              refine Outcome.foldlM_congr (fun item member query => ?_) query
              unfold sortBy
              rw [alike.sorts (name_of_reading? reads).symm item member]

end ReadAlike

section Agreement

variable (firstDistinct : first.DistinctKeys) (secondDistinct : second.DistinctKeys)

include firstDistinct secondDistinct

theorem SameEntry.find?_eq {kind : FieldKind} {name : String}
    (same : first.SameEntry second kind name) :
    (first.fieldEntries kind).find? (fun entry => entry.key = name) =
      (second.fieldEntries kind).find? fun entry => entry.key = name := by
  have firstKeys : ((first.fieldEntries kind).map Entry.key).Nodup := firstDistinct (.field kind)
  have secondKeys : ((second.fieldEntries kind).map Entry.key).Nodup :=
    secondDistinct (.field kind)
  apply Option.ext
  intro entry
  rw [Entry.find?_eq_some_iff firstKeys, Entry.find?_eq_some_iff secondKeys]
  exact and_congr_left (same entry)

theorem sortTarget?_congr {item : Value}
    (same : ∀ name, item.sortName? = some name → first.SameEntry second .equalTo name)
    (relation : String) : first.sortTarget? relation item = second.sortTarget? relation item := by
  have column (name : String) (named : item.sortName? = some name) :
      first.namedColumn relation name = second.namedColumn relation name := by
    have found : first.equalTo.find? (fun entry => entry.key = name) =
        second.equalTo.find? fun entry => entry.key = name :=
      (same name named).find?_eq firstDistinct secondDistinct
    unfold namedColumn
    rw [found]
  cases item with
  | text name => simp only [sortTarget?, column name rfl]
  | order directive =>
      cases directive with
      | field name => simp only [sortTarget?, column name rfl]
      | directed direction name => simp only [sortTarget?, column name rfl]
      | qualified direction relation field => rfl
  | _ => rfl

/-- In definitions that agree on a request, each of its filters finds the same. -/
theorem AgreeOn.readAlike {request : Request} (agree : first.AgreeOn second request)
    {filter : Key × Value} (member : filter ∈ request.entries) :
    first.ReadAlike second filter.1 filter.2 where
  form := by
    unfold acceptsForm
    rw [agree.atomKeys, agree.stringKeys]
  toggles := agree.toggles
  entries kind := (agree.entries filter member kind).find?_eq firstDistinct secondDistinct
  sorts named item inside := by
    refine sortTarget?_congr firstDistinct secondDistinct fun name looked => ?_
    cases list : filter.2 with
    | list items =>
        rw [list] at inside
        exact agree.sortNames filter member named items list item inside name looked
    | _ =>
        rw [list] at inside
        cases inside

end Agreement

end Definitions

/-- **A request depends only on what it names.**  Let two definitions have the same forms of keys
and the same kinds switched on, the same entries under the names of the keys of a request, and the
same equality filters under the names in its sort lists.  Then their tables answer the request
alike, with the same query or the same fault, whatever other entries either has and in whatever
order. -/
theorem Table.apply_eq_of_agreeOn {Query Fault : Type} [Filterable Query Fault]
    {first second : Definitions} {relation : String} {resolver : Resolver Query}
    {table other : Table Query Fault}
    (compiled : Table.compile first relation resolver = .ok table)
    (otherCompiled : Table.compile second relation resolver = .ok other)
    {request : Request} (agree : first.AgreeOn second request) (query : Query) :
    table.apply query request = other.apply query request := by
  obtain ⟨_, -, firstDistinct, -⟩ := Table.compile_eq_ok_iff.mp compiled
  obtain ⟨_, -, secondDistinct, -⟩ := Table.compile_eq_ok_iff.mp otherCompiled
  rw [Table.apply_eq_foldlM compiled, Table.apply_eq_foldlM otherCompiled]
  refine Outcome.foldlM_congr (fun filter member query => ?_) query
  exact (agree.readAlike firstDistinct secondDistinct member).interpretEntry_eq relation resolver
    query

/-- Books by their titles, with the pages under another name. -/
def Definitions.shelf : Definitions where
  stringKeys := true
  orderBy := true
  equalTo := [.bare "title", .aliased "length" "pages"]

/-- The same books by their authors as well. -/
def Definitions.library : Definitions where
  stringKeys := true
  orderBy := true
  equalTo := [.qualified "author" "person" "name", .aliased "length" "pages", .bare "title"]
  contains := [.bare "author"]

/-- A title, sorted by a name of the definitions, under keys of both forms. -/
def Request.emma : Request where
  entries := [(.text "title", .text "Emma"), (.text "order_by", .list [.text "length"]),
    (.atom "title", .null)]
  distinct := by decide

theorem Definitions.shelf_agreeOn_library : Definitions.shelf.AgreeOn .library .emma where
  atomKeys := rfl
  stringKeys := rfl
  toggles which := by cases which <;> rfl
  entries := by
    intro filter member kind
    revert filter
    cases kind <;> decide
  sortNames := by
    intro filter member named items list item inside name looked
    simp only [Request.emma, List.mem_cons, List.not_mem_nil, or_false] at member
    rcases member with rfl | rfl | rfl
    · cases list
    · cases list
      cases List.mem_singleton.mp inside
      cases looked
      decide
    · cases list

theorem Table.apply_eq_of_agreeOn_shelf :
    ∃ table other : Table Recorder Recorder.Rejected,
      Table.compile .shelf "books" (Resolver.joinOnce Recorder.join) = .ok table ∧
        Table.compile .library "books" (Resolver.joinOnce Recorder.join) = .ok other ∧
        Definitions.shelf.AgreeOn .library .emma ∧
        table.apply { base := "books" } .emma = other.apply { base := "books" } .emma :=
  ⟨_, _, rfl, rfl, Definitions.shelf_agreeOn_library,
    Table.apply_eq_of_agreeOn (by rfl) (by rfl) Definitions.shelf_agreeOn_library _⟩

end RequestFilter
