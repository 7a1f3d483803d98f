import Mathlib.Data.List.Perm.Basic
import RequestFilter.Proofs.Named
import RequestFilter.Proofs.Sql.Change
import RequestFilter.Sql.Catalog

/-! # Joins on demand

A catalog changes nothing of a selection but its joins.  Touching relations one
after the other appends the joins of those that are registered and not yet
present, each once and in the order in which they were first asked for
(`Catalog.joins_touch`).  Which joins these are does not depend on that order
(`Catalog.added_perm`).

Changes made in a row therefore have a closed form: every part of the result is
the part at the start with what the changes add or set (`Change.foldl_make`).
-/

namespace RequestFilter.Sql

namespace Catalog

variable (catalog : Catalog)

theorem relation_of_get? {name : String} {join : Join} (found : catalog.get? name = some join) :
    join.relation = name := by
  have same := List.find?_some found
  exact of_decide_eq_true same

/-- Resolving a relation adds its join, if there is one, and does nothing else. -/
theorem resolve_eq (select : Select) (name : String) :
    catalog.resolve select name =
      { select with joins := select.joins ++ (catalog.get? name).toList } := by
  unfold resolve
  cases catalog.get? name with
  | none => rw [Option.toList_none, List.append_nil]
  | some join => rfl

/-- Resolving a relation once adds its join unless the relation is there. -/
theorem resolver_eq (select : Select) (name : String) :
    catalog.resolver select name =
      { select with joins := select.joins ++
          if name ∈ select.relations then [] else (catalog.get? name).toList } := by
  change (if select.isAddressable name then select else catalog.resolve select name) = _
  unfold Select.isAddressable
  by_cases present : name ∈ select.relations
  · simp only [present, decide_true, ↓reduceIte, List.append_nil]
  · simp only [present, decide_false, Bool.false_eq_true, ↓reduceIte, resolve_eq]

theorem relation_resolver (select : Select) (name : String) :
    (catalog.resolver select name).relation = select.relation := by
  rw [resolver_eq]

theorem joins_resolver (select : Select) (name : String) :
    (catalog.resolver select name).joins =
      select.joins ++ if name ∈ select.relations then [] else (catalog.get? name).toList := by
  rw [resolver_eq]

theorem relation_touch (start : Select) (touched : List String) :
    (touched.foldl catalog.resolver start).relation = start.relation := by
  induction touched using List.reverseRecOn with
  | nil => rfl
  | append_singleton touched name ih =>
      rw [List.foldl_concat, relation_resolver, ih]

/-- The joins of the registered relations among those touched that are not present before, each
once. -/
def added (present touched : List String) : List Join :=
  (touched.eraseDups.filter fun name => name ∉ present).filterMap catalog.get?

variable {catalog} {present touched : List String}

theorem mem_added {join : Join} :
    join ∈ catalog.added present touched ↔
      catalog.get? join.relation = some join ∧ join.relation ∈ touched ∧
        join.relation ∉ present := by
  unfold added
  simp only [List.mem_filterMap, List.mem_filter, List.mem_eraseDups, decide_eq_true_eq]
  constructor
  · rintro ⟨name, ⟨member, absent⟩, found⟩
    obtain rfl := catalog.relation_of_get? found
    exact ⟨found, member, absent⟩
  · rintro ⟨found, member, absent⟩
    exact ⟨join.relation, ⟨member, absent⟩, found⟩

variable (catalog)

theorem nodup_added (present touched : List String) : (catalog.added present touched).Nodup := by
  refine ((nodup_eraseDups touched).filter _).filterMap ?_
  intro first second join found otherFound
  rw [← catalog.relation_of_get? found, catalog.relation_of_get? otherFound]

/-- The order in which relations are touched decides only the order of the joins. -/
theorem added_perm (present : List String) {others : List String} (perm : touched.Perm others) :
    (catalog.added present touched).Perm (catalog.added present others) := by
  apply (List.perm_ext_iff_of_nodup (catalog.nodup_added _ _) (catalog.nodup_added _ _)).mpr
  intro join
  rw [mem_added, mem_added, perm.mem_iff]

theorem added_concat (present touched : List String) (name : String) :
    catalog.added present (touched ++ [name]) = catalog.added present touched ++
      if name ∈ touched ∨ name ∈ present then [] else (catalog.get? name).toList := by
  unfold added
  rw [eraseDups_concat, List.filter_append, List.filterMap_append]
  congr 1
  by_cases old : name ∈ touched
  · simp only [old, ↓reduceIte, true_or, List.filter_nil, List.filterMap_nil]
  · by_cases known : name ∈ present
    · simp [old, known]
    · cases found : catalog.get? name <;> simp [old, known, found]

/-- Touching relations one after the other appends the joins of those that are registered and not
yet present. -/
theorem joins_touch (start : Select) (touched : List String) :
    (touched.foldl catalog.resolver start).joins =
      start.joins ++ catalog.added start.relations touched := by
  induction touched using List.reverseRecOn with
  | nil => exact (List.append_nil _).symm
  | append_singleton touched name ih =>
      rw [List.foldl_concat, joins_resolver, ih, added_concat, List.append_assoc]
      congr 2
      cases found : catalog.get? name with
      | none => simp only [Option.toList_none, ite_self]
      | some join =>
          -- A registered relation is present once it is touched, so the two tests agree.
          have present : name ∈ (touched.foldl catalog.resolver start).relations ↔
              name ∈ touched ∨ name ∈ start.relations := by
            unfold Select.relations
            rw [relation_touch, ih, List.map_append, ← List.cons_append, List.mem_append,
              List.mem_map]
            by_cases known : name ∈ start.relation :: start.joins.map Join.relation
            · simp only [known, true_or, or_true]
            · simp only [known, false_or, or_false]
              constructor
              · rintro ⟨other, member, rfl⟩
                exact (mem_added.mp member).2.1
              · intro touched
                obtain rfl := catalog.relation_of_get? found
                exact ⟨join, mem_added.mpr ⟨found, touched, known⟩, rfl⟩
          simp only [present]

end Catalog

namespace Change

variable (catalog : Catalog)

/-- What one change does to each part of a selection. -/
theorem make_eq (select : Select) (change : Change) :
    change.make catalog.resolver select =
      { select with
        joins := (change.relation?.elim select (catalog.resolver select)).joins
        conditions := select.conditions ++ change.condition?.toList
        sort := select.sort ++ change.sortKey?.toList
        limit := change.limit?.or select.limit
        offset := change.offset?.or select.offset } := by
  cases change with
  | condition added =>
      simp [make, Select.addCondition, Catalog.resolver_eq, relation?]
  | sortKey added =>
      simp [make, Select.addSortKey, Catalog.resolver_eq, relation?]
  | limit count =>
      simp [make, Select.setLimit, relation?]
  | offset count =>
      simp [make, Select.setOffset, relation?]

theorem filterMap_concat {α β : Type} (view : α → Option β) (items : List α) (last : α) :
    (items ++ [last]).filterMap view = items.filterMap view ++ (view last).toList := by
  rw [List.filterMap_append]
  cases found : view last with
  | none => rw [List.filterMap_cons_none found, List.filterMap_nil, Option.toList_none]
  | some value => rw [List.filterMap_cons_some found, List.filterMap_nil, Option.toList_some]

/-- What changes made one after the other do to each part of a selection. -/
theorem foldl_make (changes : List Change) (start : Select) :
    changes.foldl (make catalog.resolver) start =
      { start with
        joins := start.joins ++ catalog.added start.relations (changes.filterMap relation?)
        conditions := start.conditions ++ changes.filterMap condition?
        sort := start.sort ++ changes.filterMap sortKey?
        limit := (changes.filterMap limit?).getLast?.or start.limit
        offset := (changes.filterMap offset?).getLast?.or start.offset } := by
  induction changes using List.reverseRecOn with
  | nil => simp [Catalog.added]
  | append_singleton changes change ih =>
      have joins : (change.relation?.elim (changes.foldl (make catalog.resolver) start)
          (catalog.resolver (changes.foldl (make catalog.resolver) start))).joins =
            start.joins ++ catalog.added start.relations
              ((changes ++ [change]).filterMap relation?) := by
        rw [filterMap_concat, ← Catalog.joins_touch, ih, ← Catalog.joins_touch]
        cases change.relation? with
        | none =>
            rw [Option.toList_none, List.append_nil, Option.elim_none]
        | some name =>
            rw [Option.toList_some, List.foldl_concat, Option.elim_some, Catalog.joins_resolver,
              Catalog.joins_resolver, Select.relations, Select.relations, Catalog.relation_touch]
      have last (written : Option Count) : written.toList.getLast? = written := by
        cases written <;> rfl
      rw [List.foldl_concat, make_eq, joins, ih]
      simp only [filterMap_concat, List.append_assoc, List.getLast?_append, last, Option.or_assoc]

end Change

end RequestFilter.Sql
