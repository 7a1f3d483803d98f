import Mathlib.Data.List.Induction
import Mathlib.Data.List.Nodup

/-! # Lists of named values

Looking a name up in a list of named values, and setting values under names one
after the other: as long as the names are new, the values are added in order
(`IsSetter.foldl_eq_append_of_fresh`).  Names that are mentioned again and again are
listed each once, where they come up first (`eraseDups_concat`).
-/

namespace RequestFilter

section Lookup

theorem lookup_cons_eq_ite {Name α : Type} [BEq Name] [LawfulBEq Name] [DecidableEq Name]
    (name other : Name) (value : α) (rest : List (Name × α)) :
    ((name, value) :: rest).lookup other =
      if other = name then some value else rest.lookup other := by
  rw [List.lookup_cons]
  by_cases same : other = name
  · rw [if_pos same, beq_iff_eq.mpr same]
  · rw [if_neg same, beq_eq_false_iff_ne.mpr same]

variable {α : Type} {members : List (String × α)} {name : String}

theorem lookup_eq_none_iff_not_mem :
    members.lookup name = none ↔ name ∉ members.map Prod.fst := by
  rw [List.lookup_eq_none_iff, List.mem_map]
  constructor
  · intro different member
    obtain ⟨found, inside, same⟩ := member
    exact bne_iff_ne.mp (different found inside) same.symm
  · intro absent found inside
    exact bne_iff_ne.mpr fun same => absent ⟨found, inside, same.symm⟩

theorem exists_lookup_iff_mem :
    (∃ value, members.lookup name = some value) ↔ name ∈ members.map Prod.fst := by
  rw [← Option.isSome_iff_exists, ← Option.ne_none_iff_isSome, ne_eq, lookup_eq_none_iff_not_mem,
    not_not]

theorem mem_of_lookup {value : α} (found : members.lookup name = some value) :
    (name, value) ∈ members := by
  obtain ⟨before, after, same, _⟩ := List.lookup_eq_some_iff.mp found
  rw [same]
  exact List.mem_append_right _ List.mem_cons_self

/-- Under distinct names, the value under a name is the one that is listed with it. -/
theorem lookup_eq_some_iff_mem {Name α : Type} [BEq Name] [LawfulBEq Name]
    {members : List (Name × α)} (distinct : (members.map Prod.fst).Nodup) {name : Name} {value : α} :
    members.lookup name = some value ↔ (name, value) ∈ members := by
  constructor
  · intro found
    obtain ⟨before, after, same, _⟩ := List.lookup_eq_some_iff.mp found
    rw [same]
    exact List.mem_append_right _ List.mem_cons_self
  · intro member
    obtain ⟨before, after, rfl⟩ := List.append_of_mem member
    refine List.lookup_eq_some_iff.mpr ⟨before, after, rfl, ?_⟩
    intro earlier inside
    rw [List.map_append, List.nodup_append] at distinct
    exact bne_iff_ne.mpr (distinct.2.2 _ (List.mem_map_of_mem inside) _ List.mem_cons_self).symm

end Lookup

section Setting

variable {Name α : Type} [DecidableEq Name]

/-- A value is set under a name where the name stands, or at the end if it is new. -/
structure IsSetter (set : Name → α → List (Name × α) → List (Name × α)) : Prop where
  nil (name : Name) (value : α) : set name value [] = [(name, value)]
  cons (name : Name) (value : α) (entry : Name × α) (rest : List (Name × α)) :
    set name value (entry :: rest) =
      if entry.1 = name then (name, value) :: rest else entry :: set name value rest

namespace IsSetter

variable {set : Name → α → List (Name × α) → List (Name × α)} (setter : IsSetter set)
include setter

theorem lookup_eq [BEq Name] [LawfulBEq Name] (name other : Name) (value : α)
    (entries : List (Name × α)) :
    (set name value entries).lookup other =
      if other = name then some value else entries.lookup other := by
  induction entries with
  | nil => rw [setter.nil, lookup_cons_eq_ite]
  | cons entry rest ih =>
      obtain ⟨first, held⟩ := entry
      rw [setter.cons, lookup_cons_eq_ite first]
      by_cases here : first = name
      · rw [if_pos here, lookup_cons_eq_ite, here]
        by_cases same : other = name
        · rw [if_pos same, if_pos same]
        · rw [if_neg same, if_neg same, if_neg same]
      · rw [if_neg here, lookup_cons_eq_ite, ih]
        by_cases same : other = first
        · rw [if_pos same, if_neg (same ▸ here), if_pos same]
        · rw [if_neg same, if_neg same]

theorem eq_append_of_fresh {name : Name} {entries : List (Name × α)}
    (fresh : name ∉ entries.map Prod.fst) (value : α) :
    set name value entries = entries ++ [(name, value)] := by
  induction entries with
  | nil => exact setter.nil name value
  | cons entry rest ih =>
      rw [List.map_cons, List.mem_cons, not_or] at fresh
      rw [setter.cons, if_neg (Ne.symm fresh.1), ih fresh.2, List.cons_append]

/-- A name that stands among the others keeps its place. -/
theorem keys_eq (name : Name) (value : α) (entries : List (Name × α)) :
    (set name value entries).map Prod.fst =
      if name ∈ entries.map Prod.fst then entries.map Prod.fst
      else entries.map Prod.fst ++ [name] := by
  by_cases old : name ∈ entries.map Prod.fst
  · rw [if_pos old]
    induction entries with
    | nil => cases old
    | cons entry rest ih =>
        rw [setter.cons]
        by_cases here : entry.1 = name
        · rw [if_pos here, List.map_cons, List.map_cons, here]
        · rw [List.map_cons, List.mem_cons] at old
          rw [if_neg here, List.map_cons, List.map_cons, ih (old.resolve_left (Ne.symm here))]
  · rw [if_neg old, setter.eq_append_of_fresh old, List.map_append, List.map_singleton]

theorem nodup_keys (name : Name) (value : α) {entries : List (Name × α)}
    (distinct : (entries.map Prod.fst).Nodup) :
    ((set name value entries).map Prod.fst).Nodup := by
  rw [setter.keys_eq]
  split
  · exact distinct
  · rename_i fresh
    rw [← List.concat_eq_append]
    exact distinct.concat fresh

/-- Values under new and distinct names are added in order. -/
theorem foldl_eq_append_of_fresh {added entries : List (Name × α)}
    (distinct : ((entries ++ added).map Prod.fst).Nodup) :
    added.foldl (fun entries entry => set entry.1 entry.2 entries) entries = entries ++ added := by
  induction added generalizing entries with
  | nil => exact (List.append_nil _).symm
  | cons entry rest ih =>
      rw [List.append_cons] at distinct ⊢
      have fresh : entry.1 ∉ entries.map Prod.fst := by
        rw [List.map_append, List.nodup_append, List.map_append, List.nodup_append] at distinct
        intro member
        exact distinct.1.2.2 _ member _ List.mem_cons_self rfl
      rw [List.foldl_cons, setter.eq_append_of_fresh fresh]
      exact ih distinct

end IsSetter

end Setting

section Repetitions

variable {α : Type} [DecidableEq α]

theorem eraseDups_concat (items : List α) (last : α) :
    (items ++ [last]).eraseDups = items.eraseDups ++ if last ∈ items then [] else [last] := by
  rw [List.eraseDups_append]
  by_cases old : last ∈ items
  · simp [List.removeAll, old]
  · simp [List.removeAll, old, List.eraseDups_cons]

theorem nodup_eraseDups (items : List α) : items.eraseDups.Nodup := by
  induction items using List.reverseRecOn with
  | nil => exact List.nodup_nil
  | append_singleton items last ih =>
      rw [eraseDups_concat]
      by_cases old : last ∈ items
      · rwa [if_pos old, List.append_nil]
      · rw [if_neg old, ← List.concat_eq_append]
        exact ih.concat fun member => old (List.mem_eraseDups.mp member)

end Repetitions

end RequestFilter
