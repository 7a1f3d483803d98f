import RequestFilter.Proofs.DocumentedRules

/-! # Documentation of the same filters

Documentation is made from definitions and additions to them, and sorted by keys.
Entries with distinct keys have a single sorted order
(`Documentation.sortedEntries_eq_of_perm`), so the text tells neither in which
order entries were written nor on which of the two sides they stand
(`Definitions.documentation_of_sameFilters`).
-/

namespace RequestFilter

namespace Documentation

/-- Entries with distinct keys are sorted into one list, in whatever order they are given. -/
theorem sortedEntries_eq_of_perm {entries others : List Entry} (perm : others.Perm entries)
    (distinct : (entries.map Entry.key).Nodup) : sortedEntries others = sortedEntries entries := by
  have otherDistinct : (others.map Entry.key).Nodup :=
    (perm.map Entry.key).nodup_iff.mpr distinct
  have sorted := List.pairwise_map.mp (pairwise_keys_sortedEntries distinct)
  have otherSorted := List.pairwise_map.mp (pairwise_keys_sortedEntries otherDistinct)
  have same : (sortedEntries others).Perm (sortedEntries entries) :=
    (sortedEntries_perm others).trans (perm.trans (sortedEntries_perm entries).symm)
  refine same.eq_of_pairwise ?_ otherSorted sorted
  intro first second _ _ below above
  exact absurd above (String.lt_asymm below)

end Documentation

namespace Definitions

/-- Definitions and additions have no key twice within a kind, also not one on each side. -/
def DistinctKeysWith (definitions extras : Definitions) : Prop :=
  ∀ kind, ((definitions.fieldEntries kind ++ extras.fieldEntries kind).map Entry.key).Nodup

/-- Other definitions and additions have, taken together, the same filters. -/
structure SameFilters (definitions extras others otherExtras : Definitions) : Prop where
  /-- A kind that is switched on on either side is so in the others. -/
  toggles : ∀ which, others.isOn which = true ∨ otherExtras.isOn which = true ↔
    definitions.isOn which = true ∨ extras.isOn which = true
  /-- The entries of a kind are those of the others in some order. -/
  entries : ∀ kind, (others.fieldEntries kind ++ otherExtras.fieldEntries kind).Perm
    (definitions.fieldEntries kind ++ extras.fieldEntries kind)

variable {definitions extras others otherExtras : Definitions}

theorem sameFilters_swap (definitions extras : Definitions) :
    definitions.SameFilters extras extras definitions where
  toggles _ := or_comm
  entries _ := List.perm_append_comm

theorem sameFilters_setEntries {kind : FieldKind} {kept moved : List Entry}
    (perm : (kept ++ moved).Perm (definitions.fieldEntries kind ++ extras.fieldEntries kind)) :
    definitions.SameFilters extras (definitions.setEntries kind kept)
      (extras.setEntries kind moved) where
  toggles which := by rw [isOn_setEntries, isOn_setEntries]
  entries other := by
    rw [fieldEntries_setEntries, fieldEntries_setEntries]
    by_cases same : other = kind
    · rw [if_pos same, if_pos same, same]
      exact perm
    · rw [if_neg same, if_neg same]

/-- The same filters have the same section of a kind. -/
theorem SameFilters.section?_eq (same : definitions.SameFilters extras others otherExtras)
    (distinct : definitions.DistinctKeysWith extras) (kind : Kind) :
    Documentation.section? others otherExtras kind =
      Documentation.section? definitions extras kind := by
  cases kind with
  | toggle which =>
      have on : (others.isOn which || otherExtras.isOn which) =
          (definitions.isOn which || extras.isOn which) := by
        rw [Bool.eq_iff_iff, Bool.or_eq_true, Bool.or_eq_true]
        exact same.toggles which
      simp only [Documentation.section?, on]
  | field which =>
      simp only [Documentation.section?,
        Documentation.sortedEntries_eq_of_perm (same.entries which) (distinct which)]

/-- **Documentation tells what is configured, and no more.**  Where definitions and additions have
no key twice within a kind, all definitions and additions with the same filters have the same
documentation, whatever the order of their entries, the side on which these stand, and the forms of
keys they accept.  In particular the two sides can be exchanged, and the entries of a kind can be
divided between them in any way. -/
theorem documentation_of_sameFilters (distinct : definitions.DistinctKeysWith extras) :
    (∀ others otherExtras, definitions.SameFilters extras others otherExtras →
        others.documentation otherExtras = definitions.documentation extras) ∧
      extras.documentation definitions = definitions.documentation extras ∧
      ∀ kind kept moved,
        (kept ++ moved).Perm (definitions.fieldEntries kind ++ extras.fieldEntries kind) →
          (definitions.setEntries kind kept).documentation (extras.setEntries kind moved) =
            definitions.documentation extras := by
  have unchanged (others otherExtras : Definitions)
      (same : definitions.SameFilters extras others otherExtras) :
      others.documentation otherExtras = definitions.documentation extras := by
    unfold Definitions.documentation
    rw [funext (same.section?_eq distinct)]
  exact ⟨unchanged, unchanged _ _ (sameFilters_swap definitions extras),
    fun _ _ _ perm => unchanged _ _ (sameFilters_setEntries perm)⟩

/-- Countries by their names and areas. -/
def countries : Definitions where
  atomKeys := true
  limit := true
  equalTo := [.aliased "name" "title", .bare "area"]

/-- Filters for countries that the caller adds. -/
def countryExtras : Definitions where
  orderBy := true
  equalTo := [.qualified "capital" "city" "name"]
  contains := [.bare "name"]

/-- The same filters in another order, but for one. -/
def countryFilters : Definitions where
  stringKeys := true
  limit := true
  orderBy := true
  equalTo := [.qualified "capital" "city" "name", .aliased "name" "title"]
  contains := [.bare "name"]

def countryAreas : Definitions where
  limit := true
  equalTo := [.bare "area"]

theorem countries_distinctKeysWith : countries.DistinctKeysWith countryExtras := by
  intro kind
  cases kind <;> decide

theorem countries_sameFilters : countries.SameFilters countryExtras countryFilters countryAreas where
  toggles which := by cases which <;> decide
  entries kind := by cases kind <;> decide

theorem documentation_of_sameFilters_countries :
    countries.DistinctKeysWith countryExtras ∧
      countries.SameFilters countryExtras countryFilters countryAreas ∧
      countryFilters.documentation countryAreas = countries.documentation countryExtras :=
  ⟨countries_distinctKeysWith, countries_sameFilters,
    (documentation_of_sameFilters countries_distinctKeysWith).1 _ _ countries_sameFilters⟩

end Definitions

end RequestFilter
