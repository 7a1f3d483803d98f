import RequestFilter.Definitions.Basic
import RequestFilter.Proofs.Sql.Joining

/-! # Registered joins

A catalog that is filled join by join has for each relation the join that was
registered last (`Catalog.get?_ofList`).  Resolving relations one after the other
changes nothing of a selection but its joins, to which it adds those of the
registered relations that the selection lacks, each once and in the order in which
the relations first come up (`Catalog.resolver_ofList`).  The key of a join in the
catalog is the relation that it makes present, so a relation that was resolved is
not resolved again.
-/

namespace RequestFilter.Sql.Catalog

section Lookup

theorem get?_insert (catalog : Catalog) (join : Join) (name : String) :
    (catalog.insert join).get? name =
      if join.relation = name then some join else catalog.get? name := by
  unfold get? insert
  rw [List.find?_cons]
  by_cases same : join.relation = name
  · simp only [same, decide_true, ↓reduceIte]
  · simp only [same, decide_false, ↓reduceIte, List.find?_filter]
    congr 1
    funext other
    -- A join that gives way to the new one is not the one that is looked for.
    by_cases named : other.relation = name
    · simp only [named, Ne.symm same, ne_eq, not_false_eq_true, decide_true, and_self]
    · simp only [named, decide_false, Bool.false_eq_true, and_false]

/-- The join of a relation is the last that was registered for it. -/
theorem get?_ofList (registered : List Join) (name : String) :
    (ofList registered).get? name =
      Definitions.findLast? (fun join : Join => join.relation = name) registered := by
  unfold ofList Definitions.findLast?
  induction registered using List.reverseRecOn with
  | nil => rfl
  | append_singleton registered join ih =>
      rw [List.foldl_concat, get?_insert, ih, List.reverse_concat, List.find?_cons]
      by_cases same : join.relation = name <;> simp [same]

end Lookup

section Touching

variable (catalog : Catalog) (start : Select)

/-- Resolving relations changes nothing but the joins. -/
theorem touch_eq (touched : List String) :
    touched.foldl catalog.resolver start =
      { start with joins := start.joins ++ catalog.added start.relations touched } := by
  have frame (joins : List Join) :
      { touched.foldl catalog.resolver start with joins } = { start with joins } := by
    induction touched using List.reverseRecOn with
    | nil => rfl
    | append_singleton touched name ih => rw [List.foldl_concat, resolver_eq]; exact ih
  rw [← joins_touch, ← frame]

/-- A relation that was resolved is present or unknown, so resolving it again changes nothing. -/
theorem resolver_resolver (name : String) :
    catalog.resolver (catalog.resolver start name) name = catalog.resolver start name := by
  have again : catalog.added start.relations ([name] ++ [name]) =
      catalog.added start.relations [name] := by
    rw [added_concat, if_pos (.inl (List.mem_singleton_self name)), List.append_nil]
  calc catalog.resolver (catalog.resolver start name) name
      = ([name] ++ [name]).foldl catalog.resolver start := rfl
    _ = [name].foldl catalog.resolver start := by rw [touch_eq, touch_eq, again]
    _ = catalog.resolver start name := rfl

/-- Relations that are distinct stay so. -/
theorem nodup_relations_touch (distinct : start.relations.Nodup) (touched : List String) :
    (touched.foldl catalog.resolver start).relations.Nodup := by
  have added : ((catalog.added start.relations touched).map Join.relation).Nodup := by
    refine (catalog.nodup_added _ _).map_on fun first member second other same => ?_
    have found := (mem_added.mp member).1
    rw [same, (mem_added.mp other).1] at found
    exact (Option.some.inj found).symm
  have relations : (touched.foldl catalog.resolver start).relations =
      start.relations ++ (catalog.added start.relations touched).map Join.relation := by
    rw [touch_eq]
    unfold Select.relations
    rw [List.map_append, List.cons_append]
  rw [relations]
  refine distinct.append added fun name present new => ?_
  obtain ⟨join, member, rfl⟩ := List.mem_map.mp new
  exact (mem_added.mp member).2.2 present

end Touching

/-- **Joins on demand.**  Let a catalog be filled with joins one after the other.  Resolving
relations adds to a selection, and does nothing else, the last registered join of each relation that
has one and is not there yet, each once and in the order in which the relations first come up.  So
resolving a relation again changes nothing, and distinct relations stay distinct. -/
theorem resolver_ofList (registered : List Join) (start : Select) :
    (∀ touched : List String, touched.foldl (ofList registered).resolver start =
      { start with joins := start.joins ++
          (touched.eraseDups.filter fun name => !start.isAddressable name).filterMap fun name =>
            Definitions.findLast? (fun join : Join => join.relation = name) registered }) ∧
    (∀ name, (ofList registered).resolver ((ofList registered).resolver start name) name =
      (ofList registered).resolver start name) ∧
    (start.relations.Nodup → ∀ touched : List String,
      (touched.foldl (ofList registered).resolver start).relations.Nodup) := by
  refine ⟨fun touched => ?_, resolver_resolver _ start, nodup_relations_touch _ start⟩
  rw [touch_eq, added]
  simp only [← get?_ofList, Select.isAddressable, decide_not]

/-- The joins of people with their roles and teams; that of the roles is registered anew. -/
def members : List Join :=
  [⟨.inner, "roles", "role", ⟨"people", "role_id"⟩, "id"⟩,
    ⟨.inner, "teams", "team", ⟨"people", "team_id"⟩, "id"⟩,
    ⟨.left, "roles", "role", ⟨"people", "role_id"⟩, "id"⟩]

theorem resolver_ofList_members :
    (Select.ofTable "people").relations.Nodup ∧
    (["team", "role", "people", "city", "team"].foldl (ofList members).resolver
        (Select.ofTable "people")).joins =
      [⟨.inner, "teams", "team", ⟨"people", "team_id"⟩, "id"⟩,
        ⟨.left, "roles", "role", ⟨"people", "role_id"⟩, "id"⟩] ∧
    (["team", "role", "people", "city", "team"].foldl (ofList members).resolver
      (Select.ofTable "people")).relations.Nodup := by
  obtain ⟨closed, -, distinct⟩ := resolver_ofList members (Select.ofTable "people")
  refine ⟨by decide, ?_, distinct (by decide) _⟩
  rw [closed]
  decide

end RequestFilter.Sql.Catalog
