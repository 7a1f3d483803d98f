import RequestFilter.Proofs.Sql.Joining
import RequestFilter.Proofs.Sql.Text

/-! # Scopes of joins

A join may only speak of relations that stand before it in a statement.  A
catalog adds its joins in the order in which a request touches their relations,
so a written selection is well scoped exactly when the request touches every
relation after the one that its join hangs on (`Table.wellScoped_iff_inOrder`).
A catalog whose joins all hang on the table leaves no order to get wrong
(`Catalog.inOrder_of_star`).
-/

namespace RequestFilter

open Sql Outcome

/-- Each element of a list is well placed after the ones before it. -/
def EachAfter {α : Type} (placed : List α → α → Prop) (items : List α) : Prop :=
  ∀ before item after, items = before ++ item :: after → placed before item

section EachAfter

variable {α : Type} {placed : List α → α → Prop}

theorem eachAfter_nil : EachAfter placed [] := by
  intro before item after same
  cases before <;> cases same

theorem eachAfter_concat {items : List α} {last : α} :
    EachAfter placed (items ++ [last]) ↔ EachAfter placed items ∧ placed items last := by
  constructor
  · intro each
    refine ⟨fun before item after same => each before item (after ++ [last]) ?_,
      each items last [] rfl⟩
    rw [same, List.append_assoc, List.cons_append]
  · rintro ⟨each, final⟩ before item after same
    rcases List.eq_nil_or_concat after with rfl | ⟨after, other, rfl⟩
    · obtain ⟨rfl, single⟩ := List.append_inj' same rfl
      cases single
      exact final
    · rw [List.concat_eq_append, ← List.cons_append, ← List.append_assoc] at same
      exact each before item after (List.append_inj' same rfl).1

end EachAfter

/-- Every join hangs on the table or on a relation that was joined before. -/
def Sql.Select.WellScoped (select : Select) : Prop :=
  EachAfter (fun before join => join.anchor.relation ∈ select.relation :: before.map Join.relation)
    select.joins

/-- Relations are touched for the first time after the relations that their joins hang on. -/
def Sql.Catalog.InOrder (catalog : Catalog) (base : String) (touched : List String) : Prop :=
  EachAfter (fun before name => name ∉ base :: before →
    ∀ join ∈ catalog.get? name, join.anchor.relation ∈ base :: before) touched

namespace Definitions

/-- The relations that a reading of a filter touches, in order. -/
def touchedBy (definitions : Definitions) (relation : String) (value : Value) :
    Reading → List String
  | .toggle .limit | .toggle .offset => []
  | .toggle .orderBy =>
    (value.items?.getD []).filterMap fun item =>
      (definitions.sortTarget? relation item).map fun target => target.2.relation
  | .entry _ chosen => [(chosen.target relation).relation]

/-- The relations that a request touches, in order. -/
def touched (definitions : Definitions) (relation : String) (request : Request) : List String :=
  request.entries.flatMap fun entry =>
    ((definitions.reading? entry.1 entry.2).map
      (definitions.touchedBy relation entry.2)).getD []

end Definitions

namespace Sql

namespace Catalog

variable (catalog : Catalog)

/-- The joins of a selection are those of the catalog for the relations that were touched. -/
structure Joined (base : String) (touched : List String) (joins : List Join) : Prop where
  registered : ∀ join ∈ joins, catalog.get? join.relation = some join
  asked : ∀ join ∈ joins, join.relation ∈ touched
  complete : ∀ name ∈ touched, name ≠ base → (catalog.get? name).isSome →
    name ∈ joins.map Join.relation

/-- Where every join of a catalog hangs on the table, relations are touched in any order. -/
theorem inOrder_of_star {base : String}
    (star : ∀ join ∈ catalog.joins, join.anchor.relation = base) (touched : List String) :
    catalog.InOrder base touched := by
  intro before name after _ _ join found
  rw [star join (List.mem_of_find?_eq_some found)]
  exact .head _

variable {catalog} {base : String} {touched : List String} {joins : List Join}

/-- A relation that can be had is present once it is touched. -/
theorem Joined.mem_iff (joined : catalog.Joined base touched joins) {name : String}
    (known : name = base ∨ (catalog.get? name).isSome) :
    name ∈ base :: joins.map Join.relation ↔ name ∈ base :: touched := by
  rw [List.mem_cons, List.mem_cons]
  constructor
  · rintro (same | present)
    · exact .inl same
    · obtain ⟨join, member, rfl⟩ := List.mem_map.mp present
      exact .inr (joined.asked join member)
  · rintro (same | member)
    · exact .inl same
    · by_cases same : name = base
      · exact .inl same
      · exact .inr (joined.complete name member same (known.resolve_left same))

theorem Joined.added_eq (joined : catalog.Joined base touched joins) (name : String) :
    (if name ∈ base :: joins.map Join.relation then [] else (catalog.get? name).toList) =
      if name ∈ base :: touched then [] else (catalog.get? name).toList := by
  cases found : catalog.get? name with
  | none => simp only [Option.toList_none, ite_self]
  | some join =>
      have known : (catalog.get? name).isSome := by rw [found, Option.isSome_some]
      simp only [joined.mem_iff (.inr known)]

section Run

variable (catalog) {start : Select}

/-- A selection that starts without joins has those for the relations that are touched. -/
theorem joined_touch (bare : start.joins = []) (touched : List String) :
    catalog.Joined start.relation touched (touched.foldl catalog.resolver start).joins := by
  have present : start.relations = [start.relation] := by
    rw [Select.relations, bare, List.map_nil]
  rw [joins_touch, bare, List.nil_append, present]
  refine ⟨fun join member => (mem_added.mp member).1, fun join member => (mem_added.mp member).2.1,
    fun name member different isSome => ?_⟩
  obtain ⟨join, found⟩ := Option.isSome_iff_exists.mp isSome
  obtain rfl := catalog.relation_of_get? found
  apply List.mem_map_of_mem
  exact mem_added.mpr ⟨found, member, fun same => different (List.mem_singleton.mp same)⟩

/-- Where all joins hang on relations that can be had, they are in scope exactly when relations
are touched in order. -/
theorem wellScoped_touch_iff (bare : start.joins = []) (touched : List String)
    (anchored : ∀ join ∈ (touched.foldl catalog.resolver start).joins,
      join.anchor.relation = start.relation ∨ (catalog.get? join.anchor.relation).isSome) :
    (touched.foldl catalog.resolver start).WellScoped ↔
      catalog.InOrder start.relation touched := by
  induction touched using List.reverseRecOn with
  | nil =>
      unfold Select.WellScoped InOrder
      rw [List.foldl_nil, bare]
      exact ⟨fun _ => eachAfter_nil, fun _ => eachAfter_nil⟩
  | append_singleton touched name ih =>
      have joined := catalog.joined_touch bare touched
      unfold Select.WellScoped InOrder at ih ⊢
      rw [relation_touch] at ih ⊢
      rw [List.foldl_concat, joins_resolver, Select.relations, relation_touch, joined.added_eq]
        at anchored ⊢
      rw [eachAfter_concat, ← ih fun join member => anchored join (List.mem_append_left _ member)]
      -- Only a relation that is touched for the first time adds a join, and adds it as the last.
      by_cases asked : name ∈ start.relation :: touched
      · rw [if_pos asked, List.append_nil]
        exact (and_iff_left fun absent => absurd asked absent).symm
      · rw [if_neg asked] at anchored ⊢
        cases found : catalog.get? name with
        | none =>
            rw [Option.toList_none, List.append_nil]
            exact (and_iff_left fun _ join member => by cases member).symm
        | some join =>
            rw [found, Option.toList_some] at anchored
            rw [Option.toList_some, eachAfter_concat]
            have last := joined.mem_iff (anchored join (List.mem_append_right _ (.head _)))
            simp only [last, asked, not_false_eq_true, true_imp_iff, Option.mem_some_iff,
              forall_eq']

end Run

/-- The joins of a selection that can be written hang on relations that can be had. -/
theorem Joined.anchored {select : Select} {written : Statement}
    (joined : catalog.Joined select.relation touched select.joins)
    (success : select.statement = .ok written) :
    ∀ join ∈ select.joins,
      join.anchor.relation = select.relation ∨ (catalog.get? join.anchor.relation).isSome := by
  intro join member
  obtain ⟨valid, -⟩ := Select.statement_eq_ok_iff.mp success
  obtain ⟨-, -, addressable⟩ := Select.validate_eq_ok_iff.mp valid
  have anchor : join.anchor ∈ select.referencedColumns :=
    List.mem_append_right _ (List.mem_map_of_mem member)
  rcases List.mem_cons.mp (addressable join.anchor anchor) with base | present
  · exact .inl base
  · obtain ⟨other, member, same⟩ := List.mem_map.mp present
    rw [← same, joined.registered other member]
    exact .inr rfl

end Catalog

end Sql

namespace Definitions

variable {definitions : Definitions} {relation : String}

/-- The changes of a filter are about the relations that its reading touches. -/
theorem relations_of_changesOf {key : Key} {value : Value} {reading : Reading}
    {changes : List Change}
    (success : definitions.changesOf relation key value reading = .ok changes) :
    changes.filterMap Change.relation? = definitions.touchedBy relation value reading := by
  cases reading with
  | toggle which =>
      cases which with
      | limit =>
          obtain ⟨count, -, rfl⟩ := count_of_countChange success
          rfl
      | offset =>
          obtain ⟨count, -, rfl⟩ := count_of_countChange success
          rfl
      | orderBy =>
          have each (item : Value) (change : Change)
              (success : definitions.sortChange relation key item = .ok change) :
              change.relation? =
                (definitions.sortTarget? relation item).map fun target => target.2.relation := by
            obtain ⟨direction, column, found, rfl⟩ := sortKey_of_sortChange success
            rw [found]
            rfl
          have views := map_eq_of_mapM each success
          calc changes.filterMap Change.relation?
              = (changes.map Change.relation?).filterMap id := by
                rw [List.filterMap_map, Function.id_comp]
            _ = _ := by rw [views, List.filterMap_map, Function.id_comp]; rfl
  | entry kind chosen =>
      obtain ⟨restriction, added, -, bound, rfl⟩ := condition_of_changesOf success
      have column : added.column = chosen.target relation :=
        congrArg Prod.fst (Restriction.outline_of_condition bound)
      change [added.column.relation] = [(chosen.target relation).relation]
      rw [column]

theorem relations_of_changes {entry : Key × Value} {changes : List Change}
    (success : definitions.changes relation entry.1 entry.2 = .ok changes) :
    changes.filterMap Change.relation? =
      ((definitions.reading? entry.1 entry.2).map
        (definitions.touchedBy relation entry.2)).getD [] := by
  unfold Definitions.changes at success
  cases reads : definitions.reading? entry.1 entry.2 with
  | none =>
      rw [reads] at success
      cases success
  | some reading =>
      rw [reads] at success
      exact relations_of_changesOf success

end Definitions

section Tables

variable {catalog : Catalog} {definitions : Definitions} {relation : String}
  {table : Table Select BuildError} {start result : Select} {request : Request}

/-- A request makes changes that are about the relations that it touches. -/
theorem Table.exists_touching_of_apply
    (compiled : Table.compile definitions relation catalog.resolver = .ok table)
    (success : table.apply start request = .ok result) :
    ∃ changes : List Change,
      changes.filterMap Change.relation? = definitions.touched relation request ∧
        result = changes.foldl (Change.make catalog.resolver) start := by
  rw [table.apply_eq_changes compiled] at success
  obtain ⟨changes, found, rfl⟩ := map_eq_ok_iff.mp success
  refine ⟨changes.flatten, ?_, rfl⟩
  rw [List.filterMap_flatten, map_eq_of_mapM
    (fun entry _ success => Definitions.relations_of_changes success) found]
  rfl

/-- A request joins what touching its relations joins. -/
theorem Table.tables_of_apply
    (compiled : Table.compile definitions relation catalog.resolver = .ok table)
    (success : table.apply start request = .ok result) :
    result.relation = start.relation ∧
      result.joins =
        ((definitions.touched relation request).foldl catalog.resolver start).joins := by
  obtain ⟨changes, relations, rfl⟩ := Table.exists_touching_of_apply compiled success
  rw [← relations, catalog.joins_touch, Change.foldl_make]
  exact ⟨rfl, rfl⟩

/-- **Joins are in scope exactly when relations are touched in order.**  Let a table with the
joins of a catalog be applied to a selection without joins, and let the result be written.  Then
each join of the statement hangs on the table or on an earlier join if and only if the request
touches no relation before the one that its join hangs on. -/
theorem Table.wellScoped_iff_inOrder
    (compiled : Table.compile definitions relation catalog.resolver = .ok table)
    (bare : start.joins = []) (success : table.apply start request = .ok result)
    {written : Statement} (builds : result.statement = .ok written) :
    result.WellScoped ↔
      catalog.InOrder start.relation (definitions.touched relation request) := by
  obtain ⟨same, joins⟩ := Table.tables_of_apply compiled success
  have joined := catalog.joined_touch bare (definitions.touched relation request)
  rw [← joins, ← same] at joined
  have anchored := joined.anchored builds
  rw [joins, same] at anchored
  rw [← catalog.wellScoped_touch_iff bare _ anchored]
  unfold Select.WellScoped
  rw [joins, same, catalog.relation_touch]

/-- The joins of the roles of users and of the permissions of roles. -/
def Sql.Catalog.permissions : Catalog :=
  .ofList [⟨.inner, "roles", "role", ⟨"users", "role_id"⟩, "id"⟩,
    ⟨.inner, "permissions", "permission", ⟨"role", "permission_id"⟩, "id"⟩]

/-- Users by the names of their roles and of their permissions. -/
def Definitions.permissions : Definitions where
  stringKeys := true
  equalTo := [.qualified "role" "role" "name", .qualified "permission" "permission" "name"]

theorem Table.wellScoped_iff_inOrder_permissions :
    ∃ (table : Table Select BuildError) (result : Select) (written : Statement),
      Table.compile .permissions "users" Catalog.permissions.resolver = .ok table ∧
        table.apply (.ofTable "users")
          ⟨[(.text "role", .text "admin"), (.text "permission", .text "read")], by decide⟩ =
            .ok result ∧
        result.statement = .ok written ∧
        (result.WellScoped ↔ Catalog.permissions.InOrder (Select.ofTable "users").relation
          (Definitions.touched .permissions "users"
            ⟨[(.text "role", .text "admin"), (.text "permission", .text "read")], by decide⟩)) :=
  ⟨_, _, _, rfl, rfl, rfl, Table.wellScoped_iff_inOrder rfl rfl rfl rfl⟩

/-- A request that names a permission before a role joins the permissions by a column of the role,
which is joined only afterwards. -/
theorem Table.not_wellScoped_permission_first :
    ∃ (table : Table Select BuildError) (result : Select) (written : Statement),
      Table.compile .permissions "users" Catalog.permissions.resolver = .ok table ∧
        table.apply (.ofTable "users")
          ⟨[(.text "permission", .text "read"), (.text "role", .text "admin")], by decide⟩ =
            .ok result ∧
        result.statement = .ok written ∧
        result.joins.map (fun join => (join.relation, join.anchor.relation)) =
          [("permission", "role"), ("role", "users")] ∧ ¬result.WellScoped := by
  refine ⟨_, _, _, rfl, rfl, rfl, rfl, fun inScope => ?_⟩
  exact absurd (inScope [] _ [_] rfl) (by decide)

end Tables

end RequestFilter
