import Mathlib.Data.List.Nodup
import RequestFilter.Proofs.Named
import RequestFilter.Toml.Basic

/-! # Documents without tables

A document is flat if no table stands under a name in it, neither at the top nor in
the rows of an array of tables.  What a statement has added stays, so a flat document
was flat all along, no dotted key ever passed through a table, and it does not matter
what becomes of the tables that a dotted key passes through
(`ofStatements?_claimed_of_flat`).  In every document each name stands once at the top
(`nodup_of_ofStatements?`).
-/

namespace RequestFilter.Toml

/-- A value that is no table, with no table under a name of a row if it is an array of tables. -/
inductive Flat : Toml → Prop
  | value {value : Toml} (noTable : ∀ origin members, value ≠ .table origin members)
      (noRows : ∀ tables, value ≠ .rows tables) : Flat value
  | rows {tables : List Toml}
      (each : ∀ origin members, .table origin members ∈ tables →
        ∀ name value, members.lookup name = some value → Flat value) :
      Flat (.rows tables)

/-- Under each name stands a flat value. -/
def FlatMembers (members : Members) : Prop :=
  ∀ name value, members.lookup name = some value → Flat value

theorem not_flat_table (origin : Origin) (members : Members) : ¬Flat (.table origin members) := by
  intro flat
  cases flat with
  | value noTable _ => exact noTable origin members rfl

theorem flat_rows_iff {tables : List Toml} :
    Flat (.rows tables) ↔ ∀ origin members, .table origin members ∈ tables → FlatMembers members := by
  constructor
  · intro flat
    cases flat with
    | value _ noRows => exact absurd rfl (noRows tables)
    | rows each => exact each
  · exact .rows

section Members

variable {members : Members} {name : String} {value old : Toml}

theorem lookup_replaceMember (name other : String) (value : Toml) (members : Members) :
    (replaceMember name value members).lookup other =
      if other = name then (members.lookup name).map fun _ => value
      else members.lookup other := by
  induction members with
  | nil => exact (ite_self none).symm
  | cons member rest ih =>
      obtain ⟨first, held⟩ := member
      unfold replaceMember at ih ⊢
      rw [List.map_cons]
      by_cases here : first = name
      · rw [if_pos here, here, lookup_cons_eq_ite, lookup_cons_eq_ite, lookup_cons_eq_ite, ih,
          if_pos rfl, Option.map_some]
        by_cases same : other = name
        · rw [if_pos same, if_pos same]
        · rw [if_neg same, if_neg same, if_neg same, if_neg same]
      · rw [if_neg here, lookup_cons_eq_ite, lookup_cons_eq_ite, lookup_cons_eq_ite, ih,
          if_neg (Ne.symm here)]
        by_cases same : other = first
        · rw [if_pos same, if_neg (same ▸ here), if_pos same]
        · rw [if_neg same, if_neg same]

theorem keys_replaceMember (name : String) (value : Toml) (members : Members) :
    (replaceMember name value members).map Prod.fst = members.map Prod.fst := by
  unfold replaceMember
  rw [List.map_map]
  refine List.map_congr_left fun member _ => ?_
  by_cases here : member.1 = name
  · rw [Function.comp_apply, if_pos here, here]
  · rw [Function.comp_apply, if_neg here]

theorem FlatMembers.of_append (flat : FlatMembers (members ++ [(name, value)]))
    (fresh : members.lookup name = none) : FlatMembers members ∧ Flat value := by
  constructor
  · intro other held found
    refine flat other held ?_
    rw [List.lookup_append, found, Option.some_or]
  · refine flat name value ?_
    rw [List.lookup_append, fresh, Option.none_or, List.lookup_cons, beq_self_eq_true]

theorem FlatMembers.of_replaceMember (flat : FlatMembers (replaceMember name value members))
    (present : members.lookup name = some old) :
    Flat value ∧ (Flat old → FlatMembers members) := by
  constructor
  · refine flat name value ?_
    rw [lookup_replaceMember, if_pos rfl, present, Option.map_some]
  · intro flatOld other held found
    by_cases here : other = name
    · rw [here, present] at found
      cases found
      exact flatOld
    · refine flat other held ?_
      rw [lookup_replaceMember, if_neg here, found]

theorem nodup_append_of_fresh (distinct : (members.map Prod.fst).Nodup)
    (fresh : members.lookup name = none) :
    ((members ++ [(name, value)]).map Prod.fst).Nodup := by
  rw [List.map_append, List.map_singleton, ← List.concat_eq_append]
  exact distinct.concat (lookup_eq_none_iff_not_mem.mp fresh)

end Members

section Changes

variable {way other : Way} {change otherChange : Members → Option Members}
  {members changed : Members} {name : String} {names : List String}

/-- A way makes the next table, or enters it, or enters the last table of an array. -/
theorem changeAt_cons_eq_some_iff :
    changeAt way change (name :: names) members = some changed ↔
      (∃ made, members.lookup name = none ∧ changeAt way change names [] = some made ∧
        changed = members ++ [(name, .table way.origin made)]) ∨
      (∃ origin inner entered result, members.lookup name = some (.table origin inner) ∧
        origin.entered? way (names ≠ []) = some entered ∧
        changeAt way change names inner = some result ∧
        changed = replaceMember name (.table entered result) members) ∨
      ∃ tables origin inner result, members.lookup name = some (.rows tables) ∧
        tables.getLast? = some (.table origin inner) ∧ (way = .header ∨ names ≠ []) ∧
        changeAt way change names inner = some result ∧
        changed = replaceMember name (.rows (tables.dropLast ++ [.table origin result])) members := by
  rw [changeAt]
  cases found : members.lookup name with
  | none =>
      simp only [Option.bind_eq_bind, Option.bind_eq_some_iff, Option.some.injEq, reduceCtorEq,
        false_and, exists_false, or_false, true_and]
      exact exists_congr fun made => and_congr_right fun _ => eq_comm
  | some value =>
      cases value with
      | table origin inner =>
          simp only [Option.bind_eq_bind, Option.bind_eq_some_iff, Option.some.injEq, reduceCtorEq,
            false_and, exists_false, or_false, false_or, table.injEq]
          constructor
          · intro ⟨entered, enters, result, made, same⟩
            exact ⟨origin, inner, entered, result, ⟨rfl, rfl⟩, enters, made, same.symm⟩
          · intro ⟨_, _, entered, result, ⟨sameOrigin, sameInner⟩, enters, made, same⟩
            subst sameOrigin sameInner
            exact ⟨entered, enters, result, made, same.symm⟩
      | rows tables =>
          simp only [reduceCtorEq, Option.some.injEq, rows.injEq, false_and, exists_false, false_or]
          constructor
          · intro success
            split at success
            · rename_i origin inner last
              split at success
              · rename_i passes
                obtain ⟨result, made, same⟩ := Option.bind_eq_some_iff.mp success
                exact ⟨tables, origin, inner, result, rfl, last, passes, made,
                  (Option.some.inj same).symm⟩
              · cases success
            · cases success
          · intro ⟨_, origin, inner, result, sameTables, last, passes, made, same⟩
            subst sameTables
            rw [last]
            simp only [if_pos passes, made, same]
            rfl
      | _ =>
          simp only [reduceCtorEq, Option.some.injEq, false_and, exists_false, or_self]

/-- What holds of the names at the top before a change and after the innermost change holds after it. -/
theorem nodup_of_changeAt
    (each : ∀ inner result, change inner = some result → (inner.map Prod.fst).Nodup →
      (result.map Prod.fst).Nodup)
    (success : changeAt way change names members = some changed)
    (distinct : (members.map Prod.fst).Nodup) : (changed.map Prod.fst).Nodup := by
  cases names with
  | nil => exact each members changed success distinct
  | cons name names =>
      rcases changeAt_cons_eq_some_iff.mp success with
        ⟨_, fresh, _, rfl⟩ | ⟨_, _, _, _, _, _, _, rfl⟩ | ⟨_, _, _, _, _, _, _, _, rfl⟩
      · exact nodup_append_of_fresh distinct fresh
      · rwa [keys_replaceMember]
      · rwa [keys_replaceMember]

/-- A change that leaves a flat document was made to a flat document, along no table of a dotted
key, so that a way of the other sort makes the same change. -/
theorem changeAt_of_flat (alike : way = .header ↔ other = .header)
    (each : ∀ inner result, change inner = some result → FlatMembers result →
      FlatMembers inner ∧ otherChange inner = some result)
    (success : changeAt way change names members = some changed) (flat : FlatMembers changed) :
    FlatMembers members ∧ changeAt other otherChange names members = some changed := by
  induction names generalizing members changed with
  | nil => exact each members changed success flat
  | cons name names ih =>
      rcases changeAt_cons_eq_some_iff.mp success with ⟨made, fresh, _, rfl⟩ |
        ⟨_, _, entered, result, present, _, _, rfl⟩ |
        ⟨tables, origin, inner, result, present, last, passes, made, rfl⟩
      · exact absurd (flat.of_append fresh).2 (not_flat_table _ _)
      · exact absurd (flat.of_replaceMember present).1 (not_flat_table _ _)
      · -- Only the last table of an array can be passed through: a table that is made or entered stays.
        obtain ⟨flatRows, before⟩ := flat.of_replaceMember present
        rw [flat_rows_iff] at flatRows
        obtain ⟨flatInner, again⟩ := ih made
          (flatRows origin result (List.mem_append_right _ List.mem_cons_self))
        refine ⟨before (flat_rows_iff.mpr ?_), changeAt_cons_eq_some_iff.mpr (.inr (.inr
          ⟨tables, origin, inner, result, present, last, ?_, again, rfl⟩))⟩
        · intro rowOrigin row member
          rw [← List.dropLast_append_getLast? _ last] at member
          rcases List.mem_append.mp member with earlier | isLast
          · exact flatRows rowOrigin row (List.mem_append_left _ earlier)
          · cases List.mem_singleton.mp isLast
            exact flatInner
        · rwa [← alike]

end Changes

section Statements

variable {implied : Implied} {path : Path} {value : Toml} {name : String}
  {members changed : Members} {statements : List Statement} {draft next : Draft}

theorem addMember_eq_some_iff :
    addMember name value members = some changed ↔
      members.lookup name = none ∧ changed = members ++ [(name, value)] := by
  unfold addMember
  cases members.lookup name with
  | none =>
      simp only [Option.some.injEq, true_and]
      exact eq_comm
  | some old => simp only [reduceCtorEq, false_and]

/-- A header makes a table, or enters one that was only passed through. -/
theorem openTable_cases (success : openTable name members = some changed) :
    (members.lookup name = none ∧ changed = members ++ [(name, .table .header [])]) ∨
      ∃ inner, members.lookup name = some (.table .implied inner) ∧
        changed = replaceMember name (.table .header inner) members := by
  unfold openTable at success
  split at success
  · rename_i fresh
    exact .inl ⟨fresh, (Option.some.inj success).symm⟩
  · rename_i inner present
    exact .inr ⟨inner, present, (Option.some.inj success).symm⟩
  · cases success

/-- A header of a row makes an array of tables, or adds a table to one. -/
theorem addRow_cases (success : addRow name members = some changed) :
    (members.lookup name = none ∧ changed = members ++ [(name, .rows [.table .header []])]) ∨
      ∃ tables, members.lookup name = some (.rows tables) ∧
        changed = replaceMember name (.rows (tables ++ [.table .header []])) members := by
  unfold addRow at success
  split at success
  · rename_i fresh
    exact .inl ⟨fresh, (Option.some.inj success).symm⟩
  · rename_i tables present
    exact .inr ⟨tables, present, (Option.some.inj success).symm⟩
  · cases success

theorem flatMembers_of_addMember (success : addMember name value members = some changed)
    (flat : FlatMembers changed) : FlatMembers members := by
  obtain ⟨fresh, rfl⟩ := addMember_eq_some_iff.mp success
  exact (flat.of_append fresh).1

theorem not_flatMembers_of_openTable (success : openTable name members = some changed) :
    ¬FlatMembers changed := by
  intro flat
  rcases openTable_cases success with ⟨fresh, rfl⟩ | ⟨inner, present, rfl⟩
  · exact not_flat_table _ _ (flat.of_append fresh).2
  · exact not_flat_table _ _ (flat.of_replaceMember present).1

theorem flatMembers_of_addRow (success : addRow name members = some changed)
    (flat : FlatMembers changed) : FlatMembers members := by
  rcases addRow_cases success with ⟨fresh, rfl⟩ | ⟨tables, present, rfl⟩
  · exact (flat.of_append fresh).1
  · obtain ⟨flatRows, before⟩ := flat.of_replaceMember present
    rw [flat_rows_iff] at flatRows
    exact before (flat_rows_iff.mpr fun origin row member =>
      flatRows origin row (List.mem_append_left _ member))

/-- A statement that leaves a flat document was added to a flat document, and adds the same when
dotted keys claim the tables that they pass through. -/
theorem Draft.add_claimed_of_flat {statement : Statement}
    (success : Draft.add .kept draft statement = some next) (flat : FlatMembers next.members) :
    FlatMembers draft.members ∧ Draft.add .claimed draft statement = some next := by
  cases statement with
  | pair path value =>
      obtain ⟨result, made, same⟩ := Option.bind_eq_some_iff.mp success
      cases same
      have each (inner changed : Members) (added : addPair .kept path value inner = some changed)
          (flat : FlatMembers changed) :
          FlatMembers inner ∧ addPair .claimed path value inner = some changed :=
        changeAt_of_flat (iff_of_false Way.noConfusion Way.noConfusion)
          (fun _ _ added flat => ⟨flatMembers_of_addMember added flat, added⟩) added flat
      obtain ⟨before, again⟩ := changeAt_of_flat Iff.rfl each made flat
      refine ⟨before, ?_⟩
      rw [Draft.add, again]
      rfl
  | header path =>
      obtain ⟨result, made, same⟩ := Option.bind_eq_some_iff.mp success
      cases same
      have each (inner changed : Members) (opened : openTable path.name inner = some changed)
          (flat : FlatMembers changed) :
          FlatMembers inner ∧ openTable path.name inner = some changed :=
        absurd flat (not_flatMembers_of_openTable opened)
      exact ⟨(changeAt_of_flat Iff.rfl each made flat).1, success⟩
  | row path =>
      obtain ⟨result, made, same⟩ := Option.bind_eq_some_iff.mp success
      cases same
      have each (inner changed : Members) (added : addRow path.name inner = some changed)
          (flat : FlatMembers changed) :
          FlatMembers inner ∧ addRow path.name inner = some changed :=
        ⟨flatMembers_of_addRow added flat, added⟩
      exact ⟨(changeAt_of_flat Iff.rfl each made flat).1, success⟩

theorem foldlM_claimed_of_flat
    (success : statements.foldlM (Draft.add .kept) draft = some next)
    (flat : FlatMembers next.members) :
    FlatMembers draft.members ∧ statements.foldlM (Draft.add .claimed) draft = some next := by
  induction statements generalizing draft with
  | nil =>
      cases success
      exact ⟨flat, rfl⟩
  | cons statement rest ih =>
      rw [List.foldlM_cons] at success
      obtain ⟨middle, added, others⟩ := Option.bind_eq_some_iff.mp success
      obtain ⟨flatMiddle, again⟩ := ih others
      obtain ⟨before, same⟩ := Draft.add_claimed_of_flat added flatMiddle
      refine ⟨before, ?_⟩
      rw [List.foldlM_cons, same]
      exact again

/-- A flat document stays the same when dotted keys claim the tables that they pass through. -/
theorem ofStatements?_claimed_of_flat (success : ofStatements? .kept statements = some members)
    (flat : FlatMembers members) : ofStatements? .claimed statements = some members := by
  obtain ⟨draft, built, rfl⟩ := Option.map_eq_some_iff.mp success
  rw [ofStatements?, (foldlM_claimed_of_flat built flat).2]
  rfl

theorem nodup_of_addPair (success : addPair implied path value members = some changed)
    (distinct : (members.map Prod.fst).Nodup) : (changed.map Prod.fst).Nodup := by
  refine nodup_of_changeAt (fun inner result added distinct => ?_) success distinct
  obtain ⟨fresh, rfl⟩ := addMember_eq_some_iff.mp added
  exact nodup_append_of_fresh distinct fresh

theorem nodup_of_openTable (success : openTable name members = some changed)
    (distinct : (members.map Prod.fst).Nodup) : (changed.map Prod.fst).Nodup := by
  rcases openTable_cases success with ⟨fresh, rfl⟩ | ⟨_, _, rfl⟩
  · exact nodup_append_of_fresh distinct fresh
  · rwa [keys_replaceMember]

theorem nodup_of_addRow (success : addRow name members = some changed)
    (distinct : (members.map Prod.fst).Nodup) : (changed.map Prod.fst).Nodup := by
  rcases addRow_cases success with ⟨fresh, rfl⟩ | ⟨_, _, rfl⟩
  · exact nodup_append_of_fresh distinct fresh
  · rwa [keys_replaceMember]

theorem Draft.nodup_of_add {statement : Statement}
    (success : Draft.add implied draft statement = some next)
    (distinct : (draft.members.map Prod.fst).Nodup) : (next.members.map Prod.fst).Nodup := by
  cases statement with
  | pair path value =>
      obtain ⟨result, made, same⟩ := Option.bind_eq_some_iff.mp success
      cases same
      exact nodup_of_changeAt (fun _ _ added distinct => nodup_of_addPair added distinct) made distinct
  | header path =>
      obtain ⟨result, made, same⟩ := Option.bind_eq_some_iff.mp success
      cases same
      exact nodup_of_changeAt (fun _ _ opened distinct => nodup_of_openTable opened distinct) made
        distinct
  | row path =>
      obtain ⟨result, made, same⟩ := Option.bind_eq_some_iff.mp success
      cases same
      exact nodup_of_changeAt (fun _ _ added distinct => nodup_of_addRow added distinct) made distinct

theorem nodup_of_foldlM (success : statements.foldlM (Draft.add implied) draft = some next)
    (distinct : (draft.members.map Prod.fst).Nodup) : (next.members.map Prod.fst).Nodup := by
  induction statements generalizing draft with
  | nil =>
      cases success
      exact distinct
  | cons statement rest ih =>
      rw [List.foldlM_cons] at success
      obtain ⟨middle, added, others⟩ := Option.bind_eq_some_iff.mp success
      exact ih others (Draft.nodup_of_add added distinct)

/-- In a document each name stands once at the top. -/
theorem nodup_of_ofStatements? (success : ofStatements? implied statements = some members) :
    (members.map Prod.fst).Nodup := by
  obtain ⟨draft, built, rfl⟩ := Option.map_eq_some_iff.mp success
  exact nodup_of_foldlM built List.nodup_nil

end Statements

end RequestFilter.Toml
