import RequestFilter.Proofs.Sql.Alike
import RequestFilter.Proofs.Texts

/-! # Statements are unambiguous

Two selections with the same text are the same but for the bound values
(`Select.alike_of_sql_eq`), so no name can pass for a piece of SQL.  The text is
read from the front: each part of it says where it ends, because a quoted
identifier ends at the next quote, and what follows a list of parts does not
begin like one more of them (`Legible.flatMap_inj`).
-/

namespace RequestFilter.Sql

section Runs

variable {rest others : List Char}

/-- A run of characters of one class ends where the class ends. -/
theorem run_append_inj {inside : Char → Bool} {first second : List Char}
    (within : ∀ c ∈ first, inside c = true) (otherWithin : ∀ c ∈ second, inside c = true)
    (ends : ∀ c ∈ rest.head?, inside c = false) (otherEnds : ∀ c ∈ others.head?, inside c = false)
    (same : first ++ rest = second ++ others) : first = second ∧ rest = others := by
  have heads : first = second := by
    rw [← takeWhile_append_of_ends within ends, same, takeWhile_append_of_ends otherWithin otherEnds]
  exact ⟨heads, List.append_cancel_left (heads ▸ same)⟩

/-- A number ends where its digits end. -/
theorem toString_append_inj {first second : Nat} (ends : ∀ c ∈ rest.head?, c.isDigit = false)
    (otherEnds : ∀ c ∈ others.head?, c.isDigit = false)
    (same : (toString first).toList ++ rest = (toString second).toList ++ others) :
    first = second ∧ rest = others := by
  have digits (n : Nat) : ∀ c ∈ Nat.toDigits 10 n, c.isDigit = true := fun c member =>
    Nat.isDigit_of_mem_toDigits (by decide) (by decide) member
  rw [Nat.toString_eq_repr, Nat.toString_eq_repr, Nat.toList_repr, Nat.toList_repr] at same
  obtain ⟨numbers, rest⟩ := run_append_inj (digits first) (digits second) ends otherEnds same
  rw [← Nat.ofDigitChars_ten_toDigits (n := first), numbers, Nat.ofDigitChars_ten_toDigits]
  exact ⟨rfl, rest⟩

/-- A quoted identifier ends at its second quote. -/
theorem quoted_append_inj {first second : String} (valid : IsIdentifier first)
    (otherValid : IsIdentifier second)
    (same : (quoted first).toList ++ rest = (quoted second).toList ++ others) :
    first = second ∧ rest = others := by
  have spelled (name : String) (tail : List Char) :
      (quoted name).toList ++ tail = '"' :: (name.toList ++ '"' :: tail) := by
    simp [quoted]
  have ends (tail : List Char) : ∀ c ∈ ('"' :: tail).head?, isIdentifierChar c = false := by
    rintro c ⟨⟩
    decide
  rw [spelled, spelled, List.cons_inj_right] at same
  obtain ⟨names, rest⟩ := run_append_inj (List.all_eq_true.mp valid.2)
    (List.all_eq_true.mp otherValid.2) (ends _) (ends _) same
  exact ⟨String.toList_injective names, (List.cons.inj rest).2⟩

end Runs

section Names

variable {rest others : List Char}

theorem columnText_append_inj {first second : Column} (valid : IsColumn first)
    (otherValid : IsColumn second)
    (same : (columnText first).toList ++ rest = (columnText second).toList ++ others) :
    first = second ∧ rest = others := by
  unfold columnText at same
  simp only [String.toList_append, List.append_assoc] at same
  obtain ⟨relation, same⟩ := quoted_append_inj valid.1 otherValid.1 same
  obtain ⟨field, same⟩ := quoted_append_inj valid.2 otherValid.2 (List.append_cancel_left same)
  refine ⟨?_, same⟩
  cases first
  cases second
  cases relation
  cases field
  rfl

/-- A table ends where its new name is introduced, and it has a schema when a point comes first. -/
theorem tableText_append_inj {schema otherSchema : Option String} {table otherTable : String}
    (valid : IsTable schema table) (otherValid : IsTable otherSchema otherTable)
    (same : (tableText schema table).toList ++ (" AS ".toList ++ rest) =
      (tableText otherSchema otherTable).toList ++ (" AS ".toList ++ others)) :
    schema = otherSchema ∧ table = otherTable ∧ rest = others := by
  cases schema with
  | none =>
      cases otherSchema with
      | none =>
          obtain ⟨table, same⟩ := quoted_append_inj valid.1 otherValid.1 same
          exact ⟨rfl, table, List.append_cancel_left same⟩
      | some name =>
          simp only [tableText, String.toList_append, List.append_assoc] at same
          obtain ⟨_, same⟩ := quoted_append_inj valid.1 (otherValid.2 name rfl) same
          simp at same
  | some name =>
      cases otherSchema with
      | none =>
          simp only [tableText, String.toList_append, List.append_assoc] at same
          obtain ⟨_, same⟩ := quoted_append_inj (valid.2 name rfl) otherValid.1 same
          simp at same
      | some otherName =>
          simp only [tableText, String.toList_append, List.append_assoc] at same
          obtain ⟨schema, same⟩ :=
            quoted_append_inj (valid.2 name rfl) (otherValid.2 otherName rfl) same
          obtain ⟨table, same⟩ :=
            quoted_append_inj valid.1 otherValid.1 (List.append_cancel_left same)
          exact ⟨congrArg some schema, table, List.append_cancel_left same⟩

end Names

section Words

variable {rest others : List Char}

theorem operator_append_inj {first second : Operator}
    (same : first.sql.toList ++ (" $".toList ++ rest) =
      second.sql.toList ++ (" $".toList ++ others)) : first = second ∧ rest = others := by
  cases first <;> cases second <;> simp [Operator.sql] at same <;> exact ⟨rfl, same⟩

theorem operator_append_ne_any (operator : Operator) :
    operator.sql.toList ++ (" $".toList ++ rest) ≠ "= ANY($".toList ++ others := by
  cases operator <;> simp [Operator.sql]

/-- A comparison ends with its placeholder, whatever the numbers. -/
theorem comparator_append_inj {first second : Comparator} {number otherNumber : Nat}
    (same : (first.text number).toList ++ (")".toList ++ rest) =
      (second.text otherNumber).toList ++ (")".toList ++ others)) :
    first = second ∧ rest = others := by
  have ends (tail : List Char) : ∀ c ∈ (")".toList ++ tail).head?, c.isDigit = false := by
    rintro c ⟨⟩
    decide
  have closes (tail : List Char) : ∀ c ∈ (")".toList ++ (")".toList ++ tail)).head?,
      c.isDigit = false := ends _
  cases first with
  | operator which =>
      cases second with
      | operator other =>
          simp only [Comparator.text, String.toList_append, List.append_assoc] at same
          obtain ⟨operators, same⟩ := operator_append_inj same
          obtain ⟨_, same⟩ := toString_append_inj (ends rest) (ends others) same
          exact ⟨congrArg Comparator.operator operators, List.append_cancel_left same⟩
      | any =>
          simp only [Comparator.text, String.toList_append, List.append_assoc] at same
          exact absurd same (operator_append_ne_any which)
  | any =>
      cases second with
      | operator other =>
          simp only [Comparator.text, String.toList_append, List.append_assoc] at same
          exact absurd same.symm (operator_append_ne_any other)
      | any =>
          simp only [Comparator.text, String.toList_append, List.append_assoc] at same
          obtain ⟨_, same⟩ :=
            toString_append_inj (closes rest) (closes others) (List.append_cancel_left same)
          exact ⟨rfl, List.append_cancel_left (List.append_cancel_left same)⟩

/-- A direction without a word on missing values is not the beginning of one with it, as long as no
such word follows. -/
theorem direction_append_inj {first second : Direction} (ends : ¬" NULLS".toList <+: rest)
    (otherEnds : ¬" NULLS".toList <+: others)
    (same : (directionSql first).toList ++ rest = (directionSql second).toList ++ others) :
    first = second ∧ rest = others := by
  have apart {tail : List Char} (ends : ¬" NULLS".toList <+: tail) (word : List Char) :
      tail ≠ ' ' :: 'N' :: 'U' :: 'L' :: 'L' :: 'S' :: word := by
    rintro rfl
    exact ends (List.prefix_append [' ', 'N', 'U', 'L', 'L', 'S'] word)
  cases first <;> cases second <;>
    simp [directionSql, apart ends, fun word => (apart otherEnds word).symm] at same <;>
    exact ⟨rfl, same⟩

theorem joinKind_append_inj {first second : JoinKind}
    (same : first.sql.toList ++ rest = second.sql.toList ++ others) :
    first = second ∧ rest = others := by
  cases first <;> cases second <;> simp [JoinKind.sql] at same <;> exact ⟨rfl, same⟩

theorem joinText_append_inj {schema : Option String} {first second : Join}
    (valid : first.Writable schema) (otherValid : second.Writable schema)
    (same : (first.text schema).toList ++ rest = (second.text schema).toList ++ others) :
    first = second ∧ rest = others := by
  unfold Join.text at same
  simp only [String.toList_append, List.append_assoc] at same
  obtain ⟨kind, same⟩ := joinKind_append_inj same
  obtain ⟨_, table, same⟩ :=
    tableText_append_inj valid.table otherValid.table (List.append_cancel_left same)
  obtain ⟨relation, same⟩ := quoted_append_inj valid.relation otherValid.relation same
  obtain ⟨anchor, same⟩ :=
    columnText_append_inj valid.anchor otherValid.anchor (List.append_cancel_left same)
  obtain ⟨_, same⟩ :=
    quoted_append_inj valid.relation otherValid.relation (List.append_cancel_left same)
  obtain ⟨remote, same⟩ :=
    quoted_append_inj valid.remote otherValid.remote (List.append_cancel_left same)
  refine ⟨?_, same⟩
  cases first
  cases second
  cases kind
  cases table
  cases relation
  cases anchor
  cases remote
  rfl

end Words

section Lists

variable {α β : Type}

/-- The text of an allowed item can be told from what follows it, and shows the view of the item. -/
def Legible (view : α → β) (allowed : α → Prop) (text : α → List Char)
    (follows : List Char → Prop) : Prop :=
  ∀ first second rest others, allowed first → allowed second → follows rest → follows others →
    text first ++ rest = text second ++ others → view first = view second ∧ rest = others

variable {view : α → β} {allowed : α → Prop} {text : α → List Char} {follows : List Char → Prop}
  {rest others : List Char}

theorem follows_flatMap (further : ∀ item tail, follows (text item ++ tail)) (ends : follows rest)
    (items : List α) : follows (items.flatMap text ++ rest) := by
  cases items with
  | nil => exact ends
  | cons item items =>
      rw [List.flatMap_cons, List.append_assoc]
      exact further item _

/-- Items in a row are legible when each is, also before one more item, and when what follows the
row does not begin like one more. -/
theorem Legible.flatMap_inj (legible : Legible view allowed text follows)
    (further : ∀ item tail, follows (text item ++ tail)) (ends : follows rest)
    (otherEnds : follows others) (noMore : ∀ item tail, text item ++ tail ≠ rest)
    (otherNoMore : ∀ item tail, text item ++ tail ≠ others) {items otherItems : List α}
    (valid : ∀ item ∈ items, allowed item) (otherValid : ∀ item ∈ otherItems, allowed item)
    (same : items.flatMap text ++ rest = otherItems.flatMap text ++ others) :
    items.map view = otherItems.map view ∧ rest = others := by
  -- The rows end together: where only one of them ends, what follows it begins like an item.
  induction items generalizing otherItems with
  | nil =>
      cases otherItems with
      | nil => exact ⟨rfl, same⟩
      | cons other otherItems =>
          rw [List.flatMap_cons, List.append_assoc] at same
          exact absurd same.symm (noMore other _)
  | cons item items ih =>
      cases otherItems with
      | nil =>
          rw [List.flatMap_cons, List.append_assoc] at same
          exact absurd same (otherNoMore item _)
      | cons other otherItems =>
          rw [List.flatMap_cons, List.flatMap_cons, List.append_assoc, List.append_assoc] at same
          rw [List.forall_mem_cons] at valid otherValid
          obtain ⟨heads, same⟩ := legible item other _ _ valid.1 otherValid.1
            (follows_flatMap further ends items) (follows_flatMap further otherEnds otherItems) same
          obtain ⟨tails, same⟩ := ih valid.2 otherValid.2 same
          exact ⟨by rw [List.map_cons, List.map_cons, heads, tails], same⟩

theorem Legible.prepend (legible : Legible view allowed text follows) (start : List Char) :
    Legible view allowed (fun item => start ++ text item) follows := by
  intro first second rest others valid otherValid ends otherEnds same
  rw [List.append_assoc, List.append_assoc] at same
  exact legible first second rest others valid otherValid ends otherEnds
    (List.append_cancel_left same)

/-- A clause is legible when its items are and when what follows it begins neither like the clause
nor like one more item. -/
theorem Legible.clauseText_inj {write : α → String}
    (legible : Legible view allowed (fun item => (write item).toList) follows)
    {introduction separator : String}
    (further : ∀ tail, follows (separator.toList ++ tail)) (ends : follows rest)
    (otherEnds : follows others) (noMore : ¬separator.toList <+: rest)
    (otherNoMore : ¬separator.toList <+: others) (absent : ¬introduction.toList <+: rest)
    (otherAbsent : ¬introduction.toList <+: others) {items otherItems : List α}
    (valid : ∀ item ∈ items, allowed item) (otherValid : ∀ item ∈ otherItems, allowed item)
    (same : (clauseText introduction separator (items.map write)).toList ++ rest =
      (clauseText introduction separator (otherItems.map write)).toList ++ others) :
    items.map view = otherItems.map view ∧ rest = others := by
  have spelled (item : α) (items : List α) (tail : List Char) :
      (clauseText introduction separator ((item :: items).map write)).toList ++ tail =
        introduction.toList ++ ((write item).toList ++
          (items.flatMap (fun item => separator.toList ++ (write item).toList) ++ tail)) := by
    rw [List.map_cons]
    change (introduction ++ separator.intercalate (write item :: items.map write)).toList ++
      tail = _
    rw [String.toList_append, toList_intercalate_cons, List.flatMap_map, List.append_assoc,
      List.append_assoc]
  have more (item : α) (tail : List Char) :
      follows (separator.toList ++ (write item).toList ++ tail) := by
    rw [List.append_assoc]
    exact further _
  cases items with
  | nil =>
      cases otherItems with
      | nil => exact ⟨rfl, same⟩
      | cons other otherItems =>
          rw [spelled] at same
          exact absurd ⟨_, same.symm⟩ absent
  | cons item items =>
      cases otherItems with
      | nil =>
          rw [spelled] at same
          exact absurd ⟨_, same⟩ otherAbsent
      | cons other otherItems =>
          rw [spelled, spelled] at same
          rw [List.forall_mem_cons] at valid otherValid
          obtain ⟨heads, same⟩ := legible item other _ _ valid.1 otherValid.1
            (follows_flatMap more ends items) (follows_flatMap more otherEnds otherItems)
            (List.append_cancel_left same)
          obtain ⟨tails, same⟩ := (legible.prepend separator.toList).flatMap_inj more ends otherEnds
            (fun item tail same => noMore ⟨_, (List.append_assoc ..).symm.trans same⟩)
            (fun item tail same => otherNoMore ⟨_, (List.append_assoc ..).symm.trans same⟩)
            valid.2 otherValid.2 same
          exact ⟨by rw [List.map_cons, List.map_cons, heads, tails], same⟩

end Lists

section Openings

/-- A text is empty or begins in one of several ways. -/
def Opens (openings : List String) (text : List Char) : Prop :=
  text = [] ∨ ∃ opening ∈ openings, opening.toList <+: text

variable {openings : List String} {rest : List Char}

/-- A text does not begin in a way that is told apart from all its possible openings. -/
theorem Opens.not_isPrefix (opens : Opens openings rest) (start : String) (nonempty : start ≠ "")
    (apart : ∀ opening ∈ openings, ¬opening.toList <+: start.toList ∧
      ¬start.toList <+: opening.toList) : ¬start.toList <+: rest := by
  intro begins
  rcases opens with rfl | ⟨opening, member, opened⟩
  · exact nonempty (String.toList_eq_nil_iff.mp (List.prefix_nil.mp begins))
  · rcases List.prefix_or_prefix_of_prefix opened begins with first | first
    · exact (apart opening member).1 first
    · exact (apart opening member).2 first

theorem Opens.head?_ne_digit (opens : Opens openings rest)
    (spaced : ∀ opening ∈ openings, opening.toList.head? = some ' ') :
    ∀ c ∈ rest.head?, c.isDigit = false := by
  rcases opens with rfl | ⟨opening, member, tail, rfl⟩
  · rintro c ⟨⟩
  · rw [List.head?_append, spaced opening member]
    rintro c ⟨⟩
    decide

theorem opens_clauseText (opens : Opens openings rest) (introduction separator : String)
    (items : List String) :
    Opens (introduction :: openings)
      ((clauseText introduction separator items).toList ++ rest) := by
  cases items with
  | nil =>
      rcases opens with rfl | ⟨opening, member, opened⟩
      · exact .inl rfl
      · exact .inr ⟨opening, List.mem_cons_of_mem _ member, opened⟩
  | cons item items =>
      refine .inr ⟨introduction, List.mem_cons_self, ?_⟩
      change _ <+: (introduction ++ separator.intercalate (item :: items)).toList ++ rest
      rw [String.toList_append, List.append_assoc]
      exact List.prefix_append _ _

end Openings

section Parts

theorem legible_join (schema : Option String) :
    Legible id (Join.Writable schema) (fun join => " ".toList ++ (join.text schema).toList)
      fun _ => True :=
  Legible.prepend (fun _ _ _ _ valid otherValid _ _ same =>
    joinText_append_inj valid otherValid same) " ".toList

theorem legible_condition :
    Legible (fun item : Condition × Nat => item.1.outline)
      (fun item => IsColumn item.1.column) (fun item => (item.1.text item.2).toList)
      fun _ => True := by
  intro first second rest others valid otherValid _ _ same
  unfold Condition.text at same
  simp only [String.toList_append, List.append_assoc] at same
  obtain ⟨columns, same⟩ :=
    columnText_append_inj valid otherValid (List.append_cancel_left same)
  obtain ⟨comparators, same⟩ := comparator_append_inj (List.append_cancel_left same)
  exact ⟨Prod.ext columns comparators, same⟩

theorem legible_sortKey :
    Legible id (fun key : SortKey => IsColumn key.column) (fun key => key.text.toList)
      fun tail => ¬" NULLS".toList <+: tail := by
  intro first second rest others valid otherValid ends otherEnds same
  unfold SortKey.text at same
  simp only [String.toList_append, List.append_assoc] at same
  obtain ⟨columns, same⟩ := columnText_append_inj valid otherValid same
  obtain ⟨directions, same⟩ :=
    direction_append_inj ends otherEnds (List.append_cancel_left same)
  refine ⟨?_, same⟩
  cases first
  cases second
  cases columns
  cases directions
  rfl

theorem legible_count :
    Legible id (fun _ : Count => True) (fun count => (toString count.toNat).toList)
      fun tail => ∀ c ∈ tail.head?, c.isDigit = false := by
  intro first second rest others _ _ ends otherEnds same
  obtain ⟨numbers, same⟩ := toString_append_inj ends otherEnds same
  exact ⟨UInt64.toNat_inj.mp numbers, same⟩

end Parts

namespace Select

/-- Each half of the page is a clause with at most one item, so any separator will do. -/
theorem toList_pageSql (select : Select) :
    select.pageSql.toList =
      (clauseText " LIMIT " ","
          (select.limit.toList.map fun count => toString count.toNat)).toList ++
        ((clauseText " OFFSET " ","
          (select.offset.toList.map fun count => toString count.toNat)).toList ++ []) := by
  unfold pageSql
  rw [String.toList_append, List.append_nil]
  congr 1
  · cases select.limit <;> rfl
  · cases select.offset <;> rfl

theorem opens_pageSql (select : Select) : Opens [" LIMIT ", " OFFSET "] select.pageSql.toList := by
  rw [toList_pageSql]
  exact opens_clauseText (opens_clauseText (.inl rfl) _ _ _) _ _ _

theorem opens_orderText (select : Select) :
    Opens [" ORDER BY ", " LIMIT ", " OFFSET "]
      (select.orderText.toList ++ select.pageSql.toList) :=
  opens_clauseText select.opens_pageSql _ _ _

theorem opens_whereText (select : Select) :
    Opens [" WHERE ", " ORDER BY ", " LIMIT ", " OFFSET "]
      (select.whereText.toList ++ (select.orderText.toList ++ select.pageSql.toList)) :=
  opens_clauseText select.opens_orderText _ _ _

theorem pageSql_inj {first second : Select} (same : first.pageSql.toList = second.pageSql.toList) :
    first.limit = second.limit ∧ first.offset = second.offset := by
  rw [toList_pageSql, toList_pageSql] at same
  have further (tail : List Char) : ∀ c ∈ (",".toList ++ tail).head?, c.isDigit = false := by
    rintro c ⟨⟩
    decide
  have opens (select : Select) : Opens [" OFFSET "] ((clauseText " OFFSET " ","
      (select.offset.toList.map fun count => toString count.toNat)).toList ++ []) :=
    opens_clauseText (.inl rfl) _ _ _
  have noDigit (select : Select) := (opens select).head?_ne_digit (by decide)
  have noMore (select : Select) := (opens select).not_isPrefix "," (by decide) (by decide)
  have noClause (select : Select) := (opens select).not_isPrefix " LIMIT " (by decide) (by decide)
  obtain ⟨limit, same⟩ := legible_count.clauseText_inj further (noDigit first) (noDigit second)
    (noMore first) (noMore second) (noClause first) (noClause second) (fun _ _ => trivial)
    (fun _ _ => trivial) same
  obtain ⟨offset, _⟩ := legible_count.clauseText_inj further (by simp) (by simp) (by decide)
    (by decide) (by decide) (by decide) (fun _ _ => trivial) (fun _ _ => trivial) same
  rw [List.map_id, List.map_id] at limit offset
  rw [← Option.head?_toList (o := first.limit), limit, Option.head?_toList,
    ← Option.head?_toList (o := first.offset), offset, Option.head?_toList]
  exact ⟨rfl, rfl⟩

/-- The text of a selection, part after part. -/
theorem toList_text (select : Select) :
    select.text.toList = "SELECT ".toList ++ ((quoted select.relation).toList ++
      (".* FROM ".toList ++ ((tableText select.schema select.table).toList ++ (" AS ".toList ++
        ((quoted select.relation).toList ++ (select.joins.flatMap
          (fun join => " ".toList ++ (join.text select.schema).toList) ++
            (select.whereText.toList ++
              (select.orderText.toList ++ select.pageSql.toList)))))))) := by
  unfold Select.text fromText
  simp only [String.toList_append, toList_intercalate_cons, List.flatMap_map, List.append_assoc]

/-- What follows the joins of a selection does not begin like another join. -/
theorem join_append_ne (select : Select) (schema : Option String) (join : Join)
    (tail : List Char) :
    " ".toList ++ (join.text schema).toList ++ tail ≠
      select.whereText.toList ++ (select.orderText.toList ++ select.pageSql.toList) := by
  intro same
  unfold Join.text at same
  simp only [String.toList_append, List.append_assoc] at same
  have begins : (" " ++ join.kind.sql).toList <+:
      select.whereText.toList ++ (select.orderText.toList ++ select.pageSql.toList) := by
    rw [← same, ← List.append_assoc, String.toList_append]
    exact List.prefix_append _ _
  cases kind : join.kind with
  | inner =>
      rw [kind] at begins
      exact select.opens_whereText.not_isPrefix _ (by decide) (by decide) begins
  | left =>
      rw [kind] at begins
      exact select.opens_whereText.not_isPrefix _ (by decide) (by decide) begins

theorem joins_inj {first second : Select} (schema : first.schema = second.schema)
    (valid : first.Writable) (otherValid : second.Writable)
    (same : first.joins.flatMap (fun join => " ".toList ++ (join.text first.schema).toList) ++
        (first.whereText.toList ++ (first.orderText.toList ++ first.pageSql.toList)) =
      second.joins.flatMap (fun join => " ".toList ++ (join.text second.schema).toList) ++
        (second.whereText.toList ++ (second.orderText.toList ++ second.pageSql.toList))) :
    first.joins = second.joins ∧
      first.whereText.toList ++ (first.orderText.toList ++ first.pageSql.toList) =
        second.whereText.toList ++ (second.orderText.toList ++ second.pageSql.toList) := by
  have joins := valid.joins
  have otherJoins := otherValid.joins
  rw [schema] at same joins
  obtain ⟨joins, rest⟩ := (legible_join second.schema).flatMap_inj (fun _ _ => trivial) trivial
    trivial (first.join_append_ne _) (second.join_append_ne _) joins otherJoins same
  rw [List.map_id, List.map_id] at joins
  exact ⟨joins, rest⟩

theorem conditions_inj {first second : Select} (valid : first.Writable)
    (otherValid : second.Writable)
    (same : first.whereText.toList ++ (first.orderText.toList ++ first.pageSql.toList) =
      second.whereText.toList ++ (second.orderText.toList ++ second.pageSql.toList)) :
    first.conditions.map Condition.outline = second.conditions.map Condition.outline ∧
      first.orderText.toList ++ first.pageSql.toList =
        second.orderText.toList ++ second.pageSql.toList := by
  have numbered {select : Select} (valid : select.Writable) :
      ∀ item ∈ select.conditions.zipIdx 1, IsColumn item.1.column := fun item member =>
    valid.conditions _ (List.fst_mem_of_mem_zipIdx member)
  have unnumbered (conditions : List Condition) :
      (conditions.zipIdx 1).map (fun item => item.1.outline) =
        conditions.map Condition.outline := by
    calc _ = ((conditions.zipIdx 1).map Prod.fst).map Condition.outline := by
          rw [List.map_map]
          rfl
      _ = _ := by rw [List.zipIdx_map_fst]
  have noMore (select : Select) :=
    select.opens_orderText.not_isPrefix " AND " (by decide) (by decide)
  have noClause (select : Select) :=
    select.opens_orderText.not_isPrefix " WHERE " (by decide) (by decide)
  obtain ⟨conditions, rest⟩ := legible_condition.clauseText_inj (fun _ => trivial) trivial trivial
    (noMore first) (noMore second) (noClause first) (noClause second) (numbered valid)
    (numbered otherValid) same
  rw [unnumbered, unnumbered] at conditions
  exact ⟨conditions, rest⟩

theorem sort_inj {first second : Select} (valid : first.Writable) (otherValid : second.Writable)
    (same : first.orderText.toList ++ first.pageSql.toList =
      second.orderText.toList ++ second.pageSql.toList) :
    first.sort = second.sort ∧ first.pageSql.toList = second.pageSql.toList := by
  have noMore (select : Select) :=
    select.opens_pageSql.not_isPrefix ", " (by decide) (by decide)
  have noClause (select : Select) :=
    select.opens_pageSql.not_isPrefix " ORDER BY " (by decide) (by decide)
  have noNulls (select : Select) :=
    select.opens_pageSql.not_isPrefix " NULLS" (by decide) (by decide)
  obtain ⟨sort, rest⟩ := legible_sortKey.clauseText_inj
    (fun tail => by simp) (noNulls first) (noNulls second)
    (noMore first) (noMore second) (noClause first) (noClause second) valid.sort
    otherValid.sort same
  rw [List.map_id, List.map_id] at sort
  exact ⟨sort, rest⟩

/-- **Statements are unambiguous.**  Two selections that are written as the same text have the same
table, schema, relation, joins, columns and comparisons of conditions, sort keys and page. -/
theorem alike_of_sql_eq {first second : Select} {written otherWritten : Statement}
    (success : first.statement = .ok written) (otherSuccess : second.statement = .ok otherWritten)
    (same : written.sql = otherWritten.sql) : first.Alike second := by
  obtain ⟨_, valid, rfl⟩ := statement_eq_ok_iff.mp success
  obtain ⟨_, otherValid, rfl⟩ := statement_eq_ok_iff.mp otherSuccess
  replace same : first.text.toList = second.text.toList := congrArg String.toList same
  rw [toList_text, toList_text] at same
  obtain ⟨relation, same⟩ :=
    quoted_append_inj valid.relation otherValid.relation (List.append_cancel_left same)
  obtain ⟨schema, table, same⟩ :=
    tableText_append_inj valid.table otherValid.table (List.append_cancel_left same)
  obtain ⟨_, same⟩ := quoted_append_inj valid.relation otherValid.relation same
  obtain ⟨joins, same⟩ := joins_inj schema valid otherValid same
  obtain ⟨conditions, same⟩ := conditions_inj valid otherValid same
  obtain ⟨sort, same⟩ := sort_inj valid otherValid same
  obtain ⟨limit, offset⟩ := pageSql_inj same
  exact ⟨table, schema, relation, joins, conditions, sort, limit, offset⟩

/-- The files whose owners have a name and one of two roles. -/
def ofOwner (owner : String) : Select where
  table := "files"
  schema := some "public"
  relation := "f"
  joins := [⟨.left, "roles", "role", ⟨"f", "role_id"⟩, "id"⟩]
  conditions := [.compare ⟨"f", "owner"⟩ .equal (.text owner),
    .anyOf ⟨"role", "name"⟩ (.array [.text "reader", .text "writer"])]
  sort := [⟨.ascNullsFirst, ⟨"role", "name"⟩⟩]
  limit := Count.ofInt64? 10

theorem alike_of_sql_eq_ofOwner :
    ∃ written otherWritten : Statement,
      (ofOwner "ann").statement = .ok written ∧
        (ofOwner "\" OR 1 = 1 --").statement = .ok otherWritten ∧
        written.sql = otherWritten.sql ∧ (ofOwner "ann").Alike (ofOwner "\" OR 1 = 1 --") :=
  ⟨_, _, rfl, rfl, rfl, alike_of_sql_eq rfl rfl rfl⟩

end Select

end RequestFilter.Sql
