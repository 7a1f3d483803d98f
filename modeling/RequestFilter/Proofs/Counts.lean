import Mathlib.Data.List.Induction
import Mathlib.Data.List.TakeWhile
import Mathlib.Data.Nat.Digits.Defs
import RequestFilter.Proofs.Sql.Text
import RequestFilter.Proofs.Texts
import RequestFilter.Value

/-! # Row counts and their texts

Which values ask for a number of rows, said without reading them: a text does when
it spells the number (`Count.Spells`), however many zeros it starts with, and an
integer when it is not negative.  Every number of 64 bits is spelled by its decimal
digits, so what a statement writes for its page reads back (`Value.count?_grammar`).
-/

namespace RequestFilter

/-- The number that digits denote by their places: the last one counts once, the one before it ten
times, and so on. -/
def Number.placeValue (digits : List Char) : Nat :=
  Nat.ofDigits 10 (digits.reverse.map fun digit => digit.toNat - '0'.toNat)

/-- A text spells a number: digits after an optional plus sign, between blanks. -/
inductive Count.Spells : List Char → Nat → Prop
  | between {before sign digits after : List Char}
      (blankBefore : ∀ c ∈ before, Text.isBlank c = true)
      (plus : sign = [] ∨ sign = ['+'])
      (nonempty : digits ≠ [])
      (decimal : ∀ c ∈ digits, c.isDigit = true)
      (blankAfter : ∀ c ∈ after, Text.isBlank c = true) :
      Spells (before ++ (sign ++ digits) ++ after) (Number.placeValue digits)

section Trimming

variable {skips : Char → Bool}

namespace Text

/-- What stands between skipped characters is left when it neither starts nor ends with one. -/
theorem trimWhile_append {before core after : List Char} (skipped : ∀ c ∈ before, skips c = true)
    (starts : ∀ c ∈ core.head?, skips c = false) (ends : ∀ c ∈ core.reverse.head?, skips c = false)
    (nonempty : core ≠ []) (skippedAfter : ∀ c ∈ after, skips c = true) :
    trimWhile skips (before ++ core ++ after) = core := by
  have begins : ∀ c ∈ (core ++ after).head?, skips c = false := by
    rw [List.head?_append_of_ne_nil _ nonempty]
    exact starts
  have closes : ∀ c ∈ after.reverse, skips c = true := fun c member =>
    skippedAfter c (List.mem_reverse.mp member)
  unfold trimWhile
  rw [List.append_assoc, dropWhile_append_of_ends skipped begins, List.reverse_append,
    dropWhile_append_of_ends closes ends, List.reverse_reverse]

/-- Around what is left there are only skipped characters. -/
theorem exists_eq_append_trimWhile (skips : Char → Bool) (text : List Char) :
    ∃ before after, text = before ++ trimWhile skips text ++ after ∧
      (∀ c ∈ before, skips c = true) ∧ ∀ c ∈ after, skips c = true := by
  have skipped (run : List Char) : ∀ c ∈ run.takeWhile skips, skips c = true :=
    fun c member => List.mem_takeWhile_imp member
  refine ⟨text.takeWhile skips, ((text.dropWhile skips).reverse.takeWhile skips).reverse, ?_,
    skipped text, fun c member => skipped _ c (List.mem_reverse.mp member)⟩
  unfold trimWhile
  rw [List.append_assoc, ← List.reverse_append, List.takeWhile_append_dropWhile,
    List.reverse_reverse, List.takeWhile_append_dropWhile]

theorem isBlank_eq_false_of_isDigit {c : Char} (digit : c.isDigit = true) : isBlank c = false := by
  simp only [Char.isDigit, Bool.and_eq_true, decide_eq_true_eq] at digit
  have low : 48 ≤ c.toNat := digit.1
  have high : c.toNat ≤ 57 := digit.2
  simp only [isBlank, inRanges, blankRanges, List.any_cons, List.any_nil, Bool.or_eq_false_iff,
    Bool.and_eq_false_iff, decide_eq_false_iff_not, and_true]
  generalize c.toNat = code at low high ⊢
  omega

end Text

end Trimming

namespace Number

/-- The digits are read from the first one on, and count by their places all the same. -/
theorem ofDigits_eq_placeValue (digits : List Char) : ofDigits digits = placeValue digits := by
  induction digits using List.reverseRecOn with
  | nil => rfl
  | append_singleton digits digit ih =>
      unfold placeValue at ih ⊢
      rw [List.reverse_concat, List.map_cons, Nat.ofDigits_cons, ← ih, Nat.add_comm]
      exact List.foldl_concat ..

theorem readNat?_eq_some_iff {text : List Char} {n : Nat} :
    readNat? text = some n ↔
      text ≠ [] ∧ (∀ c ∈ text, c.isDigit = true) ∧ n = placeValue text := by
  unfold readNat?
  rw [← ofDigits_eq_placeValue, ← List.all_eq_true]
  by_cases readable : text ≠ [] ∧ text.all Char.isDigit = true
  · rw [if_pos readable, Option.some.injEq, eq_comm]
    exact ⟨fun same => ⟨readable.1, readable.2, same⟩, fun spelled => spelled.2.2⟩
  · rw [if_neg readable]
    constructor
    · intro found
      cases found
    · intro ⟨nonempty, decimal, _⟩
      exact absurd ⟨nonempty, decimal⟩ readable

/-- Zeros before digits count for nothing. -/
theorem placeValue_zeros_append (count : Nat) (digits : List Char) :
    placeValue (List.replicate count '0' ++ digits) = placeValue digits := by
  rw [← ofDigits_eq_placeValue, ← ofDigits_eq_placeValue]
  change Nat.ofDigitChars 10 (List.replicate count '0' ++ digits) 0 = _
  rw [Nat.ofDigitChars_append, Nat.ofDigitChars_replicate_zero, Nat.mul_zero]
  rfl

/-- The decimal digits of a number denote it. -/
theorem placeValue_toDigits (n : Nat) : placeValue (Nat.toDigits 10 n) = n := by
  rw [← ofDigits_eq_placeValue]
  exact Nat.ofDigitChars_ten_toDigits

/-- Zeros at the end of digits count for powers of ten. -/
theorem placeValue_append_zeros (digits : List Char) (count : Nat) :
    placeValue (digits ++ List.replicate count '0') = placeValue digits * 10 ^ count := by
  rw [← ofDigits_eq_placeValue, ← ofDigits_eq_placeValue]
  change Nat.ofDigitChars 10 (digits ++ List.replicate count '0') 0 = _
  rw [Nat.ofDigitChars_append, Nat.ofDigitChars_replicate_zero, Nat.mul_comm]
  rfl

theorem placeValue_toString (n : Nat) : placeValue (toString n).toList = n := by
  rw [Nat.toString_eq_repr, Nat.toList_repr, placeValue_toDigits]

end Number

namespace Count

theorem ofNat?_eq_some_iff {n : Nat} {count : Count} : ofNat? n = some count ↔ count.toNat = n := by
  unfold ofNat?
  split
  · rename_i small
    rw [Option.some.injEq]
    constructor
    · intro same
      rw [← same, UInt64.toNat_ofNatLT]
    · intro same
      exact UInt64.toNat_inj.mp (by rw [UInt64.toNat_ofNatLT, same])
  · rename_i large
    constructor
    · intro found
      cases found
    · intro same
      exact absurd (same ▸ count.toNat_lt_size) large

/-- A number after an optional plus sign is read if 64 bits hold it. -/
theorem ofDigits?_eq_some_iff {text : List Char} {count : Count} :
    ofDigits? text = some count ↔
      ∃ sign digits, text = sign ++ digits ∧ (sign = [] ∨ sign = ['+']) ∧ digits ≠ [] ∧
        (∀ c ∈ digits, c.isDigit = true) ∧ count.toNat = Number.placeValue digits := by
  have reads (digits : List Char) : (Number.readNat? digits >>= ofNat?) = some count ↔
      digits ≠ [] ∧ (∀ c ∈ digits, c.isDigit = true) ∧
        count.toNat = Number.placeValue digits := by
    simp only [Option.bind_eq_bind, Option.bind_eq_some_iff, Number.readNat?_eq_some_iff,
      ofNat?_eq_some_iff]
    constructor
    · intro ⟨n, ⟨nonempty, decimal, same⟩, held⟩
      exact ⟨nonempty, decimal, held.trans same⟩
    · intro ⟨nonempty, decimal, same⟩
      exact ⟨_, ⟨nonempty, decimal, rfl⟩, same⟩
  unfold ofDigits?
  split
  · rename_i digits
    rw [reads]
    constructor
    · intro spelled
      exact ⟨['+'], digits, rfl, .inr rfl, spelled⟩
    · intro ⟨sign, other, same, plus, spelled⟩
      rcases plus with rfl | rfl
      · rw [List.nil_append] at same
        exact absurd (spelled.2.1 '+' (same ▸ List.mem_cons_self)) (by decide)
      · rw [List.singleton_append, List.cons_inj_right] at same
        exact same ▸ spelled
  · rename_i unsigned
    rw [reads]
    constructor
    · intro spelled
      exact ⟨[], text, rfl, .inl rfl, spelled⟩
    · intro ⟨sign, digits, same, plus, spelled⟩
      rcases plus with rfl | rfl
      · exact same ▸ spelled
      · exact absurd same (unsigned digits)

/-- A text asks for the number that it spells, if 64 bits hold it. -/
theorem ofText?_eq_some_iff {text : String} {count : Count} :
    ofText? text = some count ↔ Spells text.toList count.toNat := by
  unfold ofText?
  rw [ofDigits?_eq_some_iff]
  constructor
  · intro ⟨sign, digits, same, plus, nonempty, decimal, value⟩
    obtain ⟨before, after, whole, blankBefore, blankAfter⟩ :=
      Text.exists_eq_append_trimWhile Text.isBlank text.toList
    unfold Text.trim at same
    rw [whole, same, value]
    exact .between blankBefore plus nonempty decimal blankAfter
  · intro spelled
    generalize text.toList = chars, count.toNat = n at spelled ⊢
    cases spelled with
    | @between before sign digits after blankBefore plus nonempty decimal blankAfter =>
      refine ⟨sign, digits, ?_, plus, nonempty, decimal, rfl⟩
      -- Neither the sign nor a digit is blank, so trimming stops at them.
      have visible : ∀ c ∈ sign ++ digits, Text.isBlank c = false := by
        intro c member
        rcases List.mem_append.mp member with inSign | inDigits
        · rcases plus with rfl | rfl
          · cases inSign
          · rw [List.mem_singleton.mp inSign]
            decide
        · exact Text.isBlank_eq_false_of_isDigit (decimal c inDigits)
      refine Text.trimWhile_append blankBefore (fun c first => visible c ?_)
        (fun c last => visible c ?_) (List.append_ne_nil_of_right_ne_nil sign nonempty) blankAfter
      · exact List.mem_of_mem_head? first
      · exact List.mem_reverse.mp (List.mem_of_mem_head? last)

/-- A number is spelled by its decimal digits. -/
theorem spells_toString (n : Nat) : Spells (toString n).toList n := by
  have spelled := Spells.between (List.forall_mem_nil _) (.inl rfl) (toString_ne_nil n)
    isDigit_of_mem_toString (List.forall_mem_nil _)
  rwa [Number.placeValue_toString, List.nil_append, List.nil_append, List.append_nil] at spelled

/-- No number is spelled with a minus sign. -/
theorem not_spells_minus (text : List Char) (n : Nat) : ¬Spells ('-' :: text) n := by
  intro spelled
  generalize whole : '-' :: text = chars at spelled
  cases spelled with
  | @between before sign digits after blankBefore plus nonempty decimal _ =>
    cases before with
    | cons first before =>
        cases whole
        exact absurd (blankBefore '-' List.mem_cons_self) (by decide)
    | nil =>
        rcases plus with rfl | rfl
        · cases digits with
          | nil => exact nonempty rfl
          | cons first digits =>
              cases whole
              exact absurd (decimal '-' List.mem_cons_self) (by decide)
        · cases whole

theorem ofText?_toString (count : Count) : ofText? (toString count.toNat) = some count :=
  ofText?_eq_some_iff.mpr (spells_toString count.toNat)

theorem ofInt64?_eq_some_iff {value : Int64} {count : Count} :
    ofInt64? value = some count ↔ 0 ≤ value.toInt ∧ (count.toNat : Int) = value.toInt := by
  unfold ofInt64?
  by_cases positive : 0 ≤ value.toInt
  · rw [if_pos positive, ofNat?_eq_some_iff]
    omega
  · rw [if_neg positive]
    constructor
    · intro found
      cases found
    · intro ⟨nonnegative, _⟩
      exact absurd nonnegative positive

theorem ofText?_minus (text : String) : ofText? ("-" ++ text) = none := by
  apply Option.eq_none_iff_forall_ne_some.mpr
  intro count found
  rw [ofText?_eq_some_iff, String.toList_append] at found
  exact not_spells_minus text.toList count.toNat found

/-- An integer asks for as many rows as its decimal text does. -/
theorem ofInt64?_eq_ofText? (value : Int64) : ofInt64? value = ofText? (toString value.toInt) := by
  have bound := value.toInt_lt
  cases same : value.toInt with
  | ofNat n =>
      rw [same] at bound
      have fits : n < UInt64.size := by
        change (n : Int) < 2 ^ 63 at bound
        change n < 2 ^ 64
        omega
      obtain ⟨count, rfl⟩ : ∃ count : Count, count.toNat = n :=
        ⟨UInt64.ofNatLT n fits, UInt64.toNat_ofNatLT⟩
      rw [ofInt64?_eq_some_iff.mpr ⟨same ▸ Int.natCast_nonneg _, same.symm⟩]
      exact (ofText?_toString count).symm
  | negSucc n =>
      have negative : ¬0 ≤ value.toInt := by
        rw [same]
        exact Int.not_le.mpr (Int.negSucc_lt_zero n)
      have written : toString (Int.negSucc n) = "-" ++ toString (n + 1) := rfl
      rw [written, ofText?_minus, ofInt64?, if_neg negative]

end Count

/-- A clause of a page: nothing, or a word with digits that read back as the number of rows. -/
def Sql.IsPageClause (word : String) (count? : Option Count) (clause : String) : Prop :=
  match count? with
  | none => clause = ""
  | some count => ∃ digits : String, clause = word ++ digits ∧
      (∀ c ∈ digits.toList, c.isDigit = true) ∧ (Value.text digits).count? = some count

/-- A selection of all its rows. -/
def Sql.Select.unpaged (select : Sql.Select) : Sql.Select :=
  { select with limit := none, offset := none }

/-- What a page adds to a statement are clauses whose numbers read back. -/
theorem Sql.Select.exists_page_clauses {select : Sql.Select} {statement : Sql.Statement}
    (success : select.statement = .ok statement) :
    ∃ whole, select.unpaged.statement = .ok whole ∧ ∃ limit offset,
      statement.sql = whole.sql ++ limit ++ offset ∧
        Sql.IsPageClause " LIMIT " select.limit limit ∧
        Sql.IsPageClause " OFFSET " select.offset offset := by
  obtain ⟨valid, writable, rfl⟩ := Sql.Select.statement_eq_ok_iff.mp success
  have isClause (word : String) (count? : Option Count) : Sql.IsPageClause word count?
      (count?.elim "" fun count => word ++ toString count.toNat) := by
    cases count? with
    | none => rfl
    | some count => exact ⟨_, rfl, isDigit_of_mem_toString, Count.ofText?_toString count⟩
  have whole : select.unpaged.Writable :=
    ⟨writable.table, writable.relation, writable.joins, writable.conditions, writable.sort⟩
  have unpaged : select.text = select.unpaged.text ++ select.pageSql := by
    change _ = _ ++ select.orderText ++ "" ++ select.pageSql
    rw [String.append_empty]
    rfl
  refine ⟨⟨select.unpaged.text, select.parameters⟩,
    Sql.Select.statement_eq_ok_iff.mpr ⟨valid, whole, rfl⟩, _, _, ?_,
    isClause " LIMIT " select.limit, isClause " OFFSET " select.offset⟩
  have page : select.pageSql =
      (select.limit.elim "" fun count => " LIMIT " ++ toString count.toNat) ++
        select.offset.elim "" fun count => " OFFSET " ++ toString count.toNat := by
    unfold Sql.Select.pageSql
    cases select.limit <;> cases select.offset <;> rfl
  change select.text = _
  rw [unpaged, page, String.append_assoc]

/-- **Values that ask for rows.**  A text asks for the number that it spells, if 64 bits hold it, and
an integer for itself, if it is not negative, which is what its decimal text asks for.  Every number
of 64 bits is asked for by its decimal text, so the numbers that a statement writes for its page read
back.  No other value asks for rows. -/
theorem Value.count?_grammar :
    (∀ (text : String) (count : Count),
      (Value.text text).count? = some count ↔ Count.Spells text.toList count.toNat) ∧
    (∀ (value : Int64) (count : Count), (Value.integer value).count? = some count ↔
      0 ≤ value.toInt ∧ (count.toNat : Int) = value.toInt) ∧
    (∀ value : Int64,
      (Value.integer value).count? = (Value.text (toString value.toInt)).count?) ∧
    (∀ count : Count, (Value.text (toString count.toNat)).count? = some count) ∧
    (∀ (select : Sql.Select) (statement : Sql.Statement), select.statement = .ok statement →
      ∃ whole, select.unpaged.statement = .ok whole ∧ ∃ limit offset,
        statement.sql = whole.sql ++ limit ++ offset ∧
          Sql.IsPageClause " LIMIT " select.limit limit ∧
          Sql.IsPageClause " OFFSET " select.offset offset) ∧
    ∀ value : Value, (∀ word, value ≠ .integer word) → (∀ text, value ≠ .text text) →
      value.count? = none := by
  refine ⟨fun _ _ => Count.ofText?_eq_some_iff, fun _ _ => Count.ofInt64?_eq_some_iff,
    Count.ofInt64?_eq_ofText?, Count.ofText?_toString,
    fun _ _ => Sql.Select.exists_page_clauses, ?_⟩
  intro value noInteger noText
  cases value with
  | integer word => exact absurd rfl (noInteger word)
  | text text => exact absurd rfl (noText text)
  | _ => rfl

/-- The largest number of 64 bits after zeros and between blanks, and the number after it. -/
example : (Value.text " \u00a0+00018446744073709551615\n").count?.map UInt64.toNat =
      some 18446744073709551615 ∧
    (Value.text "18446744073709551616").count? = none := by decide +kernel

end RequestFilter
