import Mathlib.Data.List.TakeDrop
import Mathlib.Data.List.TakeWhile
import Mathlib.Data.Nat.Digits.Defs
import RequestFilter.Proofs.Counts
import RequestFilter.Proofs.JsonRequests
import RequestFilter.Proofs.JsonText

/-! # Integers in JSON text

JSON writes an integer as digits after a minus sign or not (`Json.WritesInteger`).
What is read is the integer itself if 64 bits hold it, with a sign or without one,
and a double otherwise, so that it asks for as many rows as its text only below 2^63
(`Value.exists_ofJson?_of_writes`).  A document with a number as its only member is
JSON exactly if the number is (`Json.ofText?_memberDocument`).
-/

namespace RequestFilter.Json

/-- Digits as JSON writes them: they start with a zero only if they are a single one. -/
structure IsWhole (digits : List Char) : Prop where
  nonempty : digits ≠ []
  decimal : ∀ c ∈ digits, c.isDigit = true
  canonical : digits.head? = some '0' → digits.length = 1

/-- JSON writes an integer as its digits, after a minus sign or not. -/
inductive WritesInteger : String → Int → Prop
  | plain {digits : List Char} (whole : IsWhole digits) :
      WritesInteger (String.ofList digits) (Number.placeValue digits)
  | minus {digits : List Char} (whole : IsWhole digits) :
      WritesInteger ("-" ++ String.ofList digits) (-(Number.placeValue digits : Int))

/-- The text of an object with one member, whose value stands in it as it is written. -/
def memberDocument (name value : String) : String :=
  "\x7b" ++ stringText name ++ ":" ++ value ++ "\x7d"

theorem toList_minus (digits : List Char) : ("-" ++ String.ofList digits).toList = '-' :: digits := by
  rw [String.toList_append, String.toList_ofList (l := digits)]
  rfl

section Digits

variable {digits : List Char} (whole : IsWhole digits)

include whole

theorem IsWhole.isCanonicalWhole : Number.isCanonicalWhole digits = true := by
  unfold Number.isCanonicalWhole
  rw [Bool.and_eq_true, Bool.and_eq_true, Bool.or_eq_true, decide_eq_true_eq, decide_eq_true_eq,
    decide_eq_true_eq, List.all_eq_true]
  refine ⟨⟨whole.nonempty, whole.decimal⟩, ?_⟩
  by_cases zero : digits.head? = some '0'
  · exact .inr (whole.canonical zero)
  · exact .inl zero

/-- Only a single zero denotes zero. -/
theorem IsWhole.eq_zero (zero : Number.placeValue digits = 0) : digits = ['0'] := by
  have each := Nat.digits_zero_of_eq_zero (by decide) zero
  obtain ⟨first, rest, rfl⟩ := List.exists_cons_of_ne_nil whole.nonempty
  have isZero : first = '0' := by
    have value := each (first.toNat - '0'.toNat)
      (List.mem_map_of_mem (List.mem_reverse.mpr List.mem_cons_self))
    have digit := whole.decimal first List.mem_cons_self
    rw [Char.isDigit, Bool.and_eq_true, decide_eq_true_eq, decide_eq_true_eq] at digit
    have low : '0'.toNat ≤ first.toNat := digit.1
    exact Char.toNat_inj.mp (by omega)
  subst isZero
  rw [List.length_eq_zero_iff.mp (Nat.succ.inj (whole.canonical rfl))]

/-- Nothing is split off digits. -/
theorem IsWhole.span_eq {keeps : Char → Bool} (all : ∀ c, c.isDigit = true → keeps c = true) :
    digits.span keeps = (digits, []) := by
  have inside : ∀ c ∈ digits, keeps c = true := fun c member => all c (whole.decimal c member)
  rw [List.span_eq_takeWhile_dropWhile, List.takeWhile_eq_self_iff.mpr inside,
    List.dropWhile_eq_nil_iff.mpr inside]

theorem IsWhole.splitExponent? : Number.splitExponent? digits = some (digits, 0) := by
  unfold Number.splitExponent?
  rw [whole.span_eq]
  intro c digit
  rw [decide_eq_true_eq]
  constructor
  all_goals
    rintro rfl
    cases digit

theorem IsWhole.splitPoint : Number.splitPoint digits = (digits, none) := by
  unfold Number.splitPoint
  rw [whole.span_eq]
  intro c digit
  rw [decide_eq_true_eq]
  rintro rfl
  cases digit

theorem IsWhole.splitMinus : Number.splitMinus digits = (false, digits) := by
  unfold Number.splitMinus
  split
  · exact absurd (whole.decimal _ List.mem_cons_self) (by decide)
  · rfl

/-- Digits after a minus sign or not are read as the integer that they denote, if 64 bits hold it
and it is not minus zero, and as a double otherwise. -/
theorem IsWhole.numberOf?_eq {text : List Char} {negative : Bool} {value : Int}
    (split : Number.splitMinus text = (negative, digits))
    (denotes : value = if negative then -(Number.placeValue digits : Int)
      else Number.placeValue digits) :
    numberOf? text =
      if ¬(negative ∧ Number.placeValue digits = 0) ∧ -2 ^ 63 ≤ value ∧ value < 2 ^ 64 then
        some (.integer value)
      else (Number.Decimal.mk negative digits [] 0).stepwise?.map .double := by
  unfold numberOf?
  rw [split]
  simp only [whole.splitExponent?, Option.bind_eq_bind, Option.bind_some]
  rw [whole.splitPoint]
  simp only [whole.isCanonicalWhole, Number.ofDigits_eq_placeValue, guard_true, Option.all_none,
    Option.pure_def, Option.bind_some, Option.getD_none, true_and, ← denotes]
  rw [Int64.toInt_minValue]
  rfl

theorem IsWhole.numberOf?_plain :
    numberOf? digits =
      if Number.placeValue digits < 2 ^ 64 then some (.integer (Number.placeValue digits))
      else (Number.Decimal.mk false digits [] 0).stepwise?.map .double := by
  rw [whole.numberOf?_eq whole.splitMinus rfl]
  refine if_congr ?_ rfl rfl
  simp only [Bool.false_eq_true, false_and, not_false_eq_true, true_and, ↓reduceIte]
  omega

theorem IsWhole.numberOf?_minus :
    numberOf? ('-' :: digits) =
      if 0 < Number.placeValue digits ∧ Number.placeValue digits ≤ 2 ^ 63 then
        some (.integer (-(Number.placeValue digits : Int)))
      else (Number.Decimal.mk true digits [] 0).stepwise?.map .double := by
  have split : Number.splitMinus ('-' :: digits) = (true, digits) := rfl
  rw [whole.numberOf?_eq split rfl]
  refine if_congr ?_ rfl rfl
  simp only [true_and, ↓reduceIte]
  omega

end Digits

/-- The decimal digits of a number start with a zero only if they are a single one. -/
theorem isWhole_toDigits (number : Nat) : IsWhole (Nat.toDigits 10 number) where
  nonempty := Nat.toDigits_ne_nil
  decimal _ member := Nat.isDigit_of_mem_toDigits (by decide) (by decide) member
  canonical := by
    induction number using Nat.strongRecOn with
    | ind number ih =>
        by_cases small : number < 10
        · rw [Nat.toDigits_of_lt_base small]
          exact fun _ => rfl
        · rw [Nat.toDigits_of_base_le (by decide) (by omega),
            List.head?_append_of_ne_nil _ Nat.toDigits_ne_nil]
          intro zero
          -- The digits before the last one would be a single zero, though the number is not below ten.
          have single := ih (number / 10) (by omega) zero
          have low : number / 10 < 10 := by
            by_contra high
            rw [Nat.toDigits_of_base_le (by decide) (by omega), List.length_append,
              List.length_singleton] at single
            exact Nat.toDigits_ne_nil (List.length_eq_zero_iff.mp (Nat.succ.inj single))
          rw [Nat.toDigits_of_lt_base low] at zero
          have nonzero : ∀ first < 10, 0 < first → [Nat.digitChar first].head? ≠ some '0' := by
            decide
          exact absurd zero (nonzero _ low (by omega))

section Numbers

variable {text : String} {value : Int}

/-- JSON can write every integer, in its decimal digits. -/
theorem writesInteger_toString (value : Int) : WritesInteger (toString value) value := by
  have digits (number : Nat) : toString number = String.ofList (Nat.toDigits 10 number) := by
    rw [Nat.toString_eq_repr, ← Nat.toList_repr, String.ofList_toList]
  have place (number : Nat) : Number.placeValue (Nat.toDigits 10 number) = number := by
    have known := Number.placeValue_toString number
    rwa [Nat.toString_eq_repr, Nat.toList_repr] at known
  cases value with
  | ofNat number =>
      have written := WritesInteger.plain (isWhole_toDigits number)
      rw [← digits, place] at written
      exact written
  | negSucc number =>
      have written := WritesInteger.minus (isWhole_toDigits (number + 1))
      rw [← digits, place] at written
      exact written

/-- An integer that 64 bits hold, with a sign or without one, is read. -/
theorem exists_numberOf?_of_writes (written : WritesInteger text value) (low : -2 ^ 63 ≤ value)
    (high : value < 2 ^ 64) : ∃ number, numberOf? text.toList = some number := by
  cases written with
  | @plain digits whole =>
      rw [String.toList_ofList, whole.numberOf?_plain, if_pos (by omega)]
      exact ⟨_, rfl⟩
  | @minus digits whole =>
      rw [toList_minus]
      by_cases zero : Number.placeValue digits = 0
      · -- Minus zero is a double, which is read like any other.
        rw [whole.eq_zero zero]
        exact Option.isSome_iff_exists.mp (by decide +kernel)
      · rw [whole.numberOf?_minus, if_pos (by omega)]
        exact ⟨_, rfl⟩

end Numbers

section Refusals

variable {text rest : List Char} {room : Nat}

theorem readPlain_eq_none {word : List Char} (plain : word.all isPlainChar)
    (means : plainOf? word = none) (ends : Ends rest) : readPlain (word ++ rest) = none := by
  have token := takeWhile_append_of_ends (List.all_eq_true.mp plain) ends
  have found : plainOf? ((word ++ rest).takeWhile isPlainChar) = none := by
    rw [token]
    exact means
  unfold readPlain
  dsimp only
  rw [found]
  exact dite_eq_right_iff.mpr fun _ => rfl

theorem readValue_plain_eq_none {first : Char} (plain : isPlainChar first)
    (read : readPlain (first :: text) = none) : readValue room (first :: text) = none := by
  have skipped : (first :: text).dropWhile isSpace = first :: text :=
    List.dropWhile_cons_of_neg (by rw [isSpace_of_isPlainChar plain]; decide)
  rw [readValue]
  split
  case h_1 => rfl
  case h_5 shape =>
      rw [skipped] at shape
      cases shape
      simp only [read, Option.bind_eq_bind, Option.bind_none]
  all_goals
    rename_i shape
    rw [skipped] at shape
    cases shape
    exact absurd plain (by decide)

theorem readMembers_eq_none {name afterName : List Char}
    (readName : Text.Reads (readString text) name (':' :: afterName))
    (read : readValue room afterName = none) : readMembers room ('"' :: text) = none := by
  obtain ⟨colon, foundName, sameName⟩ := readName
  have between : colon.val.dropWhile isSpace = ':' :: afterName := by
    rw [sameName]
    rfl
  rw [readMembers]
  split
  case h_1 start shape =>
      change '"' :: text = _ at shape
      cases shape
      simp only [foundName, Option.bind_eq_bind, Option.bind_some]
      split
      case h_1 before shape =>
          cases between.symm.trans shape
          simp only [read, Option.bind_none]
      case h_2 => rfl
  case h_2 => rfl

theorem readValue_object_eq_none (filled : ∀ last, text.dropWhile isSpace ≠ '\x7d' :: last)
    (read : readMembers room text = none) : readValue (room + 1) ('\x7b' :: text) = none := by
  rw [readValue]
  split
  case h_4 start shape =>
      change '\x7b' :: text = _ at shape
      cases shape
      split
      case h_1 => rfl
      case h_2 last _ close => exact absurd close (filled last)
      case h_3 left _ =>
          cases left
          simp only [read, Option.bind_eq_bind, Option.bind_none]
  case h_5 notBrace shape =>
      change '\x7b' :: text = _ at shape
      cases shape
      exact absurd rfl notBrace
  all_goals
    rename_i shape
    change '\x7b' :: text = _ at shape
    simp only [List.cons.injEq, Char.reduceEq, false_and, reduceCtorEq] at shape

end Refusals

section Documents

variable {text : String} {value : Int}

theorem IsWhole.all_isPlainChar {digits : List Char} (whole : IsWhole digits) :
    digits.all isPlainChar := by
  rw [List.all_eq_true]
  intro c member
  simp only [isPlainChar, Char.isAlphanum, whole.decimal c member, Bool.or_true, Bool.true_or]

/-- An integer is written as one word, which is no other word than a number. -/
theorem WritesInteger.exists_word (written : WritesInteger text value) :
    ∃ first rest, text.toList = first :: rest ∧ (first :: rest).all isPlainChar ∧
      plainOf? (first :: rest) = numberOf? (first :: rest) := by
  have noWord {first : Char} (rest : List Char) (other : first ∉ ['n', 't', 'f']) :
      plainOf? (first :: rest) = numberOf? (first :: rest) := by
    have differs (letter : Char) (member : letter ∈ ['n', 't', 'f']) (letters : List Char) :
        first :: rest ≠ letter :: letters := by
      intro same
      exact other ((List.cons.inj same).1 ▸ member)
    rw [plainOf?, if_neg (differs 'n' (by decide) _), if_neg (differs 't' (by decide) _),
      if_neg (differs 'f' (by decide) _)]
  cases written with
  | @plain digits whole =>
      obtain ⟨first, rest, rfl⟩ := List.exists_cons_of_ne_nil whole.nonempty
      refine ⟨first, rest, String.toList_ofList, whole.all_isPlainChar, noWord rest ?_⟩
      intro member
      have digit := whole.decimal _ List.mem_cons_self
      simp only [List.mem_cons, List.not_mem_nil, or_false] at member
      rcases member with rfl | rfl | rfl
      all_goals cases digit
  | @minus digits whole =>
      refine ⟨'-', digits, toList_minus digits, ?_, noWord digits (by decide)⟩
      rw [List.all_cons, whole.all_isPlainChar]
      rfl

theorem ofText?_eq_none (read : readValue text.length text.toList = none) : ofText? text = none := by
  rw [ofText?, ofTextWithin?, read]
  rfl

theorem toList_memberDocument (name value : String) :
    (memberDocument name value).toList = '\x7b' :: '"' :: (name.toList.flatMap escapedChar ++
      '"' :: ':' :: (value.toList ++ ['\x7d'])) := by
  rw [memberDocument, String.toList_append, String.toList_append, String.toList_append,
    String.toList_append, toList_stringText]
  simp only [List.append_assoc, List.cons_append]
  rfl

/-- A document with a number as its only member is JSON exactly if the number is. -/
theorem ofText?_memberDocument (written : WritesInteger text value) (name : String) :
    ofText? (memberDocument name text) =
      (numberOf? text.toList).map fun number => .object [(name, number)] := by
  obtain ⟨first, rest, same, plain, noWord⟩ := written.exists_word
  have begins : isPlainChar first := (Bool.and_eq_true _ _).mp (List.all_cons ▸ plain) |>.1
  have nameEnds := readString_flatMap name.toList (':' :: (text.toList ++ ['\x7d']))
  have filled : ∀ last, ('"' :: (name.toList.flatMap escapedChar ++
      '"' :: ':' :: (text.toList ++ ['\x7d']))).dropWhile isSpace ≠ '\x7d' :: last := by
    intro last shape
    change '"' :: _ = _ at shape
    simp only [List.cons.injEq, Char.reduceEq, false_and] at shape
  obtain ⟨room, long⟩ : ∃ room, (memberDocument name text).length = room + 1 := by
    rw [← String.length_toList, toList_memberDocument]
    exact ⟨_, List.length_cons⟩
  cases means : numberOf? text.toList with
  | none =>
      have number : readValue room (text.toList ++ ['\x7d']) = none := by
        rw [same] at means ⊢
        exact readValue_plain_eq_none begins
          (readPlain_eq_none plain (noWord.trans means) (ends_cons rfl))
      have document := readValue_object_eq_none filled (readMembers_eq_none nameEnds number)
      rw [← toList_memberDocument, ← long] at document
      exact ofText?_eq_none document
  | some number =>
      have read : Text.Reads (readValue room (text.toList ++ ['\x7d'])) number ['\x7d'] := by
        rw [same] at means ⊢
        exact readValue_plain begins
          (readPlain_word (List.cons_ne_nil _ _) plain (noWord.trans means) (ends_cons rfl))
      have document := readValue_object filled (readMembers_last nameEnds read)
      have single : ([(name, number)].map Prod.fst).Nodup := List.nodup_singleton name
      rw [String.ofList_toList, mergedMembers_of_nodup single, ← toList_memberDocument,
        ← long] at document
      exact ofText?_of_reads document

/-- A document with a string as its only member is read. -/
theorem ofText?_memberDocument_stringText (name text : String) :
    ofText? (memberDocument name (stringText text)) = some (.object [(name, .string text)]) := by
  have free : (Json.object [(name, .string text)]).NumberFree :=
    .object (List.nodup_singleton _)
      (List.forall_mem_cons.mpr ⟨.string text, List.forall_mem_nil _⟩)
  have written : memberDocument name (stringText text) =
      (Json.object [(name, .string text)]).compact := by
    rw [← String.toList_inj, toList_memberDocument, toList_compact_object, memberText, compact,
      List.flatMap_nil, List.nil_append, List.cons_append, List.append_assoc]
    rfl
  rw [written]
  exact ofText?_compact free

end Documents

end RequestFilter.Json

namespace RequestFilter

/-- A text of digits asks for the number that they denote, if 64 bits hold it. -/
theorem Count.ofText?_digits {digits : List Char} (nonempty : digits ≠ [])
    (decimal : ∀ c ∈ digits, c.isDigit = true) :
    ofText? (String.ofList digits) = ofNat? (Number.placeValue digits) := by
  have visible : ∀ c ∈ digits, Text.isBlank c = false := fun c member =>
    Text.isBlank_eq_false_of_isDigit (decimal c member)
  have trimmed : Text.trim digits = digits := by
    have around := Text.trimWhile_append (List.forall_mem_nil _)
      (fun c first => visible c (List.mem_of_mem_head? first))
      (fun c last => visible c (List.mem_reverse.mp (List.mem_of_mem_head? last)))
      nonempty (List.forall_mem_nil _)
    rwa [List.nil_append, List.append_nil] at around
  unfold ofText?
  rw [String.toList_ofList, trimmed]
  unfold ofDigits?
  split
  · exact absurd (decimal '+' List.mem_cons_self) (by decide)
  · rw [Number.readNat?_eq_some_iff.mpr ⟨nonempty, decimal, rfl⟩]
    rfl

/-- The text of an integer asks for that many rows, if 64 bits hold it and it is not minus zero. -/
theorem Count.ofText?_of_writes {text : String} {integer : Int}
    (written : Json.WritesInteger text integer) {count : Count} :
    ofText? text = some count ↔ (count.toNat : Int) = integer ∧ text ≠ "-0" := by
  cases written with
  | @plain digits whole =>
      rw [ofText?_digits whole.nonempty whole.decimal, ofNat?_eq_some_iff]
      constructor
      · intro same
        refine ⟨congrArg _ same, ?_⟩
        intro minusZero
        rw [← String.toList_inj, String.toList_ofList] at minusZero
        exact absurd (whole.decimal '-' (minusZero ▸ List.mem_cons_self)) (by decide)
      · intro ⟨same, _⟩
        exact Int.ofNat.inj same
  | @minus digits whole =>
      rw [ofText?_minus]
      constructor
      · intro found
        cases found
      · intro ⟨same, notMinusZero⟩
        refine absurd ?_ notMinusZero
        rw [whole.eq_zero (by omega)]
        rfl

namespace Value

/-- An integer of a request asks for itself if it is not negative and 64 bits with a sign hold it. -/
theorem exists_ofJson?_integer (number : Int) :
    ∃ value, ofJson? (.integer number) = some value ∧
      value.count? = if 0 ≤ number ∧ number < 2 ^ 63 then Count.ofNat? number.toNat else none := by
  rw [ofJson?]
  cases fits : Number.int64? number with
  | some word =>
      refine ⟨_, rfl, ?_⟩
      have same := toInt_of_int64? fits
      have bound := word.toInt_lt
      rw [same] at bound
      change Count.ofInt64? word = _
      unfold Count.ofInt64?
      rw [same]
      exact if_congr (by omega) rfl rfl
  | none =>
      refine ⟨_, rfl, (if_neg fun inside => ?_).symm⟩
      unfold Number.int64? at fits
      rw [Int64.toInt_minValue, Int64.toInt_maxValue, if_pos (by omega)] at fits
      cases fits

/-- A number that JSON writes asks for as many rows as its text does, as long as 64 bits with a sign
hold it; a larger one asks for none. -/
theorem exists_ofJson?_of_writes {text : String} {integer : Int}
    (written : Json.WritesInteger text integer) {number : Json}
    (read : Json.numberOf? text.toList = some number) :
    ∃ value, ofJson? number = some value ∧
      value.count? = if integer < 2 ^ 63 then (Value.text text).count? else none := by
  cases written with
  | @plain digits whole =>
      rw [String.toList_ofList, whole.numberOf?_plain] at read
      split at read
      · cases read
        obtain ⟨value, found, asks⟩ := exists_ofJson?_integer (Number.placeValue digits)
        refine ⟨value, found, asks.trans ?_⟩
        change _ = if _ then Count.ofText? _ else none
        rw [Count.ofText?_digits whole.nonempty whole.decimal, Int.toNat_natCast]
        exact if_congr (by omega) rfl rfl
      · obtain ⟨double, _, rfl⟩ := Option.map_eq_some_iff.mp read
        exact ⟨.double double, rfl, (if_neg (by omega)).symm⟩
  | @minus digits whole =>
      have none_asked : (Value.text ("-" ++ String.ofList digits)).count? = none :=
        Count.ofText?_minus _
      rw [none_asked, ite_self]
      rw [Json.toList_minus, whole.numberOf?_minus] at read
      split at read
      · cases read
        obtain ⟨value, found, asks⟩ := exists_ofJson?_integer (-(Number.placeValue digits : Int))
        exact ⟨value, found, asks.trans (if_neg (by omega))⟩
      · obtain ⟨double, _, rfl⟩ := Option.map_eq_some_iff.mp read
        exact ⟨.double double, rfl, rfl⟩

end Value

end RequestFilter
