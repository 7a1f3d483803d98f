import RequestFilter.Json.Reader
import RequestFilter.Json.Writer
import RequestFilter.Proofs.Named
import RequestFilter.Proofs.Texts
import RequestFilter.Proofs.Trees

/-! # JSON text read back

A value without numbers is written as a text that reads back as the value
(`Json.ofText?_compact`).  Every character of a string is escaped so that it reads
back (`Json.readString_escapedChar`), and what is written for the parts of a value
reads back whatever follows it.
-/

namespace RequestFilter.Json

open Text

section Strings

variable {text chars rest : List Char} {char : Char}

theorem readString_quote (rest : List Char) : Reads (readString ('"' :: rest)) [] rest := by
  rw [readString]
  exact ⟨_, rfl, rfl⟩

theorem readString_escape {after : List Char} (escape : Reads (readEscape text) char after)
    (read : Reads (readString after) chars rest) :
    Reads (readString ('\\' :: text)) (char :: chars) rest := by
  obtain ⟨middle, escaped, same⟩ := escape
  subst same
  obtain ⟨last, found, same⟩ := read
  rw [readString, escaped]
  simp only [Option.bind_eq_bind, Option.bind_some, found]
  exact ⟨_, rfl, same⟩

theorem readString_plain (notQuote : char ≠ '"') (notEscape : char ≠ '\\') (visible : ¬char < ' ')
    (read : Reads (readString text) chars rest) :
    Reads (readString (char :: text)) (char :: chars) rest := by
  obtain ⟨last, found, same⟩ := read
  rw [readString, if_neg visible, found]
  · exact ⟨_, rfl, same⟩
  · exact notQuote
  · exact notEscape

theorem hexNumber?_control {code : Nat} (control : code < 32) :
    hexNumber? ['0', '0', Nat.digitChar (code / 16), Nat.digitChar (code % 16)] = some code := by
  revert control
  revert code
  decide

theorem charOfCodePoint?_toNat (char : Char) : charOfCodePoint? char.toNat = some char := by
  have valid : char.toNat.isValidChar := char.valid
  rw [charOfCodePoint?, dif_pos valid]
  rfl

/-- The four digits of a control character read back. -/
theorem readEscape_control (control : char < ' ') (text : List Char) :
    Reads (readEscape ('u' :: '0' :: '0' :: Nat.digitChar (char.toNat / 16) ::
      Nat.digitChar (char.toNat % 16) :: text)) char text := by
  have small : char.toNat < 32 := control
  have unit : leadingHex? 4 ('0' :: '0' :: Nat.digitChar (char.toNat / 16) ::
      Nat.digitChar (char.toNat % 16) :: text) = some char.toNat := hexNumber?_control small
  rw [readEscape, unit, Option.bind_eq_bind, Option.bind_some, if_neg (by omega),
    charOfCodePoint?_toNat]
  exact ⟨_, rfl, rfl⟩

/-- A character is escaped by a letter, or by four digits, or stands for itself. -/
theorem escapedChar_cases (char : Char) :
    (∃ letter, escapedChar char = ['\\', letter] ∧
        ∀ text, readEscape (letter :: text) = some (char, .tail _ text)) ∨
      (char < ' ' ∧ escapedChar char =
        ['\\', 'u', '0', '0', Nat.digitChar (char.toNat / 16), Nat.digitChar (char.toNat % 16)]) ∨
      (char ≠ '"' ∧ char ≠ '\\' ∧ ¬char < ' ' ∧ escapedChar char = [char]) := by
  by_cases short : char ∈ ['"', '\\', '\n', '\r', '\t', '\x08', '\x0c']
  · left
    simp only [List.mem_cons, List.not_mem_nil, or_false] at short
    rcases short with rfl | rfl | rfl | rfl | rfl | rfl | rfl
    all_goals exact ⟨_, rfl, fun _ => rfl⟩
  · right
    simp only [List.mem_cons, List.not_mem_nil, or_false, not_or] at short
    obtain ⟨notQuote, notEscape, others⟩ := short
    have long : escapedChar char = if char < ' ' then
        ['\\', 'u', '0', '0', Nat.digitChar (char.toNat / 16), Nat.digitChar (char.toNat % 16)]
        else [char] := by
      simp only [escapedChar, notQuote, notEscape, others, if_false]
    rw [long]
    by_cases control : char < ' '
    · rw [if_pos control]
      exact .inl ⟨control, rfl⟩
    · rw [if_neg control]
      exact .inr ⟨notQuote, notEscape, control, rfl⟩

/-- An escaped character reads back. -/
theorem readString_escapedChar (char : Char) (read : Reads (readString text) chars rest) :
    Reads (readString (escapedChar char ++ text)) (char :: chars) rest := by
  rcases escapedChar_cases char with
    ⟨letter, short, escape⟩ | ⟨control, long⟩ | ⟨notQuote, notEscape, visible, plain⟩
  · rw [short]
    exact readString_escape ⟨_, escape text, rfl⟩ read
  · rw [long]
    exact readString_escape (readEscape_control control text) read
  · rw [plain]
    exact readString_plain notQuote notEscape visible read

theorem readString_flatMap (chars rest : List Char) :
    Reads (readString (chars.flatMap escapedChar ++ '"' :: rest)) chars rest := by
  induction chars with
  | nil => exact readString_quote rest
  | cons char chars ih =>
      rw [List.flatMap_cons, List.append_assoc]
      exact readString_escapedChar char ih

end Strings

section Values

variable {text rest : List Char} {room : Nat}

theorem readValue_string {chars : List Char} (read : Reads (readString text) chars rest) :
    Reads (readValue room ('"' :: text)) (.string (String.ofList chars)) rest := by
  obtain ⟨last, found, same⟩ := read
  rw [readValue]
  split
  case h_2 start shape =>
      change '"' :: text = _ at shape
      cases shape
      simp only [found]
      exact ⟨_, rfl, same⟩
  case h_5 notQuote _ _ shape =>
      change '"' :: text = _ at shape
      cases shape
      exact absurd rfl notQuote
  all_goals
    rename_i shape
    change '"' :: text = _ at shape
    simp only [List.cons.injEq, Char.reduceEq, false_and, reduceCtorEq] at shape

theorem readValue_emptyArray : Reads (readValue (room + 1) ('[' :: ']' :: rest)) (.array []) rest := by
  rw [readValue]
  split
  case h_3 start shape =>
      change '[' :: ']' :: rest = _ at shape
      cases shape
      split
      case h_1 none => cases none
      case h_2 last _ close =>
          change ']' :: rest = _ at close
          cases close
          exact ⟨_, rfl, rfl⟩
      case h_3 _ filled => exact absurd rfl (filled rest)
  case h_5 notBracket _ shape =>
      change '[' :: ']' :: rest = _ at shape
      cases shape
      exact absurd rfl notBracket
  all_goals
    rename_i shape
    change '[' :: ']' :: rest = _ at shape
    simp only [List.cons.injEq, Char.reduceEq, false_and, reduceCtorEq] at shape

theorem readValue_array {items : List Json} (filled : ∀ last, text.dropWhile isSpace ≠ ']' :: last)
    (read : Reads (readItems room text) items rest) :
    Reads (readValue (room + 1) ('[' :: text)) (.array items) rest := by
  obtain ⟨last, found, same⟩ := read
  rw [readValue]
  split
  case h_3 start shape =>
      change '[' :: text = _ at shape
      cases shape
      split
      case h_1 none => cases none
      case h_2 last _ close => exact absurd close (filled last)
      case h_3 left _ =>
          cases left
          simp only [found]
          exact ⟨_, rfl, same⟩
  case h_5 notBracket _ shape =>
      change '[' :: text = _ at shape
      cases shape
      exact absurd rfl notBracket
  all_goals
    rename_i shape
    change '[' :: text = _ at shape
    simp only [List.cons.injEq, Char.reduceEq, false_and, reduceCtorEq] at shape

theorem readValue_emptyObject :
    Reads (readValue (room + 1) ('\x7b' :: '\x7d' :: rest)) (.object []) rest := by
  rw [readValue]
  split
  case h_4 start shape =>
      change '\x7b' :: '\x7d' :: rest = _ at shape
      cases shape
      split
      case h_1 none => cases none
      case h_2 last _ close =>
          change '\x7d' :: rest = _ at close
          cases close
          exact ⟨_, rfl, rfl⟩
      case h_3 _ filled => exact absurd rfl (filled rest)
  case h_5 notBrace shape =>
      change '\x7b' :: '\x7d' :: rest = _ at shape
      cases shape
      exact absurd rfl notBrace
  all_goals
    rename_i shape
    change '\x7b' :: '\x7d' :: rest = _ at shape
    simp only [List.cons.injEq, Char.reduceEq, false_and, reduceCtorEq] at shape

theorem readValue_object {members : List (String × Json)}
    (filled : ∀ last, text.dropWhile isSpace ≠ '\x7d' :: last)
    (read : Reads (readMembers room text) members rest) :
    Reads (readValue (room + 1) ('\x7b' :: text)) (.object (mergedMembers members)) rest := by
  obtain ⟨last, found, same⟩ := read
  rw [readValue]
  split
  case h_4 start shape =>
      change '\x7b' :: text = _ at shape
      cases shape
      split
      case h_1 none => cases none
      case h_2 last _ close => exact absurd close (filled last)
      case h_3 left _ =>
          cases left
          simp only [found]
          exact ⟨_, rfl, same⟩
  case h_5 notBrace shape =>
      change '\x7b' :: text = _ at shape
      cases shape
      exact absurd rfl notBrace
  all_goals
    rename_i shape
    change '\x7b' :: text = _ at shape
    simp only [List.cons.injEq, Char.reduceEq, false_and, reduceCtorEq] at shape

theorem isSpace_of_isPlainChar {char : Char} (plain : isPlainChar char) : isSpace char = false := by
  rw [Bool.eq_false_iff]
  intro space
  simp only [isSpace, Bool.or_eq_true, decide_eq_true_eq] at space
  rcases space with ((rfl | rfl) | rfl) | rfl
  all_goals exact absurd plain (by decide)

theorem readValue_plain {first : Char} {value : Json} (plain : isPlainChar first)
    (read : Reads (readPlain (first :: text)) value rest) :
    Reads (readValue room (first :: text)) value rest := by
  obtain ⟨last, found, same⟩ := read
  have skipped : (first :: text).dropWhile isSpace = first :: text :=
    List.dropWhile_cons_of_neg (by rw [isSpace_of_isPlainChar plain]; decide)
  rw [readValue]
  split
  case h_1 shape =>
      rw [skipped] at shape
      cases shape
  case h_5 shape =>
      rw [skipped] at shape
      cases shape
      simp only [found]
      exact ⟨_, rfl, same⟩
  all_goals
    rename_i shape
    rw [skipped] at shape
    cases shape
    exact absurd plain (by decide)

theorem readItems_last {item : Json} (read : Reads (readValue room text) item (']' :: rest)) :
    Reads (readItems room text) [item] rest := by
  obtain ⟨after, found, same⟩ := read
  have left : after.val.dropWhile isSpace = ']' :: rest := by
    rw [same]
    rfl
  rw [readItems]
  simp only [found, Option.bind_eq_bind, Option.bind_some]
  split
  case h_1 last shape =>
      cases left.symm.trans shape
      exact ⟨_, rfl, rfl⟩
  case h_2 shape => simp only [left, List.cons.injEq, Char.reduceEq, false_and] at shape
  case h_3 notLast _ => exact absurd left (notLast rest)

theorem readItems_more {more : List Char} {item : Json} {items : List Json}
    (read : Reads (readValue room text) item (',' :: more))
    (others : Reads (readItems room more) items rest) :
    Reads (readItems room text) (item :: items) rest := by
  obtain ⟨after, found, same⟩ := read
  obtain ⟨last, readOthers, sameLast⟩ := others
  have left : after.val.dropWhile isSpace = ',' :: more := by
    rw [same]
    rfl
  rw [readItems]
  simp only [found, Option.bind_eq_bind, Option.bind_some]
  split
  case h_1 shape => simp only [left, List.cons.injEq, Char.reduceEq, false_and] at shape
  case h_2 shape =>
      cases left.symm.trans shape
      simp only [readOthers, Option.bind_some]
      exact ⟨_, rfl, sameLast⟩
  case h_3 notMore => exact absurd left (notMore more)

section Members

variable {afterName more : List Char} {name : List Char} {value : Json}

theorem readMembers_last (readName : Reads (readString text) name (':' :: afterName))
    (read : Reads (readValue room afterName) value ('\x7d' :: rest)) :
    Reads (readMembers room ('"' :: text)) [(String.ofList name, value)] rest := by
  obtain ⟨colon, foundName, sameName⟩ := readName
  obtain ⟨after, found, same⟩ := read
  have between : colon.val.dropWhile isSpace = ':' :: afterName := by
    rw [sameName]
    rfl
  have left : after.val.dropWhile isSpace = '\x7d' :: rest := by
    rw [same]
    rfl
  rw [readMembers]
  split
  case h_1 start shape =>
      change '"' :: text = _ at shape
      cases shape
      simp only [foundName, Option.bind_eq_bind, Option.bind_some]
      split
      case h_1 before shape =>
          cases between.symm.trans shape
          simp only [found, Option.bind_some]
          split
          case h_1 last shape =>
              cases left.symm.trans shape
              exact ⟨_, rfl, rfl⟩
          case h_2 shape => simp only [left, List.cons.injEq, Char.reduceEq, false_and] at shape
          case h_3 notLast _ => exact absurd left (notLast rest)
      case h_2 noColon => exact absurd between (noColon afterName)
  case h_2 noName => exact absurd rfl (noName text)

theorem readMembers_more {members : List (String × Json)}
    (readName : Reads (readString text) name (':' :: afterName))
    (read : Reads (readValue room afterName) value (',' :: more))
    (others : Reads (readMembers room more) members rest) :
    Reads (readMembers room ('"' :: text)) ((String.ofList name, value) :: members) rest := by
  obtain ⟨colon, foundName, sameName⟩ := readName
  obtain ⟨after, found, same⟩ := read
  obtain ⟨last, readOthers, sameLast⟩ := others
  have between : colon.val.dropWhile isSpace = ':' :: afterName := by
    rw [sameName]
    rfl
  have left : after.val.dropWhile isSpace = ',' :: more := by
    rw [same]
    rfl
  rw [readMembers]
  split
  case h_1 start shape =>
      change '"' :: text = _ at shape
      cases shape
      simp only [foundName, Option.bind_eq_bind, Option.bind_some]
      split
      case h_1 before shape =>
          cases between.symm.trans shape
          simp only [found, Option.bind_some]
          split
          case h_1 shape => simp only [left, List.cons.injEq, Char.reduceEq, false_and] at shape
          case h_2 shape =>
              cases left.symm.trans shape
              simp only [readOthers, Option.bind_some]
              exact ⟨_, rfl, sameLast⟩
          case h_3 notMore => exact absurd left (notMore more)
      case h_2 noColon => exact absurd between (noColon afterName)
  case h_2 noName => exact absurd rfl (noName text)

end Members

end Values

/-- No number stands in a value, and no name twice in one of its objects. -/
inductive NumberFree : Json → Prop
  | null : NumberFree .null
  | bool (value : Bool) : NumberFree (.bool value)
  | string (value : String) : NumberFree (.string value)
  | array {items : List Json} (each : ∀ item ∈ items, NumberFree item) : NumberFree (.array items)
  | object {members : List (String × Json)} (distinct : (members.map Prod.fst).Nodup)
    (each : ∀ member ∈ members, NumberFree member.2) : NumberFree (.object members)

/-- A text does not go on with a word or a number. -/
def Ends (rest : List Char) : Prop := ∀ char ∈ rest.head?, isPlainChar char = false

theorem ends_cons {char : Char} {rest : List Char} (noWord : isPlainChar char = false) :
    Ends (char :: rest) := by
  intro other member
  cases member
  exact noWord

theorem readPlain_word {word rest : List Char} {value : Json} (nonempty : word ≠ [])
    (plain : word.all isPlainChar) (means : plainOf? word = some value)
    (ends : Ends rest) : Reads (readPlain (word ++ rest)) value rest := by
  have token := takeWhile_append_of_ends (List.all_eq_true.mp plain) ends
  have found : plainOf? ((word ++ rest).takeWhile isPlainChar) = some value := by
    rw [token]
    exact means
  unfold readPlain
  dsimp only
  rw [dif_pos (by rw [token]; exact nonempty), found]
  refine ⟨_, rfl, ?_⟩
  change (word ++ rest).drop ((word ++ rest).takeWhile isPlainChar).length = rest
  rw [token, List.drop_left]

theorem isSetter_setMember : IsSetter setMember where
  nil _ _ := rfl
  cons _ _ _ _ := rfl

/-- Members under distinct names are kept as they are. -/
theorem mergedMembers_of_nodup {members : List (String × Json)}
    (distinct : (members.map Prod.fst).Nodup) : mergedMembers members = members :=
  isSetter_setMember.foldl_eq_append_of_fresh distinct

theorem compactItems_eq_map (items : List Json) : compactItems items = items.map compact := by
  induction items with
  | nil => rfl
  | cons item rest ih => rw [compactItems, ih, List.map_cons]

theorem compactMembers_eq_map (members : List (String × Json)) :
    compactMembers members =
      members.map fun member => stringText member.1 ++ ":" ++ compact member.2 := by
  induction members with
  | nil => rfl
  | cons member rest ih => rw [compactMembers, ih, List.map_cons]

theorem toList_stringText (text : String) :
    (stringText text).toList = '"' :: (text.toList.flatMap escapedChar ++ ['"']) :=
  String.toList_ofList

theorem toList_compact_array (first : Json) (items : List Json) :
    (Json.array (first :: items)).compact.toList =
      '[' :: (first.compact.toList ++
        (items.flatMap (fun item => ',' :: item.compact.toList) ++ [']'])) := by
  rw [compact, compactItems_eq_map, List.map_cons, String.toList_append, String.toList_append,
    toList_intercalate_cons, List.flatMap_map, List.append_assoc, List.append_assoc]
  rfl

/-- The text of a member. -/
def memberText (member : String × Json) : List Char :=
  '"' :: (member.1.toList.flatMap escapedChar ++ '"' :: ':' :: member.2.compact.toList)

theorem toList_compact_object (first : String × Json) (members : List (String × Json)) :
    (Json.object (first :: members)).compact.toList =
      '\x7b' :: (memberText first ++
        (members.flatMap (fun member => ',' :: memberText member) ++ ['\x7d'])) := by
  have written (member : String × Json) :
      (stringText member.1 ++ ":" ++ compact member.2).toList = memberText member := by
    rw [String.toList_append, String.toList_append, toList_stringText, memberText,
      List.append_assoc, List.cons_append, List.append_assoc]
    rfl
  rw [compact, compactMembers_eq_map, List.map_cons, String.toList_append, String.toList_append,
    toList_intercalate_cons, List.flatMap_map, List.append_assoc, List.append_assoc, written]
  simp only [written]
  rfl

section Lists

variable {room : Nat}

theorem readItems_compact {first : Json} {items : List Json}
    (each : ∀ item ∈ first :: items, ∀ rest, Ends rest →
      Reads (readValue room (item.compact.toList ++ rest)) item rest) (rest : List Char) :
    Reads (readItems room (first.compact.toList ++
      (items.flatMap (fun item => ',' :: item.compact.toList) ++ ']' :: rest)))
      (first :: items) rest := by
  obtain ⟨readFirst, others⟩ := List.forall_mem_cons.mp each
  induction items generalizing first with
  | nil => exact readItems_last (readFirst _ (ends_cons rfl))
  | cons item items ih =>
      rw [List.flatMap_cons, List.append_assoc, List.cons_append]
      exact readItems_more (readFirst _ (ends_cons rfl))
        (ih others (others item List.mem_cons_self) (List.forall_mem_cons.mp others).2)

theorem memberText_append (member : String × Json) (rest : List Char) :
    memberText member ++ rest = '"' :: (member.1.toList.flatMap escapedChar ++
      '"' :: ':' :: (member.2.compact.toList ++ rest)) := by
  rw [memberText, List.cons_append, List.append_assoc, List.cons_append, List.cons_append]

theorem readMembers_compact {first : String × Json} {members : List (String × Json)}
    (each : ∀ member ∈ first :: members, ∀ rest, Ends rest →
      Reads (readValue room (member.2.compact.toList ++ rest)) member.2 rest) (rest : List Char) :
    Reads (readMembers room (memberText first ++
      (members.flatMap (fun member => ',' :: memberText member) ++ '\x7d' :: rest)))
      (first :: members) rest := by
  obtain ⟨readFirst, others⟩ := List.forall_mem_cons.mp each
  induction members generalizing first with
  | nil =>
      have last := readMembers_last (readString_flatMap first.1.toList _)
        (readFirst ('\x7d' :: rest) (ends_cons rfl))
      rw [String.ofList_toList, ← memberText_append] at last
      exact last
  | cons member members ih =>
      rw [List.flatMap_cons, List.append_assoc, List.cons_append]
      have more := readMembers_more (readString_flatMap first.1.toList _)
        (readFirst _ (ends_cons rfl))
        (ih others (others member List.mem_cons_self) (List.forall_mem_cons.mp others).2)
      rw [String.ofList_toList, ← memberText_append] at more
      exact more

theorem length_le_of_mem {α : Type} {write : α → List Char} {item : α} {items : List α}
    (member : item ∈ items) :
    (write item).length ≤ (items.flatMap fun item => ',' :: write item).length := by
  obtain ⟨before, after, rfl⟩ := List.append_of_mem member
  rw [List.flatMap_append, List.flatMap_cons, List.length_append, List.length_append,
    List.length_cons]
  omega

/-- The text of a value begins neither with a blank nor like the end of an array. -/
theorem compact_opens {json : Json} (free : json.NumberFree) :
    ∃ first rest, json.compact.toList = first :: rest ∧ isSpace first = false ∧ first ≠ ']' := by
  cases free with
  | null => exact ⟨_, _, rfl, by decide, by decide⟩
  | bool value => cases value <;> exact ⟨_, _, rfl, by decide, by decide⟩
  | string value =>
      rw [compact, toList_stringText]
      exact ⟨_, _, rfl, by decide, by decide⟩
  | array each =>
      rw [compact, String.toList_append, String.toList_append]
      exact ⟨_, _, rfl, by decide, by decide⟩
  | object distinct each =>
      rw [compact, String.toList_append, String.toList_append]
      exact ⟨_, _, rfl, by decide, by decide⟩

theorem readValue_compact_array {first : Json} {items : List Json} (free : first.NumberFree)
    (each : ∀ item ∈ first :: items, ∀ rest, Ends rest →
      Reads (readValue room (item.compact.toList ++ rest)) item rest) (rest : List Char) :
    Reads (readValue (room + 1) ((Json.array (first :: items)).compact.toList ++ rest))
      (.array (first :: items)) rest := by
  rw [toList_compact_array, List.cons_append, List.append_assoc, List.append_assoc]
  apply readValue_array
  · intro last same
    obtain ⟨opening, others, begins, visible, filled⟩ := compact_opens free
    rw [begins, List.cons_append, List.dropWhile_cons_of_neg (by rw [visible]; decide)] at same
    exact filled (List.cons.inj same).1
  · exact readItems_compact each rest

theorem readValue_compact_object {first : String × Json} {members : List (String × Json)}
    (distinct : ((first :: members).map Prod.fst).Nodup)
    (each : ∀ member ∈ first :: members, ∀ rest, Ends rest →
      Reads (readValue room (member.2.compact.toList ++ rest)) member.2 rest) (rest : List Char) :
    Reads (readValue (room + 1) ((Json.object (first :: members)).compact.toList ++ rest))
      (.object (first :: members)) rest := by
  rw [toList_compact_object, List.cons_append, List.append_assoc, List.append_assoc]
  have read := readMembers_compact each rest
  have object := readValue_object ?_ read
  · rw [mergedMembers_of_nodup distinct] at object
    exact object
  · intro last same
    change '"' :: _ = _ at same
    simp only [List.cons.injEq, Char.reduceEq, false_and] at same

end Lists

section Lengths

variable {α : Type} {first item : α} {items : List α} {room : Nat} {opening closing : Char}

/-- There is room for what stands between brackets. -/
theorem fits_of_mem (write : α → List Char) (member : item ∈ first :: items)
    (fits : (opening :: (write first ++
      (items.flatMap (fun item => ',' :: write item) ++ [closing]))).length ≤ room + 1) :
    (write item).length ≤ room := by
  rw [List.length_cons, List.length_append, List.length_append] at fits
  rcases List.mem_cons.mp member with rfl | later
  · omega
  · have inside : (write item).length ≤ _ := length_le_of_mem later
    omega

end Lengths

theorem length_memberText (member : String × Json) :
    member.2.compact.toList.length ≤ (memberText member).length := by
  rw [memberText, List.length_cons, List.length_append, List.length_cons, List.length_cons]
  omega

theorem exists_room {json : Json} (free : json.NumberFree) {room : Nat}
    (fits : json.compact.toList.length ≤ room) : ∃ left, room = left + 1 := by
  obtain ⟨first, rest, begins, _⟩ := compact_opens free
  rw [begins, List.length_cons] at fits
  exact Nat.exists_eq_add_one_of_ne_zero (by omega)

/-- The text of a value reads back as the value. -/
theorem readValue_compact {json : Json} (free : json.NumberFree) {room : Nat}
    (fits : json.compact.toList.length ≤ room) {rest : List Char} (ends : Ends rest) :
    Reads (readValue room (json.compact.toList ++ rest)) json rest := by
  induction json using Json.inductionOn generalizing room rest with
  | null =>
      have read := readPlain_word (List.cons_ne_nil 'n' ['u', 'l', 'l']) rfl rfl ends
      exact readValue_plain rfl read
  | bool value =>
      cases value with
      | false =>
          have read := readPlain_word (List.cons_ne_nil 'f' ['a', 'l', 's', 'e']) rfl rfl ends
          exact readValue_plain rfl read
      | true =>
          have read := readPlain_word (List.cons_ne_nil 't' ['r', 'u', 'e']) rfl rfl ends
          exact readValue_plain rfl read
  | integer value => cases free
  | double value => cases free
  | string value =>
      have read : Reads (readValue room _) _ _ :=
        readValue_string (readString_flatMap value.toList rest)
      rw [String.ofList_toList] at read
      rw [compact, toList_stringText, List.cons_append, List.append_assoc]
      exact read
  | array items ih =>
      obtain ⟨room, rfl⟩ := exists_room free fits
      cases free with | array each =>
      cases items with
      | nil => exact readValue_emptyArray
      | cons first items =>
          apply readValue_compact_array (each first List.mem_cons_self)
          intro item member rest ends
          rw [toList_compact_array] at fits
          have less := fits_of_mem (fun item => item.compact.toList) member fits
          exact ih item member (each item member) less ends
  | object members ih =>
      obtain ⟨room, rfl⟩ := exists_room free fits
      cases free with | object distinct each =>
      cases members with
      | nil => exact readValue_emptyObject
      | cons first members =>
          apply readValue_compact_object distinct
          intro member inside rest ends
          rw [toList_compact_object] at fits
          have less := Nat.le_trans (length_memberText member) (fits_of_mem memberText inside fits)
          exact ih member inside (each member inside) less ends

/-- A text that is read to its end is read. -/
theorem ofText?_of_reads {text : String} {json : Json}
    (read : Reads (readValue text.length text.toList) json []) : ofText? text = some json := by
  obtain ⟨last, found, same⟩ := read
  rw [ofText?, ofTextWithin?, found]
  simp only [Option.bind_eq_bind, Option.bind_some, same, List.all_nil, if_true]

/-- The text of a value without numbers reads back as the value. -/
theorem ofText?_compact {json : Json} (free : json.NumberFree) :
    ofText? json.compact = some json := by
  have ends : Ends [] := by
    intro char member
    cases member
  have read := readValue_compact free (Nat.le_of_eq String.length_toList) ends
  rw [List.append_nil] at read
  exact ofText?_of_reads read

end RequestFilter.Json
