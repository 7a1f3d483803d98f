import Mathlib.Data.Set.List
import RequestFilter.Proofs.Definitions.Grammar
import RequestFilter.Proofs.Texts
import RequestFilter.Proofs.Toml.Flat
import RequestFilter.Toml.Reader
import RequestFilter.Toml.ToJson

/-! # TOML documents of definitions

A TOML document becomes JSON with types or as settings.  The two differ in the order of
the names of a table, and in values that no setting accepts.  So what a setting accepts
with types it accepts among settings, with the same meaning
(`exists_settingJson?_of_states`).  A byte order mark does not count, and after it there
is none in a document that can be read (`withoutMark_withoutMark`).  Statements are read
one after the other, each with the rest of its line (`readStatements_cons`).
-/

namespace RequestFilter.Toml

open Text Outcome

section Marks

theorem readPath_mark (room : Nat) (rest : List Char) : readPath room ('\ufeff' :: rest) = none := by
  cases room with
  | zero => rfl
  | succ room =>
      have noName : readName (('\ufeff' :: rest).dropWhile isLineBlank) = none := rfl
      rw [readPath]
      simp only [noName, Option.bind_eq_bind, Option.bind_none]

/-- No document starts with a byte order mark once one was taken away. -/
theorem readStatements_mark (rest : List Char) : readStatements ('\ufeff' :: rest) = none := by
  have noFiller : skipFiller ('\ufeff' :: rest) = some ⟨'\ufeff' :: rest, Nat.le_refl _⟩ := rfl
  have noStatement : readStatement ('\ufeff' :: rest) = none := by
    rw [readStatement, readPath_mark]
    · rfl
    · intro _ same
      cases same
    · intro _ same
      cases same
  rw [readStatements]
  simp only [noFiller, Option.bind_eq_bind, Option.bind_some, reduceCtorEq, ↓reduceIte, noStatement,
    Option.bind_none]

theorem withoutMark_withoutMark {text : List Char} {statements : List Statement}
    (read : readStatements (withoutMark text) = some statements) :
    withoutMark (withoutMark text) = withoutMark text := by
  generalize withoutMark text = unmarked at read ⊢
  unfold withoutMark
  split
  · rw [readStatements_mark] at read
    cases read
  · rfl

end Marks

section Lines

variable {text start after : List Char} {value : Toml} {room : Nat}

theorem readValue_literal {shown : String} (reads : Reads (readText ('\'' :: text)) shown after) :
    Reads (readValue room ('\'' :: text)) (.text shown) after := by
  obtain ⟨last, found, rfl⟩ := reads
  rw [readValue, found]
  exact ⟨_, rfl, rfl⟩

theorem readValue_scalar {first : Char} (plain : first ∉ ['"', '\'', '[', '\x7b'])
    (reads : Reads (readScalar (first :: text)) value after) :
    Reads (readValue room (first :: text)) value after := by
  simp only [List.mem_cons, List.not_mem_nil, or_false, not_or] at plain
  obtain ⟨quote, apostrophe, bracket, brace⟩ := plain
  rw [readValue]
  · exact reads
  · exact quote
  · exact apostrophe
  · exact bracket
  · exact brace

/-- A value under a key: the key, the equals sign and the value. -/
theorem readStatement_pair {path : Path} {afterPath beforeValue : List Char}
    (plain : text.head? ≠ some '[') (key : Reads (readPath maxDepth text) path afterPath)
    (equals : afterPath.dropWhile isLineBlank = '=' :: beforeValue)
    (reads : Reads (readValue maxDepth (beforeValue.dropWhile isLineBlank)) value after) :
    Reads (readStatement text) (.pair path value) after := by
  obtain ⟨afterKey, foundKey, rfl⟩ := key
  obtain ⟨last, found, rfl⟩ := reads
  unfold readStatement
  split
  case h_1 => exact absurd rfl plain
  case h_2 => exact absurd rfl plain
  case h_3 =>
      rw [foundKey]
      simp only [Option.bind_eq_bind, Option.bind_some]
      split
      case h_1 shape =>
          cases equals.symm.trans shape
          rw [found]
          exact ⟨_, rfl, rfl⟩
      case h_2 noEquals => exact absurd equals (noEquals beforeValue)

theorem skipFiller_eq (fills : afterFiller? false text = some start) :
    skipFiller text = some ⟨start, length_le_of_afterFiller? fills⟩ := by
  unfold skipFiller
  split
  case h_1 skipped =>
      cases skipped.symm.trans fills
      rfl
  case h_2 none => cases none.symm.trans fills

/-- Statements are read one after the other, each up to the end of its line. -/
theorem readStatements_cons {statement : Statement} (fills : afterFiller? false text = some start)
    (more : start ≠ []) (reads : Reads (readStatement start) statement after)
    (ends : atLineEnd after = true) :
    readStatements text = (readStatements after).map (statement :: ·) := by
  obtain ⟨last, found, rfl⟩ := reads
  rw [readStatements, skipFiller_eq fills]
  simp only [Option.bind_eq_bind, Option.bind_some, more, ↓reduceIte, found, ends]
  cases readStatements last.val <;> rfl

theorem readStatements_eq_nil (fills : afterFiller? false text = some []) :
    readStatements text = some [] := by
  rw [readStatements, skipFiller_eq fills]
  rfl

end Lines

section Order

variable {members : List (String × Json)} {name : String}

theorem lookup_eq_map_find? (name : String) (members : List (String × Json)) :
    members.lookup name =
      (members.find? fun member => decide (member.1 = name)).map Prod.snd := by
  induction members with
  | nil => rfl
  | cons member rest ih =>
      obtain ⟨first, value⟩ := member
      rw [lookup_cons_eq_ite, ih, List.find?_cons]
      by_cases here : first = name
      · rw [if_pos here.symm, decide_eq_true here, Option.map_some]
      · rw [if_neg (Ne.symm here), decide_eq_false here]

theorem sortedMembers_perm (members : List (String × Json)) :
    (sortedMembers members).Perm members :=
  List.mergeSort_perm members _

theorem sortedMembers_pair {first second : String} (ordered : ¬second < first) (value other : Json) :
    sortedMembers [(first, value), (second, other)] = [(first, value), (second, other)] :=
  List.mergeSort_of_pairwise (List.pairwise_pair.mpr (decide_eq_true ordered))

/-- Members of one name keep their order when members are sorted by their names, so that the first of
them stays the first. -/
theorem lookup_sortedMembers (name : String) (members : List (String × Json)) :
    (sortedMembers members).lookup name = members.lookup name := by
  have together : (sortedMembers members).filter (fun member => decide (member.1 = name)) =
      members.filter fun member => decide (member.1 = name) := by
    symm
    refine List.Sublist.eq_of_length ?_
      ((sortedMembers_perm members).filter _).length_eq.symm
    have alike : (members.filter fun member => decide (member.1 = name)).Pairwise
        fun first second => decide ¬second.1 < first.1 := by
      refine List.pairwise_filter.mpr (List.pairwise_of_forall fun first second isFirst isSecond => ?_)
      rw [of_decide_eq_true isFirst, of_decide_eq_true isSecond, decide_eq_true_eq]
      exact String.lt_irrefl name
    have kept := (List.sublist_mergeSort ?_ ?_ alike List.filter_sublist).filter
      fun member => decide (member.1 = name)
    · simp only [List.filter_filter, Bool.and_self] at kept
      exact kept
    · intro first second third below above
      simp only [decide_eq_true_eq, String.not_lt] at below above ⊢
      exact String.le_trans below above
    · intro first second
      simp only [Bool.or_eq_true, decide_eq_true_eq, String.not_lt]
      exact String.le_total first.1 second.1
  rw [lookup_eq_map_find?, lookup_eq_map_find?, ← List.head?_filter, ← List.head?_filter, together]

end Order

theorem typedItems_eq_map (items : List Toml) : typedItems items = items.map typedJson := by
  induction items with
  | nil => rfl
  | cons item rest ih => rw [typedItems, ih, List.map_cons]

theorem typedMembers_eq_map (members : Members) :
    typedMembers members = members.map fun member => (member.1, typedJson member.2) := by
  induction members with
  | nil => rfl
  | cons member rest ih => rw [typedMembers, ih, List.map_cons]

section Values

variable {value : Toml}

theorem eq_flag_of_typedJson {on : Bool} (same : typedJson value = .bool on) : value = .flag on := by
  cases value with
  | flag other =>
      rw [typedJson, Json.bool.injEq] at same
      rw [same]
  | _ =>
      rw [typedJson] at same
      cases same

theorem eq_text_of_typedJson {text : String} (same : typedJson value = .string text) :
    value = .text text := by
  cases value with
  | text other =>
      rw [typedJson, Json.string.injEq] at same
      rw [same]
  | _ =>
      rw [typedJson] at same
      cases same

/-- Only arrays are typed as arrays, those of tables among them. -/
theorem eq_array_of_typedJson {jsons : List Json} (same : typedJson value = .array jsons) :
    ∃ items, (value = .array items ∨ value = .rows items) ∧ jsons = items.map typedJson := by
  cases value with
  | array items =>
      rw [typedJson, typedItems_eq_map, Json.array.injEq] at same
      exact ⟨items, .inl rfl, same.symm⟩
  | rows items =>
      rw [typedJson, typedItems_eq_map, Json.array.injEq] at same
      exact ⟨items, .inr rfl, same.symm⟩
  | _ =>
      rw [typedJson] at same
      cases same

/-- Only moments and tables are typed as objects. -/
theorem eq_table_of_typedJson {members : List (String × Json)}
    (same : typedJson value = .object members) :
    (∃ text, members = [("moment", .string text)]) ∨
      ∃ origin inner, value = .table origin inner ∧
        members = sortedMembers (typedMembers inner) := by
  cases value with
  | moment text =>
      rw [typedJson, Json.object.injEq] at same
      exact .inl ⟨text, same.symm⟩
  | table origin inner =>
      rw [typedJson, Json.object.injEq] at same
      exact .inr ⟨origin, inner, rfl, same.symm⟩
  | _ =>
      rw [typedJson] at same
      cases same

theorem settingItems?_of_forall₂ {items : List Toml} {jsons : List Json}
    (each : List.Forall₂ (fun item json => settingJson? item = some json) items jsons) :
    settingItems? items = some jsons := by
  induction each with
  | nil => rfl
  | cons first _ ih =>
      rw [settingItems?, first, ih]
      rfl

theorem settingMembers?_of_forall₂ {members : Members} {jsons : List (String × Json)}
    (each : List.Forall₂ (fun member json => json.1 = member.1 ∧ settingJson? member.2 = some json.2)
      members jsons) : settingMembers? members = some jsons := by
  induction each with
  | nil => rfl
  | @cons member json _ _ first _ ih =>
      rw [settingMembers?, first.2, ih, ← first.1]
      rfl

/-- A text is the same among settings. -/
theorem settingJson?_of_string {text : String} (same : typedJson value = .string text) :
    settingJson? value = some (.string text) := by
  rw [eq_text_of_typedJson same, settingJson?]

theorem settingJson?_listing {items : List Toml} (listing : value = .array items ∨ value = .rows items)
    {jsons : List Json}
    (each : List.Forall₂ (fun item json => settingJson? item = some json) items jsons) :
    settingJson? value = some (.array jsons) := by
  rcases listing with rfl | rfl
  · rw [settingJson?, settingItems?_of_forall₂ each, Option.map_some]
  · rw [settingJson?, settingItems?_of_forall₂ each, Option.map_some]

/-- An array is the same among settings if its items are. -/
theorem settingJson?_of_array {jsons : List Json} (same : typedJson value = .array jsons)
    (each : ∀ item, typedJson item ∈ jsons → settingJson? item = some (typedJson item)) :
    settingJson? value = some (.array jsons) := by
  obtain ⟨items, listing, rfl⟩ := eq_array_of_typedJson same
  refine settingJson?_listing listing (List.forall₂_map_right_iff.mpr ?_)
  exact List.forall₂_same.mpr fun item member => each item (List.mem_map_of_mem member)

theorem lookup_map_snd {α β : Type} (view : α → β) (name : String) (members : List (String × α)) :
    (members.map fun member => (member.1, view member.2)).lookup name =
      (members.lookup name).map view := by
  induction members with
  | nil => rfl
  | cons member rest ih =>
      obtain ⟨first, value⟩ := member
      rw [List.map_cons, lookup_cons_eq_ite, lookup_cons_eq_ite, ih]
      by_cases here : name = first
      · rw [if_pos here, if_pos here, Option.map_some]
      · rw [if_neg here, if_neg here]

/-- The table of an entry holds nothing but texts, which spell the entry in their own order. -/
theorem exists_texts_of_spells {origin : Origin} {inner : Members} {entry : Entry}
    (spells : Entry.Spells (typedJson (.table origin inner)) entry) :
    ∃ texts, Entry.Spells (.ofTexts texts) entry ∧
      inner = texts.map fun text => (text.1, .text text.2) := by
  rw [typedJson] at spells
  generalize sorted : Json.object (sortedMembers (typedMembers inner)) = json at spells
  cases spells with
  | key => cases sorted
  | field => cases sorted
  | column => cases sorted
  | @table texts key hasKey known =>
      have stated : sortedMembers (typedMembers inner) =
          texts.map fun text => (text.1, .string text.2) := Json.object.inj sorted
      obtain ⟨own, rfl⟩ : inner ∈ Set.range
          (List.map fun text : String × String => (text.1, Toml.text text.2)) := by
        rw [Set.range_list_map]
        intro member inside
        have listed : (member.1, typedJson member.2) ∈ typedMembers inner := by
          rw [typedMembers_eq_map]
          exact List.mem_map_of_mem inside
        rw [← (sortedMembers_perm _).mem_iff, stated] at listed
        obtain ⟨text, _, same⟩ := List.mem_map.mp listed
        have isText := eq_text_of_typedJson (congrArg Prod.snd same).symm
        exact ⟨(member.1, text.2), Prod.ext rfl isText.symm⟩
      have typed : typedMembers (own.map fun text => (text.1, .text text.2)) =
          own.map fun text => (text.1, Json.string text.2) := by
        rw [typedMembers_eq_map, List.map_map]
        rfl
      rw [typed] at stated
      have sameLookup (name : String) : texts.lookup name = own.lookup name := by
        have found := lookup_sortedMembers name (own.map fun text => (text.1, Json.string text.2))
        rw [stated, lookup_map_snd, lookup_map_snd] at found
        exact Option.map_injective (fun _ _ same => Json.string.inj same) found
      refine ⟨own, ?_, rfl⟩
      rw [sameLookup, sameLookup]
      refine .table (sameLookup "key" ▸ hasKey) ?_
      intro name member
      refine known name ?_
      rw [← exists_lookup_iff_mem] at member ⊢
      rwa [sameLookup]

/-- What spells an entry with types spells it among settings. -/
theorem exists_settingJson?_of_spells {entry : Entry}
    (spells : Entry.Spells (typedJson value) entry) :
    ∃ json, settingJson? value = some json ∧ Entry.Spells json entry := by
  have text (item : Toml) (string : String) (same : typedJson item = .string string) :
      settingJson? item = some (typedJson item) := by
    rw [same]
    exact settingJson?_of_string same
  generalize typed : typedJson value = json at spells
  cases spells with
  | key key => exact ⟨_, settingJson?_of_string typed, .key key⟩
  | field key field =>
      refine ⟨_, settingJson?_of_array typed fun item member => ?_, .field key field⟩
      rcases List.mem_pair.mp member with same | same
      · exact text item key same
      · exact text item field same
  | column key relation field =>
      refine ⟨_, settingJson?_of_array typed fun item member => ?_, .column key relation field⟩
      rcases List.mem_pair.mp member with same | same
      · exact text item key same
      · rw [same]
        refine settingJson?_of_array same fun part inside => ?_
        rcases List.mem_pair.mp inside with same | same
        · exact text part relation same
        · exact text part field same
  | @table texts key hasKey known =>
      rcases eq_table_of_typedJson typed with ⟨moment, same⟩ | ⟨origin, inner, rfl, same⟩
      · -- A moment is no entry, since its table has no key.
        cases texts with
        | nil => cases hasKey
        | cons first rest =>
            rw [List.map_cons, List.cons.injEq, Prod.mk.injEq, List.map_eq_nil_iff] at same
            obtain ⟨⟨name, _⟩, rfl⟩ := same
            exact absurd (known first.1 List.mem_cons_self) (name ▸ by decide)
      · have spells : Entry.Spells (typedJson (.table origin inner))
            (.ofParts key (texts.lookup "relation") (texts.lookup "field")) := by
          rw [typed]
          exact .table hasKey known
        obtain ⟨own, spelled, rfl⟩ := exists_texts_of_spells spells
        have members : settingMembers? (own.map fun text => (text.1, .text text.2)) =
            some (own.map fun text => (text.1, .string text.2)) := by
          refine settingMembers?_of_forall₂ (List.forall₂_map_left_iff.mpr
            (List.forall₂_map_right_iff.mpr (List.forall₂_same.mpr fun text _ => ⟨rfl, ?_⟩)))
          rw [settingJson?]
        refine ⟨_, ?_, spelled⟩
        rw [settingJson?, members]
        rfl

/-- What spells an entry is flat, as one of the rows of an array of tables. -/
theorem flatMembers_of_spells {origin : Origin} {inner : Members} {entry : Entry}
    (spells : Entry.Spells (typedJson (.table origin inner)) entry) : FlatMembers inner := by
  obtain ⟨texts, _, rfl⟩ := exists_texts_of_spells spells
  intro name value found
  obtain ⟨text, _, same⟩ := List.mem_map.mp (mem_of_lookup found)
  cases same
  exact .value (fun _ _ => Toml.noConfusion) fun _ => Toml.noConfusion

variable {setting : Setting} {content : setting.Content}

/-- What states a setting with types is flat. -/
theorem flat_of_states (states : setting.States (typedJson value) content) : Flat value := by
  have flag (on : Bool) (same : typedJson value = .bool on) : Flat value := by
    rw [eq_flag_of_typedJson same]
    exact .value (fun _ _ => Toml.noConfusion) fun _ => Toml.noConfusion
  cases setting with
  | atomKeys => exact flag content states
  | stringKeys => exact flag content states
  | toggle which => exact flag content states
  | entries kind =>
      obtain ⟨jsons, same, spelled⟩ := states
      obtain ⟨items, rfl | rfl, rfl⟩ := eq_array_of_typedJson same
      · exact .value (fun _ _ => Toml.noConfusion) fun _ => Toml.noConfusion
      · refine .rows fun origin inner member => ?_
        obtain ⟨entry, spells⟩ :=
          exists_of_forall₂ (List.forall₂_map_left_iff.mp spelled).flip member
        exact flatMembers_of_spells spells

/-- What states a setting with types states it among settings. -/
theorem exists_settingJson?_of_states (states : setting.States (typedJson value) content) :
    ∃ json, settingJson? value = some json ∧ setting.States json content := by
  have flag (on : Bool) (same : typedJson value = .bool on) :
      settingJson? value = some (.bool on) := by
    rw [eq_flag_of_typedJson same, settingJson?]
  cases setting with
  | atomKeys => exact ⟨_, flag content states, rfl⟩
  | stringKeys => exact ⟨_, flag content states, rfl⟩
  | toggle which => exact ⟨_, flag content states, rfl⟩
  | entries kind =>
      obtain ⟨jsons, same, spelled⟩ := states
      obtain ⟨items, listing, rfl⟩ := eq_array_of_typedJson same
      obtain ⟨settled, read, spells⟩ :=
        exists_forall₂_between ((List.forall₂_map_left_iff.mp spelled).imp fun _ _ spells =>
          exists_settingJson?_of_spells spells)
      exact ⟨_, settingJson?_listing listing read, _, rfl, spells⟩

end Values

end RequestFilter.Toml
