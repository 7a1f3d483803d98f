import RequestFilter.Proofs.Definitions.Contents
import RequestFilter.Proofs.Definitions.Spelling
import RequestFilter.Proofs.Trees

/-! # The grammar of definitions

Which JSON values state definitions, said without reading them: objects of
settings and arrays of their values in order, where a flag is a truth value and
the entries of a kind are an array of spelled entries
(`Definitions.IsDocument`).  The reader accepts exactly these, gives every setting
what is stated for it, and complains about a table of texts when such a table is
the first thing wrong with a document (`Definitions.ofJson_grammar`).
-/

namespace RequestFilter

open Outcome

/-- A JSON value states what a setting holds. -/
def Setting.States : (setting : Setting) → Json → setting.Content → Prop
  | .entries _, json, listed => ∃ items, json = .array items ∧ List.Forall₂ Entry.Spells items listed
  | .atomKeys, json, on => json = .bool on
  | .stringKeys, json, on => json = .bool on
  | .toggle _, json, on => json = .bool on

theorem Setting.read_eq_ok_iff {setting : Setting} {json : Json} {content : setting.Content} :
    setting.read Definitions.strictFlag? json = .ok content ↔ setting.States json content := by
  have flag (on : Bool) :
      Definitions.readFlag Definitions.strictFlag? json = .ok on ↔ json = .bool on := by
    cases json with
    | bool value =>
        change Except.ok value = .ok on ↔ _
        rw [Except.ok.injEq, Json.bool.injEq]
    | _ =>
        constructor
        · intro success
          cases success
        · intro same
          cases same
  cases setting with
  | atomKeys => exact flag content
  | stringKeys => exact flag content
  | toggle which => exact flag content
  | entries kind =>
      constructor
      · intro success
        cases json with
        | array items =>
            refine ⟨items, rfl, (forall₂_of_mapM success).imp ?_⟩
            intro item entry read
            exact Entry.spells_of_ofJson read
        | _ => cases success
      · intro ⟨items, same, spelled⟩
        rw [same]
        refine mapM_eq_ok_iff_forall₂.mpr (spelled.imp ?_)
        intro item entry spells
        exact Entry.ofJson_eq_ok_iff.mpr spells

namespace Definitions

/-- A JSON value states definitions. -/
inductive IsDocument : Json → Prop
  | object {members : List (String × Json)}
      (each : ∀ member ∈ members, ∃ setting : Setting, member.1 = setting.name ∧
        ∃ content, setting.States member.2 content) :
      IsDocument (.object members)
  | array {items : List Json} (short : items.length ≤ Setting.all.length)
      (each : ∀ (place : Nat) (setting : Setting) (item : Json),
        Setting.all[place]? = some setting → items[place]? = some item →
          ∃ content, setting.States item content) :
      IsDocument (.array items)

/-- What a document states for a setting: the value under its name or in its place. -/
def stated? (setting : Setting) : Json → Option Json
  | .object members => members.lookup setting.name
  | .array items => items[Setting.all.idxOf setting]?
  | _ => none

/-- A statement of a document that can be read. -/
def IsStatement (statement : Option Setting × Json) : Prop :=
  ∃ setting content, statement.1 = some setting ∧ setting.States statement.2 content

/-- The first thing wrong with a document is a table of texts among the entries of a kind. -/
def FirstFaulty (json : Json) (texts : List (String × String)) : Prop :=
  ∃ (before after : List (Option Setting × Json)) (kind : FieldKind) (good rest : List Json),
    statements? json = some (before ++
      (some (.entries kind), .array (good ++ .ofTexts texts :: rest)) :: after) ∧
    (∀ statement ∈ before, IsStatement statement) ∧
    ∀ item ∈ good, ∃ entry, Entry.Spells item entry

theorem exists_readStatement_iff {statement : Option Setting × Json} :
    (∃ content, readStatement strictFlag? statement = .ok content) ↔ IsStatement statement := by
  constructor
  · intro ⟨⟨setting, content⟩, read⟩
    obtain ⟨named, read⟩ := readStatement_eq_ok_iff.mp read
    exact ⟨setting, content, named, Setting.read_eq_ok_iff.mp read⟩
  · intro ⟨setting, content, named, states⟩
    exact ⟨⟨setting, content⟩,
      readStatement_eq_ok_iff.mpr ⟨named, Setting.read_eq_ok_iff.mpr states⟩⟩

/-- The documents are what has only statements that can be read. -/
theorem isDocument_iff {json : Json} :
    IsDocument json ↔
      ∃ statements, statements? json = some statements ∧
        ∀ statement ∈ statements, IsStatement statement := by
  constructor
  · intro document
    cases document with
    | @object members each =>
        refine ⟨_, rfl, ?_⟩
        intro statement member
        obtain ⟨named, inside, rfl⟩ := List.mem_map.mp member
        obtain ⟨setting, same, content, states⟩ := each named inside
        exact ⟨setting, content, Setting.ofName?_eq_some_iff.mpr same, states⟩
    | @array items short each =>
        refine ⟨_, rfl, ?_⟩
        intro statement member
        obtain ⟨place, inside, rfl⟩ := List.mem_mapIdx.mp member
        have known : place < Setting.all.length := Nat.lt_of_lt_of_le inside short
        obtain ⟨content, states⟩ := each place Setting.all[place] items[place]
          (List.getElem?_eq_getElem known) (List.getElem?_eq_getElem inside)
        exact ⟨Setting.all[place], content, List.getElem?_eq_getElem known, states⟩
  · intro ⟨statements, stated, each⟩
    cases json with
    | object members =>
        cases stated
        refine .object ?_
        intro member inside
        obtain ⟨setting, content, named, states⟩ := each _ (List.mem_map_of_mem inside)
        exact ⟨setting, Setting.ofName?_eq_some_iff.mp named, content, states⟩
    | array items =>
        cases stated
        have at_place (place : Nat) (inside : place < items.length) :
            IsStatement (Setting.all[place]?, items[place]) :=
          each _ (List.mem_mapIdx.mpr ⟨place, inside, rfl⟩)
        refine .array ?_ ?_
        · by_contra long
          obtain ⟨setting, _, named, _⟩ := at_place Setting.all.length (Nat.lt_of_not_le long)
          rw [List.getElem?_eq_none (Nat.le_refl _)] at named
          cases named
        · intro place setting item known found
          obtain ⟨inside, same⟩ := List.getElem?_eq_some_iff.mp found
          obtain ⟨other, content, named, states⟩ := at_place place inside
          cases known.symm.trans named
          exact ⟨content, same ▸ states⟩
    | _ => cases stated

/-- Reading succeeds exactly on documents. -/
theorem exists_ofJson_iff {json : Json} :
    (∃ definitions, ofJson json = .ok definitions) ↔ IsDocument json := by
  rw [isDocument_iff]
  constructor
  · intro ⟨definitions, success⟩
    cases stated : statements? json with
    | none =>
        rw [ofJson_eq, stated] at success
        cases success
    | some statements =>
        obtain ⟨contents, read, _⟩ := (ofJson_eq_ok_iff stated).mp success
        refine ⟨statements, rfl, ?_⟩
        intro statement member
        exact exists_readStatement_iff.mp (exists_mapM_iff.mp ⟨contents, read⟩ statement member)
  · intro ⟨statements, stated, each⟩
    obtain ⟨contents, read⟩ := exists_mapM_iff.mpr fun statement member =>
      exists_readStatement_iff.mpr (each statement member)
    exact ⟨_, (ofJson_eq_ok_iff stated).mpr ⟨contents, read, rfl⟩⟩

section Stated

variable {json : Json} {statements : List (Option Setting × Json)}

/-- In a document without repeated names no setting is stated twice. -/
theorem nodup_of_distinctNames (distinct : json.DistinctNames)
    (stated : statements? json = some statements)
    (each : ∀ statement ∈ statements, IsStatement statement) :
    (statements.map Prod.fst).Nodup := by
  cases json with
  | object members =>
      cases stated
      rw [List.map_map]
      refine List.Nodup.map_on ?_ (List.Nodup.of_map Prod.fst distinct)
      intro first inFirst second inSecond same
      obtain ⟨setting, _, named, _⟩ := each _ (List.mem_map_of_mem inFirst)
      have firstName := Setting.ofName?_eq_some_iff.mp named
      have secondName := Setting.ofName?_eq_some_iff.mp (same.symm.trans named)
      exact List.inj_on_of_nodup_map distinct inFirst inSecond (firstName.trans secondName.symm)
  | array items =>
      cases stated
      have document : IsDocument (.array items) := isDocument_iff.mpr ⟨_, rfl, each⟩
      cases document with | array short _ =>
      have places : (items.mapIdx fun place item => (Setting.all[place]?, item)).map Prod.fst =
          (Setting.all.take items.length).map some := by
        apply List.ext_getElem
        · simp only [List.length_map, List.length_mapIdx, List.length_take, Nat.min_eq_left short]
        · intro place inside _
          rw [List.length_map, List.length_mapIdx] at inside
          simp only [List.getElem_map, List.getElem_mapIdx, List.getElem_take]
          exact List.getElem?_eq_getElem (Nat.lt_of_lt_of_le inside short)
      rw [places]
      exact ((List.take_sublist _ _).nodup Setting.all_nodup).map fun _ _ same =>
        Option.some.inj same
  | _ => cases stated

theorem mem_of_stated? {setting : Setting} {value : Json}
    (stated : statements? json = some statements) (found : stated? setting json = some value) :
    (some setting, value) ∈ statements := by
  cases json with
  | object members =>
      cases stated
      exact List.mem_map.mpr ⟨_, mem_of_lookup found,
        congrArg (·, value) (Setting.ofName?_eq_some_iff.mpr rfl)⟩
  | array items =>
      cases stated
      obtain ⟨inside, same⟩ := List.getElem?_eq_some_iff.mp found
      refine List.mem_mapIdx.mpr ⟨_, inside, ?_⟩
      rw [same, List.getElem?_idxOf setting.mem_all]
  | _ => cases stated

theorem not_mem_of_stated? {setting : Setting}
    (stated : statements? json = some statements) (absent : stated? setting json = none) :
    some setting ∉ statements.map Prod.fst := by
  intro member
  obtain ⟨statement, inside, same⟩ := List.mem_map.mp member
  cases json with
  | object members =>
      cases stated
      obtain ⟨named, present, rfl⟩ := List.mem_map.mp inside
      refine lookup_eq_none_iff_not_mem.mp absent ?_
      rw [← Setting.ofName?_eq_some_iff.mp same]
      exact List.mem_map_of_mem present
  | array items =>
      cases stated
      obtain ⟨place, present, rfl⟩ := List.mem_mapIdx.mp inside
      obtain ⟨known, found⟩ := List.getElem?_eq_some_iff.mp same
      rw [← found, stated?, Setting.all_nodup.idxOf_getElem, List.getElem?_eq_none_iff] at absent
      exact absurd present (Nat.not_lt.mpr absent)
  | _ => cases stated

end Stated

/-- A value is refused with a complaint about a table of texts when such a table is the first of the
entries of a kind that cannot be read. -/
theorem read_eq_error_entry_iff {setting : Setting} {json : Json} {named : EntryFault} :
    setting.read strictFlag? json = .error (.entry named) ↔
      ∃ (kind : FieldKind) (good rest : List Json) (texts : List (String × String)),
        setting = .entries kind ∧ json = .array (good ++ .ofTexts texts :: rest) ∧
          (∀ item ∈ good, ∃ entry, Entry.Spells item entry) ∧ Entry.TableFault texts named := by
  constructor
  · intro failure
    cases setting with
    | entries kind =>
        cases json with
        | array items =>
            obtain ⟨good, item, rest, rfl, earlier, failed⟩ := mapM_eq_error_iff.mp failure
            obtain ⟨texts, rfl, faulty⟩ := Entry.ofJson_eq_error_entry_iff.mp failed
            refine ⟨kind, good, rest, texts, rfl, rfl, ?_, faulty⟩
            intro item member
            obtain ⟨entry, read⟩ := earlier item member
            exact ⟨entry, Entry.spells_of_ofJson read⟩
        | _ => cases failure
    | _ => cases json <;> cases failure
  · intro ⟨kind, good, rest, texts, same, shape, spelled, faulty⟩
    subst same shape
    refine mapM_eq_error_iff.mpr ⟨good, .ofTexts texts, rest, rfl, ?_,
      Entry.ofJson_eq_error_entry_iff.mpr ⟨texts, rfl, faulty⟩⟩
    intro item member
    obtain ⟨entry, spells⟩ := spelled item member
    exact ⟨entry, Entry.ofJson_eq_ok_iff.mpr spells⟩

theorem readStatement_eq_error_entry_iff {statement : Option Setting × Json} {named : EntryFault} :
    readStatement strictFlag? statement = .error (.entry named) ↔
      ∃ setting, statement.1 = some setting ∧
        setting.read strictFlag? statement.2 = .error (.entry named) := by
  obtain ⟨setting?, value⟩ := statement
  cases setting? with
  | none =>
      constructor
      · intro failure
        cases failure
      · intro ⟨_, absent, _⟩
        cases absent
  | some setting =>
      change (setting.read strictFlag? value).map _ = _ ↔ _
      rw [map_eq_error_iff]
      constructor
      · intro failure
        exact ⟨setting, rfl, failure⟩
      · intro ⟨other, same, failed⟩
        cases same
        exact failed

/-- A document is refused with a complaint about a table of texts when such a table is the first
thing wrong with it. -/
theorem ofJson_eq_error_entry_iff {json : Json} {named : EntryFault} :
    ofJson json = .error (.entry named) ↔
      ∃ texts, FirstFaulty json texts ∧ Entry.TableFault texts named := by
  cases stated : statements? json with
  | none =>
      rw [ofJson_eq, stated]
      constructor
      · intro failure
        cases failure
      · intro ⟨texts, ⟨_, _, _, _, _, same, _⟩, _⟩
        cases stated.symm.trans same
  | some statements =>
      rw [ofJson_eq, stated]
      dsimp only
      rw [map_eq_error_iff, mapM_eq_error_iff]
      constructor
      · intro ⟨before, statement, after, same, earlier, failed⟩
        obtain ⟨setting, isSetting, failed⟩ := readStatement_eq_error_entry_iff.mp failed
        obtain ⟨kind, good, rest, texts, rfl, isArray, spelled, faulty⟩ :=
          read_eq_error_entry_iff.mp failed
        obtain ⟨setting?, value⟩ := statement
        cases isSetting
        cases isArray
        refine ⟨texts, ⟨before, after, kind, good, rest, stated.trans (congrArg some same), ?_,
          spelled⟩, faulty⟩
        intro statement member
        exact exists_readStatement_iff.mp (earlier statement member)
      · intro ⟨texts, ⟨before, after, kind, good, rest, same, earlier, spelled⟩, faulty⟩
        have failed : readStatement strictFlag?
              (some (.entries kind), .array (good ++ .ofTexts texts :: rest)) =
            .error (.entry named) :=
          readStatement_eq_error_entry_iff.mpr ⟨_, rfl, read_eq_error_entry_iff.mpr
            ⟨kind, good, rest, texts, rfl, rfl, spelled, faulty⟩⟩
        refine ⟨before, _, after, Option.some.inj (stated.symm.trans same), ?_, failed⟩
        intro statement member
        exact exists_readStatement_iff.mpr (earlier statement member)

/-- **Documents are read by their grammar.**  Reading succeeds exactly on documents.  A setting then
holds what is stated for it, its entries in order, or nothing where it is not mentioned.  The key of
an entry is also its field, on the default relation, where no others are spelled.  A table of texts
that spells no entry is refused for the lack of a key, or else for the least of the unknown names in
it, and the document with it when the table is the first thing wrong there. -/
theorem ofJson_grammar {json : Json} (distinct : json.DistinctNames) :
    ((∃ definitions, ofJson json = .ok definitions) ↔ IsDocument json) ∧
      (∀ definitions, ofJson json = .ok definitions → ∀ setting,
        match stated? setting json with
        | some value => setting.States value (definitions.content setting)
        | none => definitions.content setting = setting.absent) ∧
      (∀ key relation? field? default,
        (Entry.ofParts key relation? field?).key = key ∧
          (Entry.ofParts key relation? field?).target default =
            ⟨relation?.getD default, field?.getD key⟩) ∧
      (∀ texts fault, Entry.ofJson (.ofTexts texts) = .error fault ↔
        ∃ named, fault = .entry named ∧ Entry.TableFault texts named) ∧
      ∀ named, ofJson json = .error (.entry named) ↔
        ∃ texts, FirstFaulty json texts ∧ Entry.TableFault texts named := by
  refine ⟨exists_ofJson_iff, ?_, ?_, fun _ _ => Entry.ofJson_ofTexts_eq_error_iff,
    fun _ => ofJson_eq_error_entry_iff⟩
  · intro definitions success setting
    obtain ⟨statements, stated, each⟩ := isDocument_iff.mp (exists_ofJson_iff.mp ⟨_, success⟩)
    cases found : stated? setting json with
    | some value =>
        exact Setting.read_eq_ok_iff.mp (read_content_of_ofJson stated
          (nodup_of_distinctNames distinct stated each) success (mem_of_stated? stated found))
    | none =>
        exact content_of_ofJson_of_not_stated stated success (not_mem_of_stated? stated found)
  · intro key relation? field? default
    exact ⟨Entry.key_ofParts key relation? field?,
      Entry.target_ofParts key relation? field? default⟩

/-- A document with an entry in each spelling, and the least of the unknown names in a table. -/
theorem ofJson_grammar_spellings :
    ∃ (json faulty : Json) (definitions : Definitions),
      json = .object [("string_keys", .bool true), ("equal_to", .array [.string "city",
        .array [.string "town", .string "city"],
        .array [.string "role", .array [.string "roles", .string "name"]],
        .ofTexts [("relation", "orders"), ("key", "total")]])] ∧
      faulty = .array [.bool true, .bool false, .bool false, .bool false, .bool false,
        .array [.string "city", .ofTexts [("to", "a"), ("key", "b"), ("from", "c")]]] ∧
      json.DistinctNames ∧ faulty.DistinctNames ∧
      definitions = { stringKeys := true, equalTo := [.bare "city", .aliased "town" "city",
        .qualified "role" "roles" "name", .qualified "total" "orders" "total"] } ∧
      ofJson json = .ok definitions ∧ IsDocument json ∧
      ofJson faulty = .error (.entry (.unknownField "from")) ∧ ¬IsDocument faulty := by
  refine ⟨_, _, _, rfl, rfl, by decide, by decide, rfl, rfl, ?_, rfl, ?_⟩
  · exact (ofJson_grammar (by decide)).1.mp ⟨_, rfl⟩
  · intro document
    obtain ⟨_, success⟩ := (ofJson_grammar (by decide)).1.mpr document
    cases success

end Definitions

end RequestFilter
