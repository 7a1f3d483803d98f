import RequestFilter.Definitions.Reader
import RequestFilter.Proofs.Definitions.Overrides
import RequestFilter.Proofs.Definitions.Paths
import RequestFilter.Proofs.Toml.Documents

/-! # Definitions loaded from files

A file is read less strictly than a document with types, but what the strict reader takes
for definitions is taken for the same definitions when it is loaded from a file.  The
variables of some flags then set these flags and nothing else
(`Definitions.load_of_ofToml`).
-/

namespace RequestFilter

open Outcome

namespace Definitions

/-- Members state definitions: each stands under the name of a setting and says what that holds, and
what no member is about holds nothing. -/
structure StatedBy (definitions : Definitions) (members : List (String × Json)) : Prop where
  distinct : (members.map Prod.fst).Nodup
  known : ∀ member ∈ members, ∃ setting : Setting, member.1 = setting.name ∧
    setting.States member.2 (definitions.content setting)
  silent : ∀ setting : Setting, setting.name ∉ members.map Prod.fst →
    definitions.content setting = setting.absent

section Reading

variable {definitions : Definitions} {members : List (String × Json)} {flag? : Json → Option Bool}

theorem readMembers_empty_eq (flag? : Json → Option Bool) (members : List (String × Json)) :
    readMembers flag? empty members =
      ((members.map fun member => (Setting.ofName? member.1, member.2)).mapM
        (readStatement flag?)).map empty.putAll :=
  (readMembers_eq flag? empty members).trans (foldlM_eq_map_mapM (fun _ _ => rfl) _ _)

/-- What is read of each member is what its setting holds in the end. -/
theorem contents_of_readMembers (distinct : (members.map Prod.fst).Nodup)
    (success : readMembers flag? empty members = .ok definitions) :
    (∀ member ∈ members, ∃ setting : Setting, member.1 = setting.name ∧
      setting.read flag? member.2 = .ok (definitions.content setting)) ∧
      ∀ setting : Setting, setting.name ∉ members.map Prod.fst →
        definitions.content setting = setting.absent := by
  rw [readMembers_empty_eq, map_eq_ok_iff] at success
  obtain ⟨contents, read, rfl⟩ := success
  have named : ∀ member ∈ members, ∃ setting : Setting, member.1 = setting.name := by
    intro member inside
    obtain ⟨content, _, found⟩ := exists_mem_of_mapM read (List.mem_map_of_mem inside)
    exact ⟨content.1, Setting.ofName?_eq_some_iff.mp (readStatement_eq_ok_iff.mp found).1⟩
  -- The names of settings are distinct, so no setting is stated by two members.
  have once : ((members.map fun member => (Setting.ofName? member.1, member.2)).map
      Prod.fst).Nodup := by
    rw [List.map_map]
    refine List.Nodup.map_on ?_ (List.Nodup.of_map Prod.fst distinct)
    intro first inFirst second inSecond same
    obtain ⟨setting, name⟩ := named first inFirst
    have found := Setting.ofName?_eq_some_iff.mpr name
    have other := Setting.ofName?_eq_some_iff.mp (same.symm.trans found)
    exact List.inj_on_of_nodup_map distinct inFirst inSecond (name.trans other.symm)
  constructor
  · intro member inside
    obtain ⟨setting, name⟩ := named member inside
    refine ⟨setting, name, read_content_of_mapM read once ?_⟩
    rw [← Setting.ofName?_eq_some_iff.mpr name]
    exact List.mem_map_of_mem inside
  · intro setting absent
    refine content_of_mapM_of_not_stated read fun stated => absent ?_
    rw [List.map_map] at stated
    obtain ⟨member, inside, same⟩ := List.mem_map.mp stated
    rw [← Setting.ofName?_eq_some_iff.mp same]
    exact List.mem_map_of_mem inside

/-- Members under distinct names are read as the definitions in which each setting holds what its
member is read as, or nothing without a member. -/
theorem readMembers_eq_ok_iff (distinct : (members.map Prod.fst).Nodup) :
    readMembers flag? empty members = .ok definitions ↔
      (∀ member ∈ members, ∃ setting : Setting, member.1 = setting.name ∧
        setting.read flag? member.2 = .ok (definitions.content setting)) ∧
      ∀ setting : Setting, setting.name ∉ members.map Prod.fst →
        definitions.content setting = setting.absent := by
  refine ⟨contents_of_readMembers distinct, ?_⟩
  intro ⟨each, silent⟩
  obtain ⟨result, success⟩ : ∃ result, readMembers flag? empty members = .ok result := by
    have readable : ∀ statement ∈ members.map fun member => (Setting.ofName? member.1, member.2),
        ∃ content, readStatement flag? statement = .ok content := by
      intro statement stated
      obtain ⟨member, inside, rfl⟩ := List.mem_map.mp stated
      obtain ⟨setting, name, read⟩ := each member inside
      exact ⟨⟨setting, definitions.content setting⟩,
        readStatement_eq_ok_iff.mpr ⟨Setting.ofName?_eq_some_iff.mpr name, read⟩⟩
    obtain ⟨contents, read⟩ := exists_mapM_iff.mpr readable
    rw [readMembers_empty_eq, read]
    exact ⟨_, rfl⟩
  obtain ⟨others, others_silent⟩ := contents_of_readMembers distinct success
  rw [success]
  refine congrArg Except.ok (ext_content fun setting => ?_)
  by_cases present : setting.name ∈ members.map Prod.fst
  · obtain ⟨member, inside, name⟩ := List.mem_map.mp present
    obtain ⟨first, firstName, read⟩ := each member inside
    obtain ⟨second, secondName, again⟩ := others member inside
    cases Setting.name_injective (firstName.symm.trans name)
    cases Setting.name_injective (secondName.symm.trans name)
    exact Except.ok.inj (again.symm.trans read)
  · rw [silent setting present, others_silent setting present]

/-- What the strict reader takes for definitions states them. -/
theorem statedBy_of_readMembers (distinct : (members.map Prod.fst).Nodup)
    (success : readMembers strictFlag? empty members = .ok definitions) :
    definitions.StatedBy members := by
  obtain ⟨each, silent⟩ := (readMembers_eq_ok_iff distinct).mp success
  refine ⟨distinct, fun member inside => ?_, silent⟩
  obtain ⟨setting, name, read⟩ := each member inside
  exact ⟨setting, name, Setting.read_eq_ok_iff.mp read⟩

/-- What states definitions is taken for them when flags may be numbers and words as well. -/
theorem StatedBy.readMembers_loose (stated : definitions.StatedBy members) :
    readMembers Settings.looseFlag? empty members = .ok definitions := by
  refine (readMembers_eq_ok_iff stated.distinct).mpr ⟨fun member inside => ?_, stated.silent⟩
  obtain ⟨setting, name, states⟩ := stated.known member inside
  refine ⟨setting, name, ?_⟩
  cases setting with
  | entries kind => exact Setting.read_eq_ok_iff.mpr states
  | _ =>
      have isFlag : member.2 = .bool _ := states
      rw [isFlag]
      rfl

theorem StatedBy.ofMembers_eq_self (stated : definitions.StatedBy members) :
    Settings.ofMembers members = members := by
  refine Settings.ofMembers_eq_self stated.distinct fun member inside => ?_
  obtain ⟨setting, name, states⟩ := stated.known member inside
  exact ⟨setting, name, _, states⟩

theorem StatedBy.of_perm {others : List (String × Json)} (stated : definitions.StatedBy members)
    (same : members.Perm others) : definitions.StatedBy others where
  distinct := (same.map Prod.fst).nodup stated.distinct
  known member inside := stated.known member (same.mem_iff.mpr inside)
  silent setting absent := stated.silent setting fun present =>
    absent ((same.map Prod.fst).mem_iff.mp present)

end Reading

section Flags

/-- Whether a flag of definitions is on. -/
def flag (definitions : Definitions) : Flag → Bool
  | .atomKeys => definitions.atomKeys
  | .stringKeys => definitions.stringKeys
  | .toggle which => definitions.isOn which

/-- Sets a flag. -/
def setFlag (definitions : Definitions) (flag : Flag) (on : Bool) : Definitions :=
  match flag with
  | .atomKeys => { definitions with atomKeys := on }
  | .stringKeys => { definitions with stringKeys := on }
  | .toggle which => definitions.setToggle which on

/-- Sets flags one after the other. -/
def switched (definitions : Definitions) (switches : List (Flag × Bool)) : Definitions :=
  switches.foldl (fun definitions switch => definitions.setFlag switch.1 switch.2) definitions

variable (definitions : Definitions) (flag : Flag) (on : Bool)

theorem flag_setFlag (other : Flag) :
    (definitions.setFlag flag on).flag other = if other = flag then on else definitions.flag other := by
  cases flag with
  | toggle which =>
      cases other with
      | toggle asked =>
          rw [setFlag, Definitions.flag, isOn_setToggle]
          exact if_congr (Flag.toggle.injEq asked which).symm.to_iff rfl rfl
      | _ => cases which <;> rfl
  | _ => cases other <;> rfl

theorem fieldEntries_setFlag (kind : FieldKind) :
    (definitions.setFlag flag on).fieldEntries kind = definitions.fieldEntries kind := by
  cases flag with
  | toggle which => exact fieldEntries_setToggle definitions which kind on
  | _ => cases kind <;> rfl

theorem content_setFlag_of_ne {setting : Setting} (different : setting ≠ flag.setting) :
    (definitions.setFlag flag on).content setting = definitions.content setting := by
  cases flag with
  | atomKeys => exact @content_put_of_ne definitions .atomKeys setting on different
  | stringKeys => exact @content_put_of_ne definitions .stringKeys setting on different
  | toggle which => exact @content_put_of_ne definitions (.toggle which) setting on different

/-- A flag that is set is stated by a truth value. -/
theorem states_setFlag :
    flag.setting.States (.bool on) ((definitions.setFlag flag on).content flag.setting) := by
  have set := definitions.flag_setFlag flag on flag
  rw [if_pos rfl] at set
  cases flag <;> exact congrArg Json.bool set.symm

variable {definitions} {members : List (String × Json)}

theorem StatedBy.setFlag (stated : definitions.StatedBy members) :
    (definitions.setFlag flag on).StatedBy
      (Json.setMember flag.setting.name (.bool on) members) := by
  have distinct := Json.isSetter_setMember.nodup_keys flag.setting.name (.bool on) stated.distinct
  refine ⟨distinct, fun member inside => ?_, fun setting absent => ?_⟩
  · rw [← lookup_eq_some_iff_mem distinct, Json.isSetter_setMember.lookup_eq] at inside
    by_cases here : member.1 = flag.setting.name
    · rw [if_pos here] at inside
      refine ⟨flag.setting, here, ?_⟩
      rw [← Option.some.inj inside]
      exact states_setFlag definitions flag on
    · rw [if_neg here, lookup_eq_some_iff_mem stated.distinct] at inside
      obtain ⟨setting, name, states⟩ := stated.known member inside
      have different : setting ≠ flag.setting := fun same => here (same ▸ name)
      exact ⟨setting, name, (content_setFlag_of_ne definitions flag on different).symm ▸ states⟩
  · rw [Json.isSetter_setMember.keys_eq] at absent
    have outside : setting.name ∉ members.map Prod.fst ∧ setting.name ≠ flag.setting.name := by
      split at absent
      · rename_i present
        exact ⟨absent, fun same => absent (same ▸ present)⟩
      · rwa [List.mem_append, List.mem_singleton, not_or] at absent
    have different : setting ≠ flag.setting := fun same => outside.2 (congrArg _ same)
    rw [content_setFlag_of_ne definitions flag on different]
    exact stated.silent setting outside.1

theorem StatedBy.switched (stated : definitions.StatedBy members) (switches : List (Flag × Bool)) :
    (definitions.switched switches).StatedBy (Settings.switchAll switches members) := by
  unfold Definitions.switched Settings.switchAll
  induction switches generalizing definitions members with
  | nil => exact stated
  | cons switch rest ih => exact ih (stated.setFlag switch.1 switch.2)

theorem fieldEntries_switched (switches : List (Flag × Bool)) (kind : FieldKind) :
    (definitions.switched switches).fieldEntries kind = definitions.fieldEntries kind := by
  unfold Definitions.switched
  induction switches generalizing definitions with
  | nil => rfl
  | cons switch rest ih => exact ih.trans (fieldEntries_setFlag definitions switch.1 switch.2 kind)

/-- A flag is what it is set to, or what it was if it is not set. -/
theorem flag_switched {switches : List (Flag × Bool)} (distinct : (switches.map Prod.fst).Nodup) :
    (definitions.switched switches).flag flag =
      (switches.lookup flag).getD (definitions.flag flag) := by
  unfold Definitions.switched
  induction switches generalizing definitions with
  | nil => rfl
  | cons switch rest ih =>
      obtain ⟨first, on⟩ := switch
      rw [List.map_cons, List.nodup_cons] at distinct
      rw [List.foldl_cons, ih distinct.2, flag_setFlag, lookup_cons_eq_ite]
      by_cases here : flag = first
      · have absent : rest.lookup flag = none := by
          rw [List.lookup_eq_none_iff]
          intro other member
          exact bne_iff_ne.mpr fun same =>
            distinct.1 (List.mem_map.mpr ⟨other, member, same.symm.trans here⟩)
        rw [if_pos here, if_pos here, absent]
        rfl
      · rw [if_neg here, if_neg here]

end Flags

section Files

variable {text : String} {definitions : Definitions} {surroundings : Surroundings} {path : String}

/-- What a TOML document states as definitions it states among settings as well. -/
theorem exists_settings_of_ofToml (stated : ofToml text = .ok definitions) :
    ∃ settings, Settings.ofFile? "toml" text = some settings ∧ definitions.StatedBy settings := by
  unfold ofToml at stated
  split at stated
  case h_2 => cases stated
  case h_1 members read =>
      obtain ⟨statements, lines, built⟩ := Option.bind_eq_some_iff.mp read
      have names : (Toml.typedMembers members).map Prod.fst = members.map Prod.fst := by
        rw [Toml.typedMembers_eq_map, List.map_map]
        rfl
      have distinct : ((Toml.typedMembers members).map Prod.fst).Nodup :=
        names ▸ Toml.nodup_of_ofStatements? built
      have typed : definitions.StatedBy (Toml.typedMembers members) :=
        (statedBy_of_readMembers (((Toml.sortedMembers_perm _).map Prod.fst).symm.nodup distinct)
          stated).of_perm (Toml.sortedMembers_perm _)
      have known : ∀ member ∈ members, ∃ setting : Setting, member.1 = setting.name ∧
          setting.States (Toml.typedJson member.2) (definitions.content setting) := by
        intro member inside
        refine typed.known (member.1, Toml.typedJson member.2) ?_
        rw [Toml.typedMembers_eq_map]
        exact List.mem_map_of_mem inside
      -- Nothing that states a setting is a table, so it does not matter how tables are treated.
      have flat : Toml.FlatMembers members := by
        intro name value found
        obtain ⟨setting, _, states⟩ := known (name, value) (mem_of_lookup found)
        exact Toml.flat_of_states states
      have again := Toml.ofStatements?_claimed_of_flat built flat
      obtain ⟨settings, pairs⟩ : ∃ settings : List (String × Json), List.Forall₂
          (fun member setting => (setting.1 = member.1 ∧ Toml.settingJson? member.2 = some setting.2) ∧
            ∃ named : Setting, setting.1 = named.name ∧
              named.States setting.2 (definitions.content named)) members settings := by
        refine exists_forall₂ fun member inside => ?_
        obtain ⟨setting, name, states⟩ := known member inside
        obtain ⟨json, settled, states⟩ := Toml.exists_settingJson?_of_states states
        exact ⟨(member.1, json), ⟨rfl, settled⟩, setting, name, states⟩
      have same : settings.map Prod.fst = members.map Prod.fst := by
        rw [← List.forall₂_eq_eq_eq, List.forall₂_map_left_iff, List.forall₂_map_right_iff]
        exact (pairs.imp fun _ _ pair => pair.1.1).flip
      refine ⟨settings, ?_, ?_⟩
      · unfold Settings.ofFile? Toml.ofText?
        rw [if_pos rfl, String.toList_ofList, Toml.withoutMark_withoutMark lines, lines]
        change Toml.ofStatements? .claimed statements >>= Toml.settingMembers? = _
        rw [again]
        exact Toml.settingMembers?_of_forall₂ (pairs.imp fun _ _ pair => pair.1)
      · refine ⟨same ▸ names ▸ distinct, fun setting inside => ?_, fun setting absent => ?_⟩
        · obtain ⟨_, pair⟩ := exists_of_forall₂ pairs inside
          exact pair.2
        · rw [same, ← names] at absent
          exact typed.silent setting absent

/-- What is loaded from a TOML file are the settings in it, some of them overridden. -/
theorem load_of_ofFile? (found : surroundings.find path = .file text)
    (isToml : Surroundings.EndsInToml path) {settings : List (String × Json)}
    (read : Settings.ofFile? "toml" text = some settings) (start : Option String) :
    load surroundings path start =
      readMembers Settings.looseFlag? empty (Toml.sortedMembers
        (Settings.override start surroundings.environment (Settings.ofMembers settings))) := by
  unfold load Settings.read
  rw [found]
  dsimp only
  rw [isToml.extension_eq, read]
  rfl

/-- Where variables set some flags, the definitions with these flags set are loaded. -/
theorem load_eq_switched (found : surroundings.find path = .file text)
    (isToml : Surroundings.EndsInToml path) (stated : ofToml text = .ok definitions)
    {start : String} {switches : List (Flag × Bool)}
    (pairs : List.Forall₂ (Settings.Switches start)
      (surroundings.environment.filter fun var => Settings.IsUnder start var) switches) :
    load surroundings path (some start) = .ok (definitions.switched switches) := by
  obtain ⟨settings, read, holds⟩ := exists_settings_of_ofToml stated
  rw [load_of_ofFile? found isToml read, Settings.override_eq_switchAll pairs,
    holds.ofMembers_eq_self]
  exact ((holds.switched switches).of_perm (Toml.sortedMembers_perm _).symm).readMembers_loose

/-- **Loading a file agrees with reading its text.**  What a TOML text states as definitions is loaded
from a file with this text, without a prefix or with one that no variable is under.  If the variables
under the prefix, whatever the case of their letters, are for some flags one variable each that says
whether the flag is on, then these flags are as the variables say, and the other flags and the entries
of all kinds are as in the file. -/
theorem load_of_ofToml (found : surroundings.find path = .file text)
    (isToml : Surroundings.EndsInToml path) (stated : ofToml text = .ok definitions) :
    load surroundings path none = .ok definitions ∧
      (∀ start, (∀ var ∈ surroundings.environment, ¬Settings.IsUnder start var) →
        load surroundings path (some start) = .ok definitions) ∧
      ∀ start switches, (switches.map Prod.fst).Nodup →
        List.Forall₂ (Settings.Switches start)
          (surroundings.environment.filter fun var => Settings.IsUnder start var) switches →
        ∃ result, load surroundings path (some start) = .ok result ∧
          (∀ flag, result.flag flag = (switches.lookup flag).getD (definitions.flag flag)) ∧
          ∀ kind, result.fieldEntries kind = definitions.fieldEntries kind := by
  refine ⟨?_, fun start outside => ?_, fun start switches distinct pairs => ?_⟩
  · obtain ⟨settings, read, holds⟩ := exists_settings_of_ofToml stated
    rw [load_of_ofFile? found isToml read, holds.ofMembers_eq_self]
    exact (holds.of_perm (Toml.sortedMembers_perm _).symm).readMembers_loose
  · have none_under :
        (surroundings.environment.filter fun var => Settings.IsUnder start var) = [] :=
      List.filter_eq_nil_iff.mpr fun var member under =>
        outside var member (of_decide_eq_true under)
    have pairs : List.Forall₂ (Settings.Switches start)
        (surroundings.environment.filter fun var => Settings.IsUnder start var) [] := by
      rw [none_under]
      exact .nil
    exact load_eq_switched found isToml stated pairs
  · exact ⟨_, load_eq_switched found isToml stated pairs, fun flag => flag_switched flag distinct,
      fieldEntries_switched switches⟩

/-- The lines of a document from the relation of a row on. -/
def relationLines : List Char := "relation = 'roles'\n".toList

/-- The lines from the key of the row on. -/
def keyLines : List Char := "key = 'role'\n".toList ++ relationLines

/-- The lines from the header of the row on. -/
def rowLines : List Char := "[[equal_to]]\n".toList ++ keyLines

/-- All lines: a flag and the row. -/
def roleLines : List Char := "atom_keys = true\n".toList ++ rowLines

/-- The document. -/
def roleText : String := String.ofList roleLines

/-- A file with this text outside of the current directory, and variables of which two are under the
prefix. -/
def roleFiles : Surroundings where
  directory := "/srv/app"
  files := [("/etc/filters.toml", roleText)]
  environment := [("HOME", "/"), ("Filters__Limit", "True"), ("FILTERS__ATOM_KEYS", "false")]

theorem readStatements_roleLines :
    Toml.readStatements roleLines =
      some [.pair ⟨[], "atom_keys"⟩ (.flag true), .row ⟨[], "equal_to"⟩,
        .pair ⟨[], "key"⟩ (.text "role"), .pair ⟨[], "relation"⟩ (.text "roles")] := by
  have flag : Text.Reads (Toml.readStatement roleLines) (.pair ⟨[], "atom_keys"⟩ (.flag true))
      ('\n' :: rowLines) := by
    have path : Text.Reads (Toml.readPath Toml.maxDepth roleLines) ⟨[], "atom_keys"⟩
        (" = true\n".toList ++ rowLines) := ⟨_, rfl, rfl⟩
    have value : Text.Reads (Toml.readValue Toml.maxDepth ("true\n".toList ++ rowLines))
        (.flag true) ('\n' :: rowLines) := Toml.readValue_scalar (by decide) ⟨_, rfl, rfl⟩
    exact Toml.readStatement_pair (by decide) path rfl value
  have row : Text.Reads (Toml.readStatement rowLines) (.row ⟨[], "equal_to"⟩) ('\n' :: keyLines) :=
    ⟨_, rfl, rfl⟩
  have key : Text.Reads (Toml.readStatement keyLines) (.pair ⟨[], "key"⟩ (.text "role"))
      ('\n' :: relationLines) := by
    have path : Text.Reads (Toml.readPath Toml.maxDepth keyLines) ⟨[], "key"⟩
        (" = 'role'\n".toList ++ relationLines) := ⟨_, rfl, rfl⟩
    have value : Text.Reads (Toml.readValue Toml.maxDepth ("'role'\n".toList ++ relationLines))
        (.text "role") ('\n' :: relationLines) := Toml.readValue_literal ⟨_, rfl, rfl⟩
    exact Toml.readStatement_pair (by decide) path rfl value
  have relation : Text.Reads (Toml.readStatement relationLines)
      (.pair ⟨[], "relation"⟩ (.text "roles")) ['\n'] := by
    have path : Text.Reads (Toml.readPath Toml.maxDepth relationLines) ⟨[], "relation"⟩
        " = 'roles'\n".toList := ⟨_, rfl, rfl⟩
    have value : Text.Reads (Toml.readValue Toml.maxDepth "'roles'\n".toList) (.text "roles")
        ['\n'] := Toml.readValue_literal ⟨_, rfl, rfl⟩
    exact Toml.readStatement_pair (by decide) path rfl value
  have atStart : Toml.afterFiller? false roleLines = some roleLines := rfl
  have atRow : Toml.afterFiller? false ('\n' :: rowLines) = some rowLines := rfl
  have atKey : Toml.afterFiller? false ('\n' :: keyLines) = some keyLines := rfl
  have atRelation : Toml.afterFiller? false ('\n' :: relationLines) = some relationLines := rfl
  rw [Toml.readStatements_cons atStart (by decide) flag rfl,
    Toml.readStatements_cons atRow (by decide) row rfl,
    Toml.readStatements_cons atKey (by decide) key rfl,
    Toml.readStatements_cons atRelation (by decide) relation rfl, Toml.readStatements_eq_nil rfl]
  rfl

theorem ofToml_roleText :
    ofToml roleText = .ok { atomKeys := true, equalTo := [.qualified "role" "roles" "role"] } := by
  have unmarked : Text.withoutMark roleText.toList = roleLines := by
    unfold roleText
    rw [String.toList_ofList]
    rfl
  have built : Toml.ofStatements? .kept [.pair ⟨[], "atom_keys"⟩ (.flag true),
        .row ⟨[], "equal_to"⟩, .pair ⟨[], "key"⟩ (.text "role"),
        .pair ⟨[], "relation"⟩ (.text "roles")] =
      some [("atom_keys", .flag true), ("equal_to",
        .rows [.table .header [("key", .text "role"), ("relation", .text "roles")]])] := rfl
  -- Both tables have their names in order already.
  have settings := @Toml.sortedMembers_pair "atom_keys" "equal_to" (by decide +kernel)
  have texts := @Toml.sortedMembers_pair "key" "relation" (by decide +kernel)
  unfold ofToml Toml.ofText?
  rw [unmarked, readStatements_roleLines, Option.bind_eq_bind, Option.bind_some, built]
  simp only [Toml.typedMembers, Toml.typedJson, Toml.typedItems, settings, texts]
  rfl

theorem load_of_ofToml_overridden :
    load roleFiles "/etc/filters.toml" none =
        .ok { atomKeys := true, equalTo := [.qualified "role" "roles" "role"] } ∧
      load roleFiles "../../etc/filters.toml" (some "rights") =
        .ok { atomKeys := true, equalTo := [.qualified "role" "roles" "role"] } ∧
      ∃ result, load roleFiles "/etc/filters.toml" (some "filters") = .ok result ∧
        result.atomKeys = false ∧ result.limit = true ∧
          result.equalTo = [.qualified "role" "roles" "role"] := by
  have fromRoot : roleFiles.find "/etc/filters.toml" = .file roleText := rfl
  have fromHere : roleFiles.find "../../etc/filters.toml" = .file roleText := rfl
  have isToml : Surroundings.EndsInToml "/etc/filters.toml" :=
    ⟨"/etc/filter".toList, 's', rfl, by decide⟩
  have isTomlToo : Surroundings.EndsInToml "../../etc/filters.toml" :=
    ⟨"../../etc/filter".toList, 's', rfl, by decide⟩
  obtain ⟨plain, -, overridden⟩ := load_of_ofToml fromRoot isToml ofToml_roleText
  obtain ⟨-, outside, -⟩ := load_of_ofToml fromHere isTomlToo ofToml_roleText
  refine ⟨plain, outside "rights" (by decide +kernel), ?_⟩
  have under : (roleFiles.environment.filter fun var => Settings.IsUnder "filters" var) =
      [("Filters__Limit", "True"), ("FILTERS__ATOM_KEYS", "false")] := by decide +kernel
  have pairs : List.Forall₂ (Settings.Switches "filters")
      (roleFiles.environment.filter fun var => Settings.IsUnder "filters" var)
      [(.toggle .limit, true), (.atomKeys, false)] := by
    rw [under]
    exact .cons ⟨by decide +kernel, by decide +kernel⟩
      (.cons ⟨by decide +kernel, by decide +kernel⟩ .nil)
  obtain ⟨result, loaded, flags, entries⟩ := overridden "filters" _ (by decide) pairs
  exact ⟨result, loaded, flags .atomKeys, flags (.toggle .limit), entries .equalTo⟩

end Files

end Definitions

end RequestFilter
