import Mathlib.Data.List.Nodup
import RequestFilter.Definitions.Reader
import RequestFilter.Proofs.Outcome

/-! # Definitions setting by setting

Definitions are what each setting holds (`Definitions.ext_content`).  A document
is a list of statements, each of which gives a value to a setting, and reading it
is reading each of its statements and putting the results in place in order
(`Definitions.ofJson_eq`).  Where no setting is stated twice, a setting then holds
what it is stated to hold and is left alone otherwise (`content_putAll_of_mem`,
`content_putAll_of_not_mem`).
-/

namespace RequestFilter

open Outcome

/-- What a setting holds: the entries of a kind, or whether something is on. -/
def Setting.Content : Setting → Type
  | .entries _ => List Entry
  | _ => Bool

/-- What a setting holds that a document does not mention. -/
def Setting.absent : (setting : Setting) → setting.Content
  | .entries _ => ([] : List Entry)
  | .atomKeys | .stringKeys | .toggle _ => false

/-- Reads the value of a setting. -/
def Setting.read (flag? : Json → Option Bool) :
    (setting : Setting) → Json → Except DefinitionsError setting.Content
  | .entries _ => Definitions.readEntries
  | .atomKeys | .stringKeys | .toggle _ => Definitions.readFlag flag?

theorem Setting.mem_all (setting : Setting) : setting ∈ all := by
  cases setting with
  | atomKeys => decide
  | stringKeys => decide
  | toggle which => cases which <;> decide
  | entries kind => cases kind <;> decide

theorem Setting.all_nodup : all.Nodup := by decide

/-- A setting is found under its own name and no other. -/
theorem Setting.ofName?_eq_some_iff {text : String} {setting : Setting} :
    ofName? text = some setting ↔ text = setting.name := by
  constructor
  · intro found
    have named := List.find?_some found
    exact (of_decide_eq_true named).symm
  · intro named
    subst named
    cases setting with
    | atomKeys => decide
    | stringKeys => decide
    | toggle which => cases which <;> decide
    | entries kind => cases kind <;> decide

theorem Setting.name_injective : Function.Injective name := by
  intro first second same
  have found := ofName?_eq_some_iff.mpr same
  rw [ofName?_eq_some_iff.mpr rfl] at found
  exact Option.some.inj found

example : Setting.all.map Setting.name = ["atom_keys", "string_keys", "limit", "offset", "order_by",
    "equal_to", "equal_to_any", "smaller_than", "greater_or_equal", "string_starts_with",
    "string_contains", "list_contains", "list_contains_any", "list_contains_all"] := rfl

namespace Definitions

/-- What definitions hold for a setting. -/
def content (definitions : Definitions) : (setting : Setting) → setting.Content
  | .atomKeys => definitions.atomKeys
  | .stringKeys => definitions.stringKeys
  | .toggle which => definitions.isOn which
  | .entries kind => definitions.fieldEntries kind

/-- Gives a setting something else to hold. -/
def put (definitions : Definitions) : (setting : Setting) → setting.Content → Definitions
  | .atomKeys, on => { definitions with atomKeys := on }
  | .stringKeys, on => { definitions with stringKeys := on }
  | .toggle which, on => definitions.setToggle which on
  | .entries kind, entries => definitions.setEntries kind entries

theorem ext_content {first second : Definitions}
    (same : ∀ setting, first.content setting = second.content setting) : first = second := by
  cases first
  cases second
  rw [Definitions.mk.injEq]
  exact ⟨same .atomKeys, same .stringKeys, same (.toggle .limit), same (.toggle .offset),
    same (.toggle .orderBy), same (.entries .equalTo), same (.entries .equalToAny),
    same (.entries .smallerThan), same (.entries .greaterOrEqual), same (.entries .startsWith),
    same (.entries .contains), same (.entries .listContains), same (.entries .listContainsAny),
    same (.entries .listContainsAll)⟩

theorem content_empty (setting : Setting) : empty.content setting = setting.absent := by
  cases setting with
  | atomKeys => rfl
  | stringKeys => rfl
  | toggle which => cases which <;> rfl
  | entries kind => cases kind <;> rfl

theorem content_put_self (definitions : Definitions) (setting : Setting)
    (value : setting.Content) : (definitions.put setting value).content setting = value := by
  cases setting with
  | atomKeys => rfl
  | stringKeys => rfl
  | toggle which => exact (isOn_setToggle _ which which value).trans (if_pos rfl)
  | entries kind => exact (fieldEntries_setEntries _ kind kind value).trans (if_pos rfl)

theorem content_put_of_ne (definitions : Definitions) {setting other : Setting}
    (value : setting.Content) (different : other ≠ setting) :
    (definitions.put setting value).content other = definitions.content other := by
  cases setting with
  | atomKeys =>
      cases other with
      | atomKeys => exact absurd rfl different
      | toggle which => cases which <;> rfl
      | entries kind => cases kind <;> rfl
      | stringKeys => rfl
  | stringKeys =>
      cases other with
      | stringKeys => exact absurd rfl different
      | toggle which => cases which <;> rfl
      | entries kind => cases kind <;> rfl
      | atomKeys => rfl
  | toggle which =>
      cases other with
      | toggle asked =>
          have apart : asked ≠ which := fun same => different (congrArg _ same)
          exact (isOn_setToggle _ which asked value).trans (if_neg apart)
      | entries kind => exact fieldEntries_setToggle _ which kind value
      | atomKeys => cases which <;> rfl
      | stringKeys => cases which <;> rfl
  | entries kind =>
      cases other with
      | entries asked =>
          have apart : asked ≠ kind := fun same => different (congrArg _ same)
          exact (fieldEntries_setEntries _ kind asked value).trans (if_neg apart)
      | toggle which => exact isOn_setEntries _ kind which value
      | atomKeys => cases kind <;> rfl
      | stringKeys => cases kind <;> rfl

/-- What is put in place for some settings, one after the other. -/
abbrev putAll (definitions : Definitions) (contents : List ((setting : Setting) × setting.Content)) :
    Definitions :=
  contents.foldl (fun definitions content => definitions.put content.1 content.2) definitions

section Puts

variable {contents : List ((setting : Setting) × setting.Content)}

theorem content_putAll_of_not_mem (definitions : Definitions) {setting : Setting}
    (absent : setting ∉ contents.map Sigma.fst) :
    (definitions.putAll contents).content setting = definitions.content setting := by
  induction contents generalizing definitions with
  | nil => rfl
  | cons first rest ih =>
      rw [List.map_cons, List.mem_cons, not_or] at absent
      exact (ih (definitions.put first.1 first.2) absent.2).trans
        (content_put_of_ne definitions first.2 absent.1)

theorem content_putAll_of_mem (definitions : Definitions)
    (distinct : (contents.map Sigma.fst).Nodup) {setting : Setting} {value : setting.Content}
    (member : ⟨setting, value⟩ ∈ contents) :
    (definitions.putAll contents).content setting = value := by
  induction contents generalizing definitions with
  | nil => exact absurd member List.not_mem_nil
  | cons first rest ih =>
      rw [List.map_cons, List.nodup_cons] at distinct
      rcases List.mem_cons.mp member with same | later
      · subst same
        exact (content_putAll_of_not_mem _ distinct.1).trans
          (content_put_self definitions setting value)
      · exact ih (definitions.put first.1 first.2) distinct.2 later

end Puts

/-- The statements of a document: values with the settings that they are for, as far as their names
or places are those of settings. -/
def statements? : Json → Option (List (Option Setting × Json))
  | .object members => some (members.map fun member => (Setting.ofName? member.1, member.2))
  | .array items => some (items.mapIdx fun place item => (Setting.all[place]?, item))
  | _ => none

/-- Reads a statement. -/
def readStatement (flag? : Json → Option Bool) :
    Option Setting × Json → Except DefinitionsError ((setting : Setting) × setting.Content)
  | (some setting, json) => (setting.read flag? json).map (Sigma.mk setting)
  | (none, _) => .error .malformed

/-- Reads a statement into definitions. -/
def addStatement (flag? : Json → Option Bool) (definitions : Definitions)
    (statement : Option Setting × Json) : Except DefinitionsError Definitions :=
  (readStatement flag? statement).map fun content => definitions.put content.1 content.2

section Reading

variable (flag? : Json → Option Bool)

theorem readSetting_eq (definitions : Definitions) (setting : Setting) (json : Json) :
    readSetting flag? definitions setting json =
      addStatement flag? definitions (some setting, json) := by
  cases setting with
  | entries kind =>
      change (readEntries json).map _ = ((readEntries json).map _).map _
      cases readEntries json <;> rfl
  | _ =>
      change (readFlag flag? json).map _ = ((readFlag flag? json).map _).map _
      cases readFlag flag? json <;> rfl

theorem readMembers_eq (definitions : Definitions) (members : List (String × Json)) :
    readMembers flag? definitions members =
      (members.map fun member => (Setting.ofName? member.1, member.2)).foldlM
        (addStatement flag?) definitions := by
  induction members generalizing definitions with
  | nil => rfl
  | cons member rest ih =>
      rw [List.map_cons, List.foldlM_cons]
      unfold readMembers
      cases Setting.ofName? member.1 with
      | none => rfl
      | some setting =>
          rw [← readSetting_eq]
          exact congrArg _ (funext ih)

theorem readItems_eq (definitions : Definitions) (settings : List Setting) (items : List Json) :
    readItems flag? definitions settings items =
      (items.mapIdx fun place item => (settings[place]?, item)).foldlM
        (addStatement flag?) definitions := by
  induction items generalizing definitions settings with
  | nil => cases settings <;> rfl
  | cons item rest ih =>
      rw [List.mapIdx_cons, List.foldlM_cons]
      cases settings with
      | nil => rfl
      | cons setting settings =>
          unfold readItems
          rw [List.getElem?_cons_zero, ← readSetting_eq]
          simp only [List.getElem?_cons_succ]
          exact congrArg _ (funext fun next => ih next settings)

/-- A document is read statement by statement, and what the statements give is put in place in
order. -/
theorem ofJson_eq (json : Json) :
    ofJson json =
      match statements? json with
      | some statements => (statements.mapM (readStatement strictFlag?)).map empty.putAll
      | none => .error .malformed := by
  have gathered (statements : List (Option Setting × Json)) :
      statements.foldlM (addStatement strictFlag?) empty =
        (statements.mapM (readStatement strictFlag?)).map empty.putAll :=
    foldlM_eq_map_mapM (fun _ _ => rfl) statements empty
  cases json with
  | object members => exact (readMembers_eq strictFlag? empty members).trans (gathered _)
  | array items => exact (readItems_eq strictFlag? empty Setting.all items).trans (gathered _)
  | null => rfl
  | bool value => rfl
  | integer value => rfl
  | double value => rfl
  | string value => rfl

end Reading

section Success

variable {json : Json} {definitions : Definitions} {statements : List (Option Setting × Json)}

theorem ofJson_eq_ok_iff (stated : statements? json = some statements) :
    ofJson json = .ok definitions ↔
      ∃ contents, statements.mapM (readStatement strictFlag?) = .ok contents ∧
        definitions = empty.putAll contents := by
  rw [ofJson_eq, stated]
  exact map_eq_ok_iff

theorem readStatement_eq_ok_iff {flag? : Json → Option Bool} {statement : Option Setting × Json}
    {content : (setting : Setting) × setting.Content} :
    readStatement flag? statement = .ok content ↔
      statement.1 = some content.1 ∧ content.1.read flag? statement.2 = .ok content.2 := by
  obtain ⟨setting?, value⟩ := statement
  obtain ⟨setting, held⟩ := content
  cases setting? with
  | none =>
      constructor
      · intro success
        cases success
      · intro ⟨named, _⟩
        cases named
  | some named =>
      change (named.read flag? value).map (Sigma.mk named) = _ ↔ _
      rw [map_eq_ok_iff]
      constructor
      · intro ⟨found, success, same⟩
        cases same
        exact ⟨rfl, success⟩
      · intro ⟨same, success⟩
        cases same
        exact ⟨held, success, rfl⟩

section Stated

variable {flag? : Json → Option Bool} {contents : List ((setting : Setting) × setting.Content)}

theorem map_fst_of_mapM_readStatement (success : statements.mapM (readStatement flag?) = .ok contents) :
    statements.map Prod.fst = (contents.map Sigma.fst).map some := by
  rw [List.map_map]
  symm
  apply map_eq_of_mapM _ success
  intro statement content read
  exact (readStatement_eq_ok_iff.mp read).1.symm

/-- A setting that is stated once holds what its value reads as. -/
theorem read_content_of_mapM (success : statements.mapM (readStatement flag?) = .ok contents)
    (distinct : (statements.map Prod.fst).Nodup) {setting : Setting} {value : Json}
    (member : (some setting, value) ∈ statements) :
    setting.read flag? value = .ok ((empty.putAll contents).content setting) := by
  obtain ⟨⟨other, held⟩, put, found⟩ := exists_mem_of_mapM success member
  obtain ⟨named, found⟩ := readStatement_eq_ok_iff.mp found
  cases named
  rw [map_fst_of_mapM_readStatement success] at distinct
  rw [content_putAll_of_mem empty (distinct.of_map _) put]
  exact found

/-- A setting that is not stated holds nothing. -/
theorem content_of_mapM_of_not_stated (success : statements.mapM (readStatement flag?) = .ok contents)
    {setting : Setting} (absent : some setting ∉ statements.map Prod.fst) :
    (empty.putAll contents).content setting = setting.absent := by
  rw [map_fst_of_mapM_readStatement success] at absent
  rw [content_putAll_of_not_mem empty fun member => absent (List.mem_map_of_mem member),
    content_empty]

end Stated

theorem read_content_of_ofJson (stated : statements? json = some statements)
    (distinct : (statements.map Prod.fst).Nodup) (success : ofJson json = .ok definitions)
    {setting : Setting} {value : Json} (member : (some setting, value) ∈ statements) :
    setting.read strictFlag? value = .ok (definitions.content setting) := by
  obtain ⟨contents, read, rfl⟩ := (ofJson_eq_ok_iff stated).mp success
  exact read_content_of_mapM read distinct member

theorem content_of_ofJson_of_not_stated (stated : statements? json = some statements)
    (success : ofJson json = .ok definitions) {setting : Setting}
    (absent : some setting ∉ statements.map Prod.fst) :
    definitions.content setting = setting.absent := by
  obtain ⟨contents, read, rfl⟩ := (ofJson_eq_ok_iff stated).mp success
  exact content_of_mapM_of_not_stated read absent

end Success

end Definitions

end RequestFilter
