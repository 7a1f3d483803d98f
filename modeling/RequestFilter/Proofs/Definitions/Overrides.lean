import Mathlib.Data.List.TakeWhile
import RequestFilter.Definitions.Settings
import RequestFilter.Proofs.Definitions.Grammar
import RequestFilter.Proofs.JsonText

/-! # Settings and the variables that override them

A variable of the environment overrides what its name leads to after the prefix, whatever
the case of the letters.  The variable of a flag sets that flag and nothing else
(`Settings.override_eq_switchAll`), and a document of settings states them under their own
names (`Settings.ofMembers_eq_self`).
-/

namespace RequestFilter

namespace Text

/-- A letter in lower case, wherever it stands. -/
def IsLower (c : Char) : Prop := c ≠ 'Σ' ∧ lowerChar c = [c]

theorem lowerAfter_cons {c : Char} (noSigma : c ≠ 'Σ') (before rest : List Char) :
    lowerAfter before (c :: rest) = lowerChar c ++ lowerAfter (c :: before) rest := by
  rw [lowerAfter]
  intro same
  exact noSigma same

/-- Letters in lower case stay what they are. -/
theorem lowerAfter_eq_self {text : List Char} (lower : ∀ c ∈ text, IsLower c) (before : List Char) :
    lowerAfter before text = text := by
  induction text generalizing before with
  | nil => rfl
  | cons c rest ih =>
      obtain ⟨first, others⟩ := List.forall_mem_cons.mp lower
      rw [lowerAfter_cons first.1, first.2, ih others, List.singleton_append]

/-- Whether a cased letter comes next is settled before an underscore. -/
theorem meetsCased_append_underscore (text rest : List Char) :
    meetsCased (text ++ '_' :: rest) = meetsCased (text ++ ['_']) := by
  have counts : ¬isCaseIgnorable '_' = true := by decide +kernel
  unfold meetsCased
  induction text with
  | nil =>
      rw [List.nil_append, List.nil_append, List.dropWhile_cons_of_neg counts,
        List.dropWhile_cons_of_neg counts]
      rfl
  | cons c text ih =>
      rw [List.cons_append, List.cons_append]
      by_cases ignored : isCaseIgnorable c = true
      · rw [List.dropWhile_cons_of_pos ignored, List.dropWhile_cons_of_pos ignored, ih]
      · rw [List.dropWhile_cons_of_neg ignored, List.dropWhile_cons_of_neg ignored]
        rfl

theorem isLower_underscore : IsLower '_' := ⟨by decide, by decide +kernel⟩

/-- What comes after an underscore does not change the case of what comes before. -/
theorem lowerAfter_append_underscore (text rest before : List Char) :
    lowerAfter before (text ++ '_' :: rest) =
      lowerAfter before (text ++ ['_']) ++ lowerAfter ('_' :: (text.reverse ++ before)) rest := by
  induction text generalizing before with
  | nil =>
      rw [List.nil_append, List.nil_append, lowerAfter_cons isLower_underscore.1,
        lowerAfter_cons isLower_underscore.1, List.append_assoc]
      rfl
  | cons c text ih =>
      rw [List.cons_append, List.cons_append, List.reverse_cons, List.append_assoc,
        List.singleton_append]
      by_cases sigma : c = 'Σ'
      · subst sigma
        rw [lowerAfter, lowerAfter, meetsCased_append_underscore, ih, List.cons_append]
      · rw [lowerAfter_cons sigma, lowerAfter_cons sigma, ih, List.append_assoc]

/-- A name in lower case after two underscores stays what it is. -/
theorem lowerCase_append_name (start : List Char) {name : List Char}
    (lower : ∀ c ∈ name, IsLower c) :
    lowerCase (start ++ '_' :: '_' :: name) = lowerCase (start ++ ['_', '_']) ++ name := by
  unfold lowerCase
  rw [lowerAfter_append_underscore start ('_' :: name), lowerAfter_append_underscore start ['_'],
    lowerAfter_eq_self (List.forall_mem_cons.mpr ⟨isLower_underscore, lower⟩),
    lowerAfter_eq_self (List.forall_mem_singleton.mpr isLower_underscore), List.append_assoc]
  rfl

end Text

namespace Setting

/-- The name of a setting is a path to the member of that name. -/
theorem path_of_name (setting : Setting) : Json.Path.ofText setting.name.toList = ⟨setting.name, []⟩ := by
  obtain ⟨nonempty, each⟩ :
      setting.name.toList ≠ [] ∧ setting.name.toList.all Json.isPathChar = true := by
    cases setting with
    | atomKeys => decide
    | stringKeys => decide
    | toggle which => cases which <;> decide
    | entries kind => cases kind <;> decide
  have whole : setting.name.toList.takeWhile Json.isPathChar = setting.name.toList :=
    List.takeWhile_eq_self_iff.mpr (List.all_eq_true.mp each)
  have rest : setting.name.toList.dropWhile Json.isPathChar = [] := by
    have parts := List.takeWhile_append_dropWhile (p := Json.isPathChar) (l := setting.name.toList)
    rw [whole] at parts
    exact List.append_right_eq_self.mp parts
  unfold Json.Path.ofText
  rw [rest, whole, Json.readSteps]
  simp only [nonempty, ↓reduceIte, String.ofList_toList]

end Setting

/-- What states a setting is no object, so it replaces what it is written over. -/
theorem overlay_of_states {setting : Setting} {json : Json} {content : setting.Content}
    (states : setting.States json content) (old : Json) : Json.overlay old json = json := by
  cases setting with
  | entries kind =>
      obtain ⟨items, rfl, _⟩ := states
      rw [Json.overlay]
      intro members same
      cases same
  | _ =>
      cases states
      rw [Json.overlay]
      intro members same
      cases same

/-- The settings that say whether something is on. -/
inductive Flag where
  /-- Whether keys made in code are accepted. -/
  | atomKeys
  /-- Whether keys that arrive as text are accepted. -/
  | stringKeys
  /-- Whether a kind is switched on. -/
  | toggle (which : Toggle)
deriving DecidableEq, Repr

/-- The setting that a flag is. -/
def Flag.setting : Flag → Setting
  | .atomKeys => .atomKeys
  | .stringKeys => .stringKeys
  | .toggle which => .toggle which

theorem Flag.isLower_of_mem_name (flag : Flag) : ∀ c ∈ flag.setting.name.toList, Text.IsLower c := by
  have each : (flag.setting.name.toList.all fun c => c ≠ 'Σ' ∧ Text.lowerChar c = [c]) = true := by
    cases flag with
    | atomKeys => decide +kernel
    | stringKeys => decide +kernel
    | toggle which => cases which <;> decide +kernel
  intro c member
  have lower : c ≠ 'Σ' ∧ Text.lowerChar c = [c] :=
    of_decide_eq_true (List.all_eq_true.mp each c member)
  exact lower

namespace Settings

/-- A variable is under a prefix if its name starts with it and two underscores, whatever the case of
the letters. -/
def IsUnder (start : String) (var : String × String) : Prop :=
  Text.lowerCase (start ++ "__").toList <+: Text.lowerCase var.1.toList

instance (start : String) : DecidablePred (IsUnder start) := fun _ =>
  inferInstanceAs (Decidable (List.IsPrefix _ _))

/-- A variable switches a flag on or off: its name is the prefix, two underscores and the name of the
flag, and its value a truth value, whatever the case of the letters. -/
structure Switches (start : String) (var : String × String) (switch : Flag × Bool) : Prop where
  named : Text.lowerCase var.1.toList = Text.lowerCase (start ++ "__" ++ switch.1.setting.name).toList
  valued : Text.lowerCase var.2.toList = (if switch.2 then "true" else "false").toList

section Variables

variable {start : String} {var : String × String} {switch : Flag × Bool}

theorem overridden?_of_not_isUnder (outside : ¬IsUnder start var) :
    overridden? start var.1 = none := by
  unfold overridden?
  rw [if_neg]
  rwa [List.isPrefixOf_iff_prefix]

/-- The variable of a flag overrides the member of its name. -/
theorem Switches.overridden?_eq (switches : Switches start var switch) :
    overridden? start var.1 = some ⟨switch.1.setting.name, []⟩ := by
  have name : Text.lowerCase var.1.toList =
      Text.lowerCase (start ++ "__").toList ++ switch.1.setting.name.toList := by
    have whole := Text.lowerCase_append_name start.toList switch.1.isLower_of_mem_name
    rw [switches.named, String.toList_append, String.toList_append, List.append_assoc]
    exact whole
  -- Two underscores would be read as a point, but no flag has them in its name.
  have noPoint : pointed switch.1.setting.name.toList = switch.1.setting.name.toList := by
    cases switch.1 with
    | atomKeys => decide
    | stringKeys => decide
    | toggle which => cases which <;> decide
  unfold overridden?
  rw [name, if_pos (List.isPrefixOf_iff_prefix.mpr (List.prefix_append _ _)), List.drop_left, noPoint,
    Setting.path_of_name]

theorem Switches.ofVariable_eq (switches : Switches start var switch) :
    ofVariable var.2 = .bool switch.2 := by
  unfold ofVariable
  rw [switches.valued]
  cases switch.2 with
  | true => rfl
  | false => rfl

end Variables

/-- Settings in which some flags are set one after the other. -/
def switchAll (switches : List (Flag × Bool)) (settings : List (String × Json)) :
    List (String × Json) :=
  switches.foldl
    (fun settings switch => Json.setMember switch.1.setting.name (.bool switch.2) settings) settings

section Overriding

variable {start : String} {environment : List (String × String)} {switches : List (Flag × Bool)}

/-- The variables of flags set these flags, and variables that are not under the prefix do nothing. -/
theorem override_eq_switchAll
    (pairs : List.Forall₂ (Switches start) (environment.filter fun var => IsUnder start var) switches)
    (settings : List (String × Json)) :
    override (some start) environment settings = switchAll switches settings := by
  unfold override switchAll
  dsimp only
  induction environment generalizing switches settings with
  | nil =>
      cases pairs
      rfl
  | cons var rest ih =>
      rw [List.foldl_cons]
      by_cases under : IsUnder start var
      · rw [List.filter_cons, if_pos (decide_eq_true under)] at pairs
        obtain ⟨switch, others, first, following, rfl⟩ := List.forall₂_cons_left_iff.mp pairs
        rw [List.foldl_cons, ← ih following, first.overridden?_eq, first.ofVariable_eq]
        rfl
      · rw [List.filter_cons, if_neg (by rwa [decide_eq_true_eq])] at pairs
        rw [overridden?_of_not_isUnder under]
        exact ih pairs settings

end Overriding

/-- Settings under their own names are what a document of them states. -/
theorem ofMembers_eq_self {members : List (String × Json)}
    (distinct : (members.map Prod.fst).Nodup)
    (each : ∀ member ∈ members, ∃ setting : Setting, member.1 = setting.name ∧
      ∃ content, setting.States member.2 content) : ofMembers members = members := by
  have plain : ofMembers members = Json.mergedMembers members := by
    unfold ofMembers Json.mergedMembers
    refine List.foldl_ext _ _ _ fun settings member inside => ?_
    obtain ⟨setting, named, content, states⟩ := each member inside
    dsimp only
    rw [named, setting.path_of_name]
    exact congrArg (Json.setMember _ · _) (overlay_of_states states _)
  rw [plain, Json.mergedMembers_of_nodup distinct]

end Settings

end RequestFilter
