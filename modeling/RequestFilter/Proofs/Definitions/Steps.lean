import RequestFilter.Definitions.Basic
import RequestFilter.Proofs.Definitions.Loading

/-! # What steps build

A step puts one flag on, or lengthens the entries of one kind, and leaves all else
alone (`Definitions.after_cases`).  Definitions therefore gather what is said in
the steps that build them (`Definitions.gathers_ofSteps`), and only steps on the
same setting have to keep their order (`Definitions.ofSteps_eq_of_rearranges`).
-/

namespace RequestFilter

theorem Flag.setting_injective : Function.Injective setting := by
  intro first second same
  cases first <;> cases second <;> cases same <;> rfl

namespace Definitions

namespace Step

/-- The setting that a step is about. -/
def setting : Step → Setting
  | .atomKeys => .atomKeys
  | .stringKeys => .stringKeys
  | .toggle which | .entries (.toggle which) _ => .toggle which
  | .entries (.field kind) _ => .entries kind

/-- The entries that a step passes with a kind. -/
def passedWith (kind : Kind) : Step → List Entry
  | .entries other passed => if other = kind then passed else []
  | _ => []

/-- Two sequences have the same steps on each setting, in the same order. -/
def Rearranges (steps others : List Step) : Prop :=
  ∀ setting : Setting, steps.filter (·.setting = setting) = others.filter (·.setting = setting)

section Setting

variable {step : Step}

theorem setting_eq_atomKeys_iff : step.setting = .atomKeys ↔ step = .atomKeys := by
  rcases step with _ | _ | _ | ⟨_ | _, _⟩ <;> simp [setting]

theorem setting_eq_stringKeys_iff : step.setting = .stringKeys ↔ step = .stringKeys := by
  rcases step with _ | _ | _ | ⟨_ | _, _⟩ <;> simp [setting]

/-- A kind is switched on by its own step, and by entries that are passed with it. -/
theorem setting_eq_toggle_iff {which : Toggle} :
    step.setting = .toggle which ↔
      step = .toggle which ∨ ∃ ignored, step = .entries (.toggle which) ignored := by
  rcases step with _ | _ | _ | ⟨_ | _, _⟩ <;> simp [setting]

theorem passedWith_of_ne {kind : FieldKind} (different : step.setting ≠ .entries kind) :
    step.passedWith (.field kind) = [] := by
  cases step with
  | entries other passed =>
      refine if_neg fun same => different ?_
      rw [same]
      rfl
  | _ => rfl

end Setting

section Sequences

variable {steps : List Step}

theorem exists_setting_iff {setting : Setting} :
    (∃ step ∈ steps, step.setting = setting) ↔ steps.filter (·.setting = setting) ≠ [] := by
  simp only [ne_eq, List.filter_eq_nil_iff, decide_eq_true_eq, not_forall, not_not, exists_prop]

/-- Steps on other settings pass nothing with a kind that restricts a column. -/
theorem flatMap_passedWith (steps : List Step) (kind : FieldKind) :
    steps.flatMap (·.passedWith (.field kind)) =
      (steps.filter (·.setting = .entries kind)).flatMap (·.passedWith (.field kind)) := by
  induction steps with
  | nil => rfl
  | cons step rest ih =>
      rw [List.flatMap_cons, ih]
      by_cases same : step.setting = .entries kind
      · simp only [List.filter_cons, same, decide_true, if_true, List.flatMap_cons]
      · simp only [List.filter_cons, same, decide_false, Bool.false_eq_true, if_false,
          passedWith_of_ne same, List.nil_append]

/-- Neighbours on different settings can change places. -/
theorem rearranges_swap {first second : Step} (different : first.setting ≠ second.setting)
    (before rest : List Step) :
    Rearranges (before ++ first :: second :: rest) (before ++ second :: first :: rest) := by
  intro setting
  rw [List.filter_append, List.filter_append]
  refine congrArg (before.filter _ ++ ·) ?_
  by_cases same : first.setting = setting
  · have other : ¬(second.setting = setting) := fun also => different (same.trans also.symm)
    simp only [List.filter_cons, same, other, decide_true, decide_false, if_true,
      Bool.false_eq_true, if_false]
  · simp only [List.filter_cons, same, decide_false, Bool.false_eq_true, if_false]

end Sequences

end Step

section After

variable (definitions : Definitions) (step : Step)

/-- A step puts the flag on that it is about, or adds the entries that it passes at the end. -/
theorem after_cases :
    (∃ flag : Flag, step.setting = flag.setting ∧
        definitions.after step = definitions.setFlag flag true) ∨
      ∃ kind passed, step = .entries (.field kind) passed ∧
        definitions.after step =
          definitions.setEntries kind (definitions.fieldEntries kind ++ passed) := by
  cases step with
  | atomKeys => exact .inl ⟨.atomKeys, rfl, rfl⟩
  | stringKeys => exact .inl ⟨.stringKeys, rfl, rfl⟩
  | toggle which => exact .inl ⟨.toggle which, rfl, definitions.withToggle_eq_setToggle which⟩
  | entries kind passed =>
      cases kind with
      | toggle which => exact .inl ⟨.toggle which, rfl, rfl⟩
      | field kind => exact .inr ⟨kind, passed, rfl, rfl⟩

theorem flag_setEntries (kind : FieldKind) (entries : List Entry) (flag : Flag) :
    (definitions.setEntries kind entries).flag flag = definitions.flag flag := by
  cases flag with
  | toggle which => exact isOn_setEntries definitions kind which entries
  | _ => cases kind <;> rfl

theorem flag_after (flag : Flag) :
    (definitions.after step).flag flag = true ↔
      definitions.flag flag = true ∨ step.setting = flag.setting := by
  rcases definitions.after_cases step with ⟨own, about, result⟩ | ⟨kind, passed, rfl, result⟩
  · rw [result, flag_setFlag, about]
    by_cases same : flag = own
    · rw [if_pos same, same]
      exact iff_of_true rfl (.inr rfl)
    · rw [if_neg same, or_iff_left fun also => same (Flag.setting_injective also).symm]
  · rw [result, flag_setEntries, or_iff_left]
    cases flag <;> exact nofun

theorem fieldEntries_after (kind : FieldKind) :
    (definitions.after step).fieldEntries kind =
      definitions.fieldEntries kind ++ step.passedWith (.field kind) := by
  rcases definitions.after_cases step with ⟨flag, about, result⟩ | ⟨other, passed, rfl, result⟩
  · have other : step.setting ≠ .entries kind := by
      rw [about]
      cases flag <;> exact nofun
    rw [result, fieldEntries_setFlag, Step.passedWith_of_ne other, List.append_nil]
  · rw [result, fieldEntries_setEntries]
    by_cases same : kind = other
    · rw [if_pos same, same]
      exact congrArg _ (if_pos rfl).symm
    · have different : (Step.entries (.field other) passed).setting ≠ .entries kind := fun also =>
        same (Setting.entries.inj also).symm
      rw [if_neg same, Step.passedWith_of_ne different, List.append_nil]

end After

/-- Definitions have what is said in some steps, and nothing else. -/
structure Gathers (definitions : Definitions) (steps : List Step) : Prop where
  /-- A flag is on if some step is about it. -/
  flags : ∀ flag, definitions.flag flag = true ↔ ∃ step ∈ steps, step.setting = flag.setting
  /-- A kind has the entries that are passed with it, in the order of the steps. -/
  entries : ∀ kind,
    definitions.fieldEntries kind = steps.flatMap (·.passedWith (.field kind))

section Gathers

variable {definitions other : Definitions} {steps others : List Step}

theorem gathers_empty : empty.Gathers [] where
  flags flag := by
    refine iff_of_false ?_ (fun ⟨_, member, _⟩ => List.not_mem_nil member)
    cases flag with
    | toggle which => cases which <;> exact Bool.false_ne_true
    | _ => exact Bool.false_ne_true
  entries kind := by cases kind <;> rfl

theorem Gathers.after (gathers : definitions.Gathers steps) (step : Step) :
    (definitions.after step).Gathers (steps ++ [step]) where
  flags flag := by
    rw [flag_after, gathers.flags]
    simp only [List.mem_append, List.mem_singleton, or_and_right, exists_or, exists_eq_left]
  entries kind := by
    rw [fieldEntries_after, gathers.entries, List.flatMap_append, List.flatMap_singleton]

/-- What steps build gathers them. -/
theorem gathers_ofSteps (steps : List Step) : (ofSteps steps).Gathers steps := by
  induction steps using List.reverseRecOn with
  | nil => exact gathers_empty
  | append_singleton steps step ih =>
      unfold ofSteps
      rw [List.foldl_concat]
      exact ih.after step

/-- Steps settle every setting of the definitions that gather them. -/
theorem Gathers.unique (gathers : definitions.Gathers steps) (also : other.Gathers steps) :
    definitions = other := by
  have flags (flag : Flag) : definitions.flag flag = other.flag flag :=
    Bool.eq_iff_iff.mpr ((gathers.flags flag).trans (also.flags flag).symm)
  refine ext_content fun setting => ?_
  cases setting with
  | atomKeys => exact flags .atomKeys
  | stringKeys => exact flags .stringKeys
  | toggle which => exact flags (.toggle which)
  | entries kind => exact (gathers.entries kind).trans (also.entries kind).symm

theorem Gathers.of_rearranges (gathers : definitions.Gathers steps)
    (same : Step.Rearranges steps others) : definitions.Gathers others where
  flags flag := by
    rw [gathers.flags, Step.exists_setting_iff, same, ← Step.exists_setting_iff]
  entries kind := by
    rw [gathers.entries, Step.flatMap_passedWith, same, ← Step.flatMap_passedWith]

/-- Only steps on the same setting have to keep their order. -/
theorem ofSteps_eq_of_rearranges (same : Step.Rearranges steps others) :
    ofSteps steps = ofSteps others :=
  ((gathers_ofSteps steps).of_rearranges same).unique (gathers_ofSteps others)

end Gathers

/-- A kind contributes something where it is on or has entries. -/
theorem isEnabled_iff (definitions : Definitions) (kind : Kind) :
    definitions.isEnabled kind = true ↔
      (∃ which, kind = .toggle which ∧ definitions.isOn which = true) ∨
        definitions.entries kind ≠ [] := by
  cases kind with
  | toggle which => simp [isEnabled, entries]
  | field kind => simp [isEnabled, entries]

/-- **What steps build.**  A kind that restricts a column has the entries that were passed with it,
in the order of the steps; a kind that is switched on as a whole has none, and is on if it was
switched on or any entries were passed with it.  A form of keys is accepted if a step says so, and
a kind contributes something if it is on or has entries.  Steps may be rearranged as long as those
on the same setting keep their order; in particular neighbours on different settings commute. -/
theorem ofSteps_settles (steps : List Step) :
    (∀ kind, (ofSteps steps).entries kind =
        if kind.isToggle then [] else steps.flatMap (·.passedWith kind)) ∧
      (∀ which, (ofSteps steps).isOn which = true ↔
        .toggle which ∈ steps ∨ ∃ ignored, .entries (.toggle which) ignored ∈ steps) ∧
      ((ofSteps steps).atomKeys = true ↔ .atomKeys ∈ steps) ∧
      ((ofSteps steps).stringKeys = true ↔ .stringKeys ∈ steps) ∧
      (∀ kind, (ofSteps steps).isEnabled kind = true ↔
        (∃ which, kind = .toggle which ∧ (ofSteps steps).isOn which = true) ∨
          (ofSteps steps).entries kind ≠ []) ∧
      (∀ others, Step.Rearranges steps others → ofSteps others = ofSteps steps) ∧
      ∀ before first second rest, first.setting ≠ second.setting →
        ofSteps (before ++ first :: second :: rest) =
          ofSteps (before ++ second :: first :: rest) := by
  have gathers := gathers_ofSteps steps
  refine ⟨fun kind => ?_, fun which => ?_, ?_, ?_, (ofSteps steps).isEnabled_iff,
    fun others same => (ofSteps_eq_of_rearranges same).symm,
    fun before first second rest different =>
      ofSteps_eq_of_rearranges (Step.rearranges_swap different before rest)⟩
  · cases kind with
    | toggle which => rfl
    | field kind => exact gathers.entries kind
  · refine (gathers.flags (.toggle which)).trans ?_
    simp only [Flag.setting, Step.setting_eq_toggle_iff]
    grind
  · refine (gathers.flags .atomKeys).trans ?_
    simp only [Flag.setting, Step.setting_eq_atomKeys_iff, exists_eq_right]
  · refine (gathers.flags .stringKeys).trans ?_
    simp only [Flag.setting, Step.setting_eq_stringKeys_iff, exists_eq_right]

/-- Towns by name and area, sorted, where the filters by equality come in two steps. -/
def townSteps : List Step :=
  [.stringKeys, .entries (.field .equalTo) [.aliased "town" "name"],
    .entries (.toggle .orderBy) [.bare "ignored"], .entries (.field .contains) [.bare "name"],
    .entries (.field .equalTo) [.bare "area"], .toggle .limit]

/-- The same steps with those that switch something on in front. -/
def townStepsInGroups : List Step :=
  [.toggle .limit, .entries (.toggle .orderBy) [.bare "ignored"], .stringKeys,
    .entries (.field .equalTo) [.aliased "town" "name"], .entries (.field .equalTo) [.bare "area"],
    .entries (.field .contains) [.bare "name"]]

theorem ofSteps_settles_towns :
    Step.Rearranges townSteps townStepsInGroups ∧ ofSteps townStepsInGroups = ofSteps townSteps ∧
      Step.stringKeys.setting ≠ (Step.toggle .offset).setting ∧
      ofSteps (townSteps ++ .stringKeys :: .toggle .offset :: []) =
        ofSteps (townSteps ++ .toggle .offset :: .stringKeys :: []) := by
  have same : Step.Rearranges townSteps townStepsInGroups := by
    intro setting
    cases setting with
    | toggle which => cases which <;> rfl
    | entries kind => cases kind <;> rfl
    | _ => rfl
  have different : Step.stringKeys.setting ≠ (Step.toggle .offset).setting := by decide
  obtain ⟨-, -, -, -, -, rearranged, exchanged⟩ := ofSteps_settles townSteps
  exact ⟨same, rearranged _ same, different, exchanged townSteps _ _ [] different⟩

example : (ofSteps townSteps).entries (.field .equalTo) = [.aliased "town" "name", .bare "area"] :=
  rfl

end Definitions

end RequestFilter
