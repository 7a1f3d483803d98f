import Mathlib.Data.List.Forall2
import Mathlib.Data.List.Perm.Basic

/-! # Outcomes

A step of filtering gives a result or a fault, and steps in a row stop at the
first fault.  A row of steps succeeds exactly when each step does
(`bind_eq_ok_iff`), and a list of them when each of its elements does
(`mapM_eq_ok_iff`).  It fails only in ways in which one of its steps can fail
(`FailsOnly.bind`, `FailsOnly.mapM`).
-/

namespace RequestFilter.Outcome

variable {Fault Other α β : Type}

/-- Two steps in a row succeed when both do. -/
theorem bind_eq_ok_iff {step : Except Fault α} {next : α → Except Fault β} {result : β} :
    (step >>= next) = .ok result ↔ ∃ middle, step = .ok middle ∧ next middle = .ok result := by
  cases step with
  | error fault =>
      constructor
      · intro success
        cases success
      · rintro ⟨middle, success, _⟩
        cases success
  | ok middle =>
      constructor
      · intro success
        exact ⟨middle, rfl, success⟩
      · rintro ⟨other, same, success⟩
        cases same
        exact success

/-- Two steps in a row fail when the first does, or the second after it. -/
theorem bind_eq_error_iff {step : Except Fault α} {next : α → Except Fault β} {fault : Fault} :
    (step >>= next) = .error fault ↔
      step = .error fault ∨ ∃ middle, step = .ok middle ∧ next middle = .error fault := by
  cases step with
  | error other =>
      constructor
      · intro failure
        cases failure
        exact .inl rfl
      · rintro (failure | ⟨middle, success, _⟩)
        · cases failure
          rfl
        · cases success
  | ok middle =>
      constructor
      · intro failure
        exact .inr ⟨middle, rfl, failure⟩
      · rintro (failure | ⟨other, same, failure⟩)
        · cases failure
        · cases same
          exact failure

/-- Looking at a result does not make a step succeed. -/
theorem map_eq_ok_iff {step : Except Fault α} {view : α → β} {result : β} :
    step.map view = .ok result ↔ ∃ value, step = .ok value ∧ result = view value := by
  cases step with
  | error fault =>
      constructor
      · intro success
        cases success
      · rintro ⟨value, success, _⟩
        cases success
  | ok value =>
      constructor
      · intro success
        cases success
        exact ⟨value, rfl, rfl⟩
      · rintro ⟨other, same, rfl⟩
        cases same
        rfl

/-- Nor does it make a step fail in another way. -/
theorem map_eq_error_iff {step : Except Fault α} {view : α → β} {fault : Fault} :
    step.map view = .error fault ↔ step = .error fault := by
  cases step with
  | error other =>
      change Except.error other = _ ↔ _
      rw [Except.error.injEq, Except.error.injEq]
  | ok value =>
      constructor
      · intro failure
        cases failure
      · intro failure
        cases failure

theorem exists_of_forall₂ {related : α → β → Prop} {items : List α}
    {others : List β} (all : List.Forall₂ related items others) {other : β}
    (member : other ∈ others) : ∃ item, related item other := by
  induction all with
  | nil => cases member
  | cons first _ ih =>
      rcases List.mem_cons.mp member with rfl | member
      · exact ⟨_, first⟩
      · exact ih member

theorem exists_forall₂ {related : α → β → Prop} {items : List α}
    (each : ∀ item ∈ items, ∃ other, related item other) :
    ∃ others, List.Forall₂ related items others := by
  induction items with
  | nil => exact ⟨[], .nil⟩
  | cons item rest ih =>
      obtain ⟨⟨other, first⟩, each⟩ := List.forall_mem_cons.mp each
      obtain ⟨others, pairs⟩ := ih each
      exact ⟨other :: others, .cons first pairs⟩

/-- Lists that are related by way of something in between are related one after the other. -/
theorem exists_forall₂_between {γ : Type} {before : α → γ → Prop} {after : γ → β → Prop}
    {items : List α} {others : List β}
    (pairs : List.Forall₂ (fun item other => ∃ middle, before item middle ∧ after middle other)
      items others) :
    ∃ middles, List.Forall₂ before items middles ∧ List.Forall₂ after middles others := by
  induction pairs with
  | nil => exact ⟨[], .nil, .nil⟩
  | cons pair _ ih =>
      obtain ⟨middle, first, second⟩ := pair
      obtain ⟨middles, firsts, seconds⟩ := ih
      exact ⟨middle :: middles, .cons first firsts, .cons second seconds⟩

/-- Of two steps in a row, only the second has a result to look at. -/
theorem map_bind {γ : Type} (step : Except Fault α) (next : α → Except Fault β) (view : β → γ) :
    (step >>= next).map view = step >>= fun middle => (next middle).map view := by
  cases step <;> rfl

/-- What follows a view of a result follows the result. -/
theorem bind_of_map {γ : Type} (step : Except Fault α) (view : α → β) (next : β → Except Fault γ) :
    step.map view >>= next = step >>= fun result => next (view result) := by
  cases step <;> rfl

/-- A list of steps succeeds when each of them has its own reason to, with the results in order. -/
theorem mapM_eq_ok_iff {step : α → Except Fault β} {allowed : α → Prop} {result : α → β}
    (each : ∀ item outcome, step item = .ok outcome ↔ allowed item ∧ outcome = result item)
    {items : List α} {outcomes : List β} :
    items.mapM step = .ok outcomes ↔
      (∀ item ∈ items, allowed item) ∧ outcomes = items.map result := by
  induction items generalizing outcomes with
  | nil =>
      simp only [List.mapM_nil, List.not_mem_nil, false_imp_iff, implies_true, true_and,
        List.map_nil]
      constructor
      · intro same
        cases same
        rfl
      · rintro rfl
        rfl
  | cons item rest ih =>
      simp only [List.mapM_cons, bind_eq_ok_iff, each, ih, List.forall_mem_cons, List.map_cons]
      constructor
      · rintro ⟨_, ⟨first, rfl⟩, _, ⟨others, rfl⟩, same⟩
        cases same
        exact ⟨⟨first, others⟩, rfl⟩
      · rintro ⟨⟨first, others⟩, rfl⟩
        exact ⟨_, ⟨first, rfl⟩, _, ⟨others, rfl⟩, rfl⟩

/-- A list of steps that succeeds gives the result of each. -/
theorem forall₂_of_mapM {step : α → Except Fault β} {items : List α} {outcomes : List β}
    (success : items.mapM step = .ok outcomes) :
    List.Forall₂ (fun item outcome => step item = .ok outcome) items outcomes := by
  induction items generalizing outcomes with
  | nil =>
      cases success
      exact .nil
  | cons item rest ih =>
      simp only [List.mapM_cons, bind_eq_ok_iff] at success
      obtain ⟨first, found, others, success, same⟩ := success
      cases same
      exact .cons found (ih success)

theorem mapM_eq_ok_iff_forall₂ {step : α → Except Fault β} {items : List α}
    {outcomes : List β} :
    items.mapM step = .ok outcomes ↔
      List.Forall₂ (fun item outcome => step item = .ok outcome) items outcomes := by
  refine ⟨forall₂_of_mapM, fun each => ?_⟩
  induction each with
  | nil => rfl
  | cons found _ ih =>
      rw [List.mapM_cons, bind_eq_ok_iff]
      exact ⟨_, found, bind_eq_ok_iff.mpr ⟨_, ih, rfl⟩⟩

/-- Steps that succeed one by one succeed in any order, with the same results. -/
theorem exists_mapM_of_perm {step : α → Except Fault β} {items others : List α}
    {outcomes : List β} (perm : others.Perm items) (success : items.mapM step = .ok outcomes) :
    ∃ results, others.mapM step = .ok results ∧ results.Perm outcomes := by
  obtain ⟨results, found, same⟩ := List.perm_comp_forall₂ perm (forall₂_of_mapM success)
  exact ⟨results, mapM_eq_ok_iff_forall₂.mpr found, same⟩

/-- A list of steps fails with the fault of the first of them that fails. -/
theorem mapM_eq_error_iff {step : α → Except Fault β} {items : List α} {fault : Fault} :
    items.mapM step = .error fault ↔
      ∃ before item after, items = before ++ item :: after ∧
        (∀ earlier ∈ before, ∃ outcome, step earlier = .ok outcome) ∧ step item = .error fault := by
  constructor
  · intro failure
    induction items with
    | nil => cases failure
    | cons first rest ih =>
        rw [List.mapM_cons] at failure
        cases made : step first with
        | error other =>
            rw [made] at failure
            cases failure
            exact ⟨[], first, rest, rfl, fun _ member => absurd member List.not_mem_nil, made⟩
        | ok outcome =>
            cases others : rest.mapM step with
            | ok outcomes =>
                rw [made, others] at failure
                cases failure
            | error other =>
                rw [made, others] at failure
                cases failure
                obtain ⟨before, item, after, same, earlier, failed⟩ := ih others
                refine ⟨first :: before, item, after, congrArg (first :: ·) same, ?_, failed⟩
                exact List.forall_mem_cons.mpr ⟨⟨outcome, made⟩, earlier⟩
  · intro ⟨before, item, after, same, earlier, failed⟩
    subst same
    induction before with
    | nil =>
        rw [List.nil_append, List.mapM_cons, failed]
        rfl
    | cons first before ih =>
        obtain ⟨⟨outcome, made⟩, earlier⟩ := List.forall_mem_cons.mp earlier
        rw [List.cons_append, List.mapM_cons, made, ih earlier]
        rfl

theorem exists_mem_of_mapM {step : α → Except Fault β} {items : List α} {outcomes : List β}
    (success : items.mapM step = .ok outcomes) {item : α} (member : item ∈ items) :
    ∃ outcome ∈ outcomes, step item = .ok outcome := by
  obtain ⟨place, inside, rfl⟩ := List.getElem_of_mem member
  have each := List.forall₂_iff_get.mp (forall₂_of_mapM success)
  exact ⟨_, List.get_mem _ _, each.2 place inside (each.1 ▸ inside)⟩

/-- A list of steps succeeds when each of them does. -/
theorem exists_mapM_iff {step : α → Except Fault β} {items : List α} :
    (∃ outcomes, items.mapM step = .ok outcomes) ↔
      ∀ item ∈ items, ∃ outcome, step item = .ok outcome := by
  constructor
  · intro ⟨outcomes, success⟩ item member
    obtain ⟨outcome, _, found⟩ := exists_mem_of_mapM success member
    exact ⟨outcome, found⟩
  · intro each
    cases outcome : items.mapM step with
    | ok outcomes => exact ⟨outcomes, rfl⟩
    | error fault =>
        obtain ⟨before, item, after, rfl, _, failed⟩ := mapM_eq_error_iff.mp outcome
        obtain ⟨value, success⟩ := each item (List.mem_append_right _ List.mem_cons_self)
        rw [success] at failed
        cases failed

/-- What can be told of each result before its step is made can be told of all. -/
theorem map_eq_of_mapM {γ : Type} {step : α → Except Fault β} {view : β → γ} {expected : α → γ}
    (each : ∀ item outcome, step item = .ok outcome → view outcome = expected item)
    {items : List α} {outcomes : List β} (success : items.mapM step = .ok outcomes) :
    outcomes.map view = items.map expected := by
  have views := (forall₂_of_mapM success).imp fun item outcome found =>
    (each item outcome found).symm
  rw [← List.forall₂_map_right_iff, ← List.forall₂_map_left_iff, List.forall₂_eq_eq_eq] at views
  exact views.symm

/-- Steps that give related results for related items do so item by item. -/
theorem forall₂_mapM {step : α → Except Fault β} {related : α → α → Prop} {alike : β → β → Prop}
    (each : ∀ item other outcome otherOutcome, related item other → step item = .ok outcome →
      step other = .ok otherOutcome → alike outcome otherOutcome)
    {items others : List α} (same : List.Forall₂ related items others)
    {outcomes otherOutcomes : List β} (success : items.mapM step = .ok outcomes)
    (otherSuccess : others.mapM step = .ok otherOutcomes) :
    List.Forall₂ alike outcomes otherOutcomes := by
  induction same generalizing outcomes otherOutcomes with
  | nil =>
      cases success
      cases otherSuccess
      exact .nil
  | cons same _ ih =>
      simp only [List.mapM_cons, bind_eq_ok_iff] at success otherSuccess
      obtain ⟨first, found, rest, success, made⟩ := success
      obtain ⟨second, otherFound, others, otherSuccess, otherMade⟩ := otherSuccess
      cases made
      cases otherMade
      exact .cons (each _ _ _ _ same found otherFound) (ih success otherSuccess)

/-- Renaming the fault does not make a step succeed. -/
theorem mapError_eq_ok_iff {step : Except Fault α} {rename : Fault → Other} {result : α} :
    step.mapError rename = .ok result ↔ step = .ok result := by
  cases step with
  | error fault =>
      constructor
      · intro success
        cases success
      · intro success
        cases success
  | ok value =>
      constructor
      · intro success
        cases success
        rfl
      · intro success
        cases success
        rfl

/-- A renamed fault is the name of a fault of the step. -/
theorem mapError_eq_error_iff {step : Except Fault α} {rename : Fault → Other} {fault : Other} :
    step.mapError rename = .error fault ↔ ∃ cause, step = .error cause ∧ fault = rename cause := by
  cases step with
  | error cause =>
      constructor
      · intro failure
        cases failure
        exact ⟨cause, rfl, rfl⟩
      · rintro ⟨other, same, rfl⟩
        cases same
        rfl
  | ok value =>
      constructor
      · intro failure
        cases failure
      · rintro ⟨cause, failure, -⟩
        cases failure

/-- Where each step is a change found without looking at the state, all changes can be found first
and made afterwards. -/
theorem foldlM_eq_map_mapM {State : Type} {step : State → α → Except Fault State}
    {change : α → Except Fault β} {make : State → β → State}
    (each : ∀ state item, step state item = (change item).map (make state)) (items : List α)
    (state : State) :
    items.foldlM step state = (items.mapM change).map fun changes => changes.foldl make state := by
  induction items generalizing state with
  | nil => rfl
  | cons item rest ih =>
      rw [List.foldlM_cons, List.mapM_cons, each]
      cases change item with
      | error fault => rfl
      | ok first =>
          change rest.foldlM step (make state first) = _
          rw [ih]
          cases rest.mapM change <;> rfl

/-- Steps that agree on the items of a list make the same of the list. -/
theorem foldlM_congr {State : Type} {step other : State → α → Except Fault State} {items : List α}
    (same : ∀ item ∈ items, ∀ state, step state item = other state item) (state : State) :
    items.foldlM step state = items.foldlM other state := by
  induction items generalizing state with
  | nil => rfl
  | cons item rest ih =>
      obtain ⟨first, others⟩ := List.forall_mem_cons.mp same
      rw [List.foldlM_cons, List.foldlM_cons, first]
      congr 1
      funext next
      exact ih others next

/-- A fault can be renamed after each of two steps in a row. -/
theorem mapError_bind (step : Except Fault α) (next : α → Except Fault β)
    (rename : Fault → Other) :
    (step >>= next).mapError rename =
      step.mapError rename >>= fun value => (next value).mapError rename := by
  cases step <;> rfl

/-- Steps that differ in the names of their faults make the same of a list up to these names. -/
theorem foldlM_eq_mapError {State : Type} {step : State → α → Except Fault State}
    {other : State → α → Except Other State} {rename : Fault → Other}
    (renamed : ∀ state item, other state item = (step state item).mapError rename)
    (items : List α) (state : State) :
    items.foldlM other state = (items.foldlM step state).mapError rename := by
  induction items generalizing state with
  | nil => rfl
  | cons item rest ih =>
      rw [List.foldlM_cons, List.foldlM_cons, mapError_bind, renamed]
      congr 1
      funext next
      exact ih next

/-- An item that fails in every state makes its list fail. -/
theorem exists_error_of_foldlM {State : Type} {step : State → α → Except Fault State}
    {items : List α} {item : α} (member : item ∈ items)
    (fails : ∀ state, ∃ fault, step state item = .error fault) (state : State) :
    ∃ fault, items.foldlM step state = .error fault := by
  induction items generalizing state with
  | nil => cases member
  | cons first rest ih =>
      rw [List.foldlM_cons]
      cases made : step state first with
      | error fault => exact ⟨fault, rfl⟩
      | ok next =>
          rcases List.mem_cons.mp member with rfl | later
          · obtain ⟨fault, failed⟩ := fails state
            rw [failed] at made
            cases made
          · exact ih later next

/-- A list of steps fails where the first of them does, in the state that the others lead to. -/
theorem foldlM_eq_error_iff {State : Type} {step : State → α → Except Fault State}
    {items : List α} {state : State} {fault : Fault} :
    items.foldlM step state = .error fault ↔
      ∃ before item after middle, items = before ++ item :: after ∧
        before.foldlM step state = .ok middle ∧ step middle item = .error fault := by
  refine ⟨fun failure => ?_, ?_⟩
  · induction items generalizing state with
    | nil => cases failure
    | cons first rest ih =>
        rw [List.foldlM_cons] at failure
        cases made : step state first with
        | error other =>
            rw [made] at failure
            cases failure
            exact ⟨[], first, rest, state, rfl, rfl, made⟩
        | ok next =>
            rw [made] at failure
            obtain ⟨before, item, after, middle, same, reached, failed⟩ := ih failure
            refine ⟨first :: before, item, after, middle, congrArg (first :: ·) same, ?_, failed⟩
            rw [List.foldlM_cons, made]
            exact reached
  · rintro ⟨before, item, after, middle, rfl, reached, failed⟩
    rw [List.foldlM_append, reached]
    change (step middle item >>= _) = _
    rw [failed]
    rfl

/-- Where a step does something with what an item stands for, a list of steps succeeds when all items
stand for something and doing it in order succeeds. -/
theorem foldlM_eq_ok_iff_forall₂ {State : Type} {step : State → α → Except Fault State}
    {stands : α → β → Prop} {act : State → β → Except Other State}
    (each : ∀ state item result, step state item = .ok result ↔
      ∃ target, stands item target ∧ act state target = .ok result)
    {items : List α} {state result : State} :
    items.foldlM step state = .ok result ↔
      ∃ targets, List.Forall₂ stands items targets ∧ targets.foldlM act state = .ok result := by
  induction items generalizing state with
  | nil =>
      constructor
      · intro success
        cases success
        exact ⟨[], .nil, rfl⟩
      · rintro ⟨targets, none, success⟩
        cases none
        cases success
        rfl
  | cons item rest ih =>
      rw [List.foldlM_cons, bind_eq_ok_iff]
      constructor
      · rintro ⟨middle, made, others⟩
        obtain ⟨target, found, acted⟩ := (each state item middle).mp made
        obtain ⟨targets, all, success⟩ := ih.mp others
        refine ⟨target :: targets, .cons found all, ?_⟩
        rw [List.foldlM_cons, acted]
        exact success
      · rintro ⟨targets, pairs, success⟩
        obtain ⟨target, others, found, all, rfl⟩ := List.forall₂_cons_left_iff.mp pairs
        rw [List.foldlM_cons, bind_eq_ok_iff] at success
        obtain ⟨middle, acted, rest⟩ := success
        exact ⟨middle, (each state item middle).mpr ⟨target, found, acted⟩,
          ih.mpr ⟨others, all, rest⟩⟩

/-- A step fails only in ways that are possible. -/
def FailsOnly (possible : Fault → Prop) (step : Except Fault α) : Prop :=
  ∀ fault, step = .error fault → possible fault

namespace FailsOnly

variable {possible : Fault → Prop} {step : Except Fault α} {next : α → Except Fault β}

theorem pure (value : α) : FailsOnly possible (Pure.pure value) := by
  intro fault failure
  cases failure

theorem bind (first : FailsOnly possible step) (rest : ∀ value, FailsOnly possible (next value)) :
    FailsOnly possible (step >>= next) := by
  intro fault failure
  cases made : step with
  | error other =>
      rw [made] at failure
      cases failure
      exact first fault made
  | ok value =>
      rw [made] at failure
      exact rest value fault failure

theorem mapM {step : α → Except Fault β} (each : ∀ item, FailsOnly possible (step item))
    (items : List α) : FailsOnly possible (items.mapM step) := by
  induction items with
  | nil => exact pure []
  | cons item rest ih =>
      rw [List.mapM_cons]
      exact (each item).bind fun _ => ih.bind fun _ => pure _

/-- A fault that the next step cannot have is one of the first step. -/
theorem bind_eq_error_iff (rest : ∀ value, FailsOnly possible (next value)) {fault : Fault}
    (impossible : ¬possible fault) : (step >>= next) = .error fault ↔ step = .error fault := by
  cases step with
  | error other =>
      constructor
      · intro failure
        cases failure
        rfl
      · intro failure
        cases failure
        rfl
  | ok value =>
      constructor
      · intro failure
        exact absurd (rest value fault failure) impossible
      · intro failure
        cases failure

end FailsOnly

end RequestFilter.Outcome
