/-!
Steps over a state that can end in a fault, opened up: what each way of putting steps together does
from a given state. Reading a blob and decoding it are both made of such steps.
-/

namespace Shading.Stepping

variable {σ ε α β : Type}

@[simp]
theorem pure_apply (value : α) (state : σ) :
    (pure value : ExceptT ε (StateM σ) α) state = (.ok value, state) := by
  rfl

@[simp]
theorem throw_apply (fault : ε) (state : σ) :
    (throw fault : ExceptT ε (StateM σ) α) state = (.error fault, state) := by
  rfl

@[simp]
theorem get_apply (state : σ) :
    (get : ExceptT ε (StateM σ) σ) state = (.ok state, state) := by
  rfl

@[simp]
theorem set_apply (next state : σ) :
    (set next : ExceptT ε (StateM σ) PUnit) state = (.ok ⟨⟩, next) := by
  rfl

@[simp]
theorem modify_apply (change : σ → σ) (state : σ) :
    (modify change : ExceptT ε (StateM σ) PUnit) state = (.ok ⟨⟩, change state) := by
  rfl

@[simp]
theorem lift_apply (outcome : Except ε α) (state : σ) :
    (liftM outcome : ExceptT ε (StateM σ) α) state = (outcome, state) := by
  rfl

/-- A step after another goes on from where the first one ended, unless that faulted. -/
theorem bind_apply (first : ExceptT ε (StateM σ) α) (next : α → ExceptT ε (StateM σ) β)
    (state : σ) :
    (first >>= next) state =
      match first state with
      | (.ok value, after) => next value after
      | (.error fault, after) => (.error fault, after) := by
  show (ExceptT.bind first next) state = _
  simp only [ExceptT.bind, ExceptT.mk, bind, StateT.bind]
  cases first state with
  | mk outcome after => cases outcome <;> rfl

theorem bind_ok {first : ExceptT ε (StateM σ) α} {next : α → ExceptT ε (StateM σ) β}
    {state after : σ} {value : α} (ran : first state = (.ok value, after)) :
    (first >>= next) state = next value after := by
  rw [bind_apply, ran]

theorem map_apply (change : α → β) (step : ExceptT ε (StateM σ) α) (state : σ) :
    (change <$> step) state = (change <$> (step state).1, (step state).2) := by
  show (ExceptT.map change step) state = _
  simp only [ExceptT.map, ExceptT.mk, bind, StateT.bind]
  cases step state with
  | mk outcome after => cases outcome <;> rfl

/-- A step that gave an answer after another one. -/
theorem exists_of_bind_run {first : ExceptT ε (StateM σ) α} {next : α → ExceptT ε (StateM σ) β}
    {state after : σ} {result : β} (ran : (first >>= next) state = (.ok result, after)) :
    ∃ value middle, first state = (.ok value, middle) ∧
      next value middle = (.ok result, after) := by
  rw [bind_apply] at ran
  cases started : first state with
  | mk outcome middle =>
    rw [started] at ran
    cases outcome with
    | error fault => cases ran
    | ok value => exact ⟨value, middle, rfl, ran⟩

/-- A step that faulted after another one, or in it. -/
theorem fault_of_bind_run {first : ExceptT ε (StateM σ) α} {next : α → ExceptT ε (StateM σ) β}
    {state after : σ} {fault : ε} (ran : (first >>= next) state = (.error fault, after)) :
    first state = (.error fault, after) ∨
      ∃ value middle, first state = (.ok value, middle) ∧
        next value middle = (.error fault, after) := by
  rw [bind_apply] at ran
  cases started : first state with
  | mk outcome middle =>
    rw [started] at ran
    cases outcome with
    | error other =>
      cases ran
      exact Or.inl rfl
    | ok value => exact Or.inr ⟨value, middle, rfl, ran⟩

theorem lift_run {outcome : Except ε α} {state after : σ} {value : α}
    (ran : (liftM outcome : ExceptT ε (StateM σ) α) state = (.ok value, after)) :
    outcome = .ok value ∧ after = state := by
  rw [lift_apply] at ran
  exact ⟨congrArg Prod.fst ran, (congrArg Prod.snd ran).symm⟩

/-- An outcome that is made of two comes from two that are values. -/
theorem exists_of_bind_ok {outcome : Except ε α} {next : α → Except ε β} {result : β}
    (made : outcome >>= next = .ok result) :
    ∃ value, outcome = .ok value ∧ next value = .ok result := by
  cases outcome with
  | ok value => exact ⟨value, rfl, made⟩
  | error fault => cases made

theorem exists_of_map_ok {outcome : Except ε α} {change : α → β} {result : β}
    (made : change <$> outcome = .ok result) :
    ∃ value, outcome = .ok value ∧ change value = result := by
  cases outcome with
  | ok value => exact ⟨value, rfl, Except.ok.inj made⟩
  | error fault => cases made

/-- An outcome that is made of two faults in the first one or in the second. -/
theorem fault_of_bind {outcome : Except ε α} {next : α → Except ε β} {fault : ε}
    (failed : outcome >>= next = .error fault) :
    outcome = .error fault ∨ ∃ value, outcome = .ok value ∧ next value = .error fault := by
  cases outcome with
  | ok value => exact Or.inr ⟨value, rfl, failed⟩
  | error other =>
    cases failed
    exact Or.inl rfl

end Shading.Stepping
