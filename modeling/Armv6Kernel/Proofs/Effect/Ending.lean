import Armv6Kernel.Effect.Action

/-!
# What an action does apart from its log

Most statements about an action are about how it ends and about the state it leaves, not about the
records it writes.  `effect` keeps these two parts; the lemmas of this module compute it step by
step through composed actions.
-/

namespace Armv6Kernel

/-- Whether an action ended with a value. -/
def Outcome.isValue {ε α : Type} : Outcome ε α → Bool
  | .value _ => true
  | _ => false

namespace Action

variable {σ τ ε ζ α β : Type}

/-- How an action ends and the state it leaves. -/
def effect (action : Action σ ε α) (state : σ) : Outcome ε α × σ :=
  ((action.run state).outcome, (action.run state).state)

theorem effect_fst (action : Action σ ε α) (state : σ) :
    (action.effect state).1 = (action.run state).outcome := rfl

theorem effect_snd (action : Action σ ε α) (state : σ) :
    (action.effect state).2 = (action.run state).state := rfl

theorem isValue_of_effect {action : Action σ ε α} {state : σ} {ending : Outcome ε α × σ}
    (ended : action.effect state = ending) :
    (action.run state).outcome.isValue = ending.1.isValue := by
  rw [← ended, effect_fst]

/-- A composed action stops at the first part that does not produce a value. -/
@[simp]
theorem effect_bind (action : Action σ ε α) (next : α → Action σ ε β) (state : σ) :
    (action >>= next).effect state =
      match action.effect state with
      | (.value result, middle) => (next result).effect middle
      | (.error cause, middle) => (.error cause, middle)
      | (.panic cause, middle) => (.panic cause, middle) := by
  rcases ended : action.run state with ⟨outcome, middle, log⟩
  cases outcome with
  | value result =>
      simp only [effect, run_bind_of_value ended, ended]
  | error cause =>
      simp only [effect, run_bind_of_error ended, ended]
  | panic cause =>
      simp only [effect, run_bind_of_panic ended, ended]

@[simp]
theorem effect_pure (result : α) (state : σ) :
    (pure result : Action σ ε α).effect state = (.value result, state) := rfl

@[simp]
theorem effect_get (state : σ) :
    (get : Action σ ε σ).effect state = (.value state, state) := rfl

@[simp]
theorem effect_gets (view : σ → α) (state : σ) :
    (gets view : Action σ ε α).effect state = (.value (view state), state) := rfl

@[simp]
theorem effect_modify (change : σ → σ) (state : σ) :
    (modify change : Action σ ε Unit).effect state = (.value (), change state) := rfl

@[simp]
theorem effect_fail (cause : ε) (state : σ) :
    (fail cause : Action σ ε α).effect state = (.error cause, state) := rfl

@[simp]
theorem effect_panic (cause : Panic) (state : σ) :
    (panic cause : Action σ ε α).effect state = (.panic cause, state) := rfl

@[simp]
theorem effect_log (level : LogLevel) (target message : String) (state : σ) :
    (log level target message : Action σ ε Unit).effect state = (.value (), state) := rfl

@[simp]
theorem effect_assert (condition : Bool) (cause : Panic) (state : σ) :
    (assert condition cause : Action σ ε Unit).effect state =
      (if condition then .value () else .panic cause, state) := rfl

@[simp]
theorem effect_ofExcept_ok (result : α) (state : σ) :
    (ofExcept (.ok result) : Action σ ε α).effect state = (.value result, state) := rfl

@[simp]
theorem effect_ofExcept_error (cause : Panic) (state : σ) :
    (ofExcept (.error cause) : Action σ ε α).effect state = (.panic cause, state) := rfl

@[simp]
theorem effect_onPart (view : σ → τ) (replace : τ → σ → σ) (action : Action τ ε α) (state : σ) :
    (action.onPart view replace).effect state =
      ((action.effect (view state)).1, replace (action.effect (view state)).2 state) := rfl

@[simp]
theorem effect_mapError (change : ζ → ε) (action : Action σ ζ α) (state : σ) :
    (action.mapError change).effect state =
      match action.effect state with
      | (.value result, final) => (.value result, final)
      | (.error cause, final) => (.error (change cause), final)
      | (.panic cause, final) => (.panic cause, final) := by
  rcases ended : action state with ⟨outcome, final, log⟩
  cases outcome <;> simp only [effect, run, mapError, ended]

theorem effect_mapError_snd (change : ζ → ε) (action : Action σ ζ α) (state : σ) :
    ((action.mapError change).effect state).2 = (action.effect state).2 := by
  rw [effect_mapError]
  rcases action.effect state with ⟨outcome, final⟩
  cases outcome <;> rfl

@[simp]
theorem effect_widen (action : Action σ Empty α) (state : σ) :
    (action.widen : Action σ ε α).effect state =
      match action.effect state with
      | (.value result, final) => (.value result, final)
      | (.error cause, _) => cause.elim
      | (.panic cause, final) => (.panic cause, final) := by
  rw [widen, effect_mapError]
  rcases action.effect state with ⟨outcome, final⟩
  cases outcome with
  | value result => rfl
  | error cause => exact cause.elim
  | panic cause => rfl

@[simp]
theorem effect_undoing (action : Action σ ε α) (undo : Action σ Empty Unit) (state : σ) :
    (action.undoing undo).effect state =
      match action.effect state with
      | (.value result, final) => (.value result, final)
      | (.panic cause, final) => (.panic cause, final)
      | (.error cause, middle) =>
          match undo.effect middle with
          | (.value (), final) => (.error cause, final)
          | (.error impossible, _) => impossible.elim
          | (.panic failure, final) => (.panic failure, final) := by
  rcases ended : action state with ⟨outcome, middle, log⟩
  cases outcome with
  | value result => simp only [effect, run, undoing, ended]
  | panic cause => simp only [effect, run, undoing, ended]
  | error cause =>
      rcases undone : undo middle with ⟨outcome, final, more⟩
      cases outcome with
      | value result => simp only [effect, run, undoing, ended, undone]
      | panic failure => simp only [effect, run, undoing, ended, undone]
      | error impossible => exact impossible.elim

@[simp]
theorem effect_reporting (action : Action σ ε α) (record : ε → LogRecord) (state : σ) :
    (action.reporting record).effect state = action.effect state := by
  rcases ended : action state with ⟨outcome, final, log⟩
  cases outcome <;> simp only [effect, run, reporting, ended]

/-! ## Actions over a list -/

theorem effect_forM_nil (step : β → Action σ ε Unit) (state : σ) :
    (([] : List β).forM step).effect state = (.value (), state) := rfl

theorem effect_forM_cons (step : β → Action σ ε Unit) (item : β) (items : List β) (state : σ) :
    ((item :: items).forM step).effect state =
      (step item >>= fun _ => items.forM step).effect state := rfl

theorem effect_forM_singleton (step : β → Action σ ε Unit) (item : β) (state : σ) :
    ([item].forM step).effect state = (step item).effect state := by
  rw [effect_forM_cons, effect_bind]
  rcases (step item).effect state with ⟨_ | _ | _, final⟩ <;> rfl

theorem effect_forM_append (step : β → Action σ ε Unit) (items more : List β) (state : σ) :
    ((items ++ more).forM step).effect state =
      (items.forM step >>= fun _ => more.forM step).effect state := by
  induction items generalizing state with
  | nil => rw [List.nil_append, effect_bind, effect_forM_nil]
  | cons item items ih =>
      rw [List.cons_append, effect_forM_cons, effect_bind, effect_bind, effect_forM_cons,
        effect_bind]
      rcases (step item).effect state with ⟨_ | _ | _, middle⟩
      · exact (ih middle).trans (effect_bind _ _ _)
      · rfl
      · rfl

/-! ## Actions that end with a value -/

/-- A composed action ends with a value only if both of its parts do. -/
theorem effect_bind_eq_value {action : Action σ ε α} {next : α → Action σ ε β} {state final : σ}
    {result : β} (ended : (action >>= next).effect state = (.value result, final)) :
    ∃ between middle, action.effect state = (.value between, middle) ∧
      (next between).effect middle = (.value result, final) := by
  rw [effect_bind] at ended
  rcases first : action.effect state with ⟨between | cause | cause, middle⟩
  · rw [first] at ended
    exact ⟨between, middle, rfl, ended⟩
  · rw [first] at ended
    cases ended
  · rw [first] at ended
    cases ended

theorem effect_assert_eq_value {condition : Bool} {cause : Panic} {state final : σ} {result : Unit}
    (ended : (assert condition cause : Action σ ε Unit).effect state = (.value result, final)) :
    condition = true ∧ final = state := by
  cases condition with
  | true =>
      cases ended
      exact ⟨rfl, rfl⟩
  | false => cases ended

theorem effect_ofExcept_eq_value {computed : Except Panic α} {state final : σ} {result : α}
    (ended : (ofExcept computed : Action σ ε α).effect state = (.value result, final)) :
    computed = .ok result ∧ final = state := by
  cases computed with
  | ok value =>
      cases ended
      exact ⟨rfl, rfl⟩
  | error cause => cases ended

end Action

end Armv6Kernel
