import Armv6Kernel.Console.Log
import Armv6Kernel.Effect.Panic

/-!
# Actions

An `Action σ ε α` runs on a state of type `σ`.  It ends with a value, with an error of type `ε` that
the caller may recover from, or with a panic.  In all three cases it leaves a state and the log
records written so far, so that what an operation changed before it failed stays visible.
-/

namespace Armv6Kernel

/-- How an action ends. -/
inductive Outcome (ε α : Type) where
  | value (result : α)
  /-- The action failed in a way its caller may recover from. -/
  | error (cause : ε)
  /-- The action was cut short. -/
  | panic (cause : Panic)
  deriving DecidableEq, Repr

/-- What is left after an action: how it ended, the state, and the log records it wrote. -/
structure Run (σ ε α : Type) where
  outcome : Outcome ε α
  state : σ
  log : List LogRecord

/-- A computation on a state that may fail or panic and that writes to the log. -/
def Action (σ ε α : Type) : Type :=
  σ → Run σ ε α

namespace Action

variable {σ τ ε ζ α β : Type}

def run (action : Action σ ε α) (state : σ) : Run σ ε α :=
  action state

/-- The action that produces a value and does nothing else. -/
protected def pure (result : α) : Action σ ε α :=
  fun state => ⟨.value result, state, []⟩

/-- Runs an action and, if it produced a value, the action that follows. -/
protected def bind (action : Action σ ε α) (next : α → Action σ ε β) : Action σ ε β :=
  fun state =>
    match action state with
    | ⟨.value result, middle, log⟩ =>
        let rest := next result middle
        ⟨rest.outcome, rest.state, log ++ rest.log⟩
    | ⟨.error cause, middle, log⟩ => ⟨.error cause, middle, log⟩
    | ⟨.panic cause, middle, log⟩ => ⟨.panic cause, middle, log⟩

instance : Monad (Action σ ε) where
  pure := Action.pure
  bind := Action.bind

def get : Action σ ε σ :=
  fun state => ⟨.value state, state, []⟩

def gets (view : σ → α) : Action σ ε α :=
  fun state => ⟨.value (view state), state, []⟩

def modify (change : σ → σ) : Action σ ε Unit :=
  fun state => ⟨.value (), change state, []⟩

def fail (cause : ε) : Action σ ε α :=
  fun state => ⟨.error cause, state, []⟩

def panic (cause : Panic) : Action σ ε α :=
  fun state => ⟨.panic cause, state, []⟩

/-- Panics unless the condition holds. -/
def assert (condition : Bool) (cause : Panic) : Action σ ε Unit :=
  fun state => ⟨if condition then .value () else .panic cause, state, []⟩

def log (level : LogLevel) (target message : String) : Action σ ε Unit :=
  fun state => ⟨.value (), state, [⟨level, target, message⟩]⟩

/-- A computation without a state that may panic, as an action. -/
def ofExcept : Except Panic α → Action σ ε α
  | .ok result => Action.pure result
  | .error cause => Action.panic cause

/-- Changes the type of the errors that an action ends with. -/
def mapError (change : ζ → ε) (action : Action σ ζ α) : Action σ ε α :=
  fun state =>
    match action state with
    | ⟨.value result, final, log⟩ => ⟨.value result, final, log⟩
    | ⟨.error cause, final, log⟩ => ⟨.error (change cause), final, log⟩
    | ⟨.panic cause, final, log⟩ => ⟨.panic cause, final, log⟩

/-- An action that never ends with an error fits wherever errors are allowed. -/
def widen (action : Action σ Empty α) : Action σ ε α :=
  action.mapError Empty.elim

instance : MonadLift (Action σ Empty) (Action σ ε) where
  monadLift := widen

def onPart (view : σ → τ) (replace : τ → σ → σ) (action : Action τ ε α) : Action σ ε α :=
  fun state =>
    let part := action (view state)
    ⟨part.outcome, replace part.state state, part.log⟩

/-- Runs an action and, if it ends with an error, undoes earlier steps before passing it on. -/
def undoing (action : Action σ ε α) (undo : Action σ Empty Unit) : Action σ ε α :=
  fun state =>
    match action state with
    | ⟨.value result, final, log⟩ => ⟨.value result, final, log⟩
    | ⟨.panic cause, final, log⟩ => ⟨.panic cause, final, log⟩
    | ⟨.error cause, middle, log⟩ =>
        match undo middle with
        | ⟨.value (), final, more⟩ => ⟨.error cause, final, log ++ more⟩
        | ⟨.panic failure, final, more⟩ => ⟨.panic failure, final, log ++ more⟩

/-- Runs an action and, if it ends with an error, writes a record about it. -/
def reporting (action : Action σ ε α) (record : ε → LogRecord) : Action σ ε α :=
  fun state =>
    match action state with
    | ⟨.value result, final, log⟩ => ⟨.value result, final, log⟩
    | ⟨.panic cause, final, log⟩ => ⟨.panic cause, final, log⟩
    | ⟨.error cause, final, log⟩ => ⟨.error cause, final, log ++ [record cause]⟩

/-- Runs an action and then, however it ended, changes the state. -/
def ensuring (action : Action σ ε α) (cleanup : σ → σ) : Action σ ε α :=
  fun state =>
    let body := action state
    ⟨body.outcome, cleanup body.state, body.log⟩

/-! ## How composed actions run -/

theorem run_bind_of_value {action : Action σ ε α} {state middle : σ} {result : α}
    {log : List LogRecord} (ended : action.run state = ⟨.value result, middle, log⟩)
    (next : α → Action σ ε β) :
    (action >>= next).run state =
      ⟨((next result).run middle).outcome, ((next result).run middle).state,
        log ++ ((next result).run middle).log⟩ := by
  change Action.bind action next state = _
  simp only [run] at ended
  simp only [Action.bind, ended, run]

theorem run_bind_of_error {action : Action σ ε α} {state middle : σ} {cause : ε}
    {log : List LogRecord} (ended : action.run state = ⟨.error cause, middle, log⟩)
    (next : α → Action σ ε β) :
    (action >>= next).run state = ⟨.error cause, middle, log⟩ := by
  change Action.bind action next state = _
  simp only [run] at ended
  simp only [Action.bind, ended]

theorem run_bind_of_panic {action : Action σ ε α} {state middle : σ} {cause : Panic}
    {log : List LogRecord} (ended : action.run state = ⟨.panic cause, middle, log⟩)
    (next : α → Action σ ε β) :
    (action >>= next).run state = ⟨.panic cause, middle, log⟩ := by
  change Action.bind action next state = _
  simp only [run] at ended
  simp only [Action.bind, ended]

end Action

end Armv6Kernel
