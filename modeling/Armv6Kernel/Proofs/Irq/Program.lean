import Armv6Kernel.Proofs.Irq.Ownership

/-!
# Programs with nested guards

In a program every guard lives for a scope, so guards are dropped in the reverse order of their
creation, also when a panic unwinds through the scopes.  A program runs as an action on a core, and
its trace is the run with guards that goes through the same events.  At the end of a scope its guard
is found where it was made, and the guards made before are untouched.
-/

namespace Armv6Kernel

/-- Runs an action and, if it ends with a panic, the handler of the panic. -/
def Action.recovering {σ ε β : Type} (action : Action σ ε β) (handler : Panic → Action σ ε β) :
    Action σ ε β :=
  fun state =>
    match action state with
    | ⟨.panic cause, middle, log⟩ =>
        let rest := handler cause middle
        ⟨rest.outcome, rest.state, log ++ rest.log⟩
    | ended => ended

theorem Action.effect_recovering {σ ε β : Type} (action : Action σ ε β)
    (handler : Panic → Action σ ε β) (state : σ) :
    (action.recovering handler).effect state =
      match action.effect state with
      | (.panic cause, middle) => (handler cause).effect middle
      | (.value result, middle) => (.value result, middle)
      | (.error cause, middle) => (.error cause, middle) := by
  rcases ended : action state with ⟨outcome, middle, log⟩
  cases outcome <;> simp only [effect, run, recovering, ended]

theorem Action.effect_ensuring {σ ε β : Type} (action : Action σ ε β) (cleanup : σ → σ)
    (state : σ) : (action.ensuring cleanup).effect state =
      ((action.effect state).1, cleanup (action.effect state).2) :=
  rfl

/-- A program on a core in which guards are dropped in the reverse order of their creation. -/
inductive GuardProgram (ι α : Type) where
  | done
  | panic (cause : Panic)
  /-- How the program goes on depends on what it finds. -/
  | observe (next : Core ι α → GuardProgram ι α)
  /-- The value of a lock is changed, if the lock is held. -/
  | write (name : ι) (change : α → α)
  /-- A guard that masks interrupts lives while the body runs. -/
  | mask (body : GuardProgram ι α)
  /-- A guard of a lock lives while the body runs. -/
  | lock (name : ι) (body : GuardProgram ι α)
  /-- A guard of a lock lives while the first body runs; the second one runs if the lock is held. -/
  | tryLock (name : ι) (taken refused : GuardProgram ι α)
  | withLock (name : ι) (body : GuardProgram ι α)
  | andThen (first later : GuardProgram ι α)
  /-- A panic of the body unwinds up to here. -/
  | recover (body : GuardProgram ι α) (handler : Panic → GuardProgram ι α)

/-- The events of a part of a program, and how the part ends. -/
structure GuardTrace (ι α : Type) where
  events : List (GuardEvent ι α)
  outcome : Outcome Empty Unit

namespace GuardTrace

variable {ι α : Type}

/-- The trace of a scope.  However the body ends, the guard is dropped. -/
def within (opening closing : GuardEvent ι α) (body : GuardTrace ι α) : GuardTrace ι α :=
  ⟨opening :: body.events ++ [closing], body.outcome⟩

def after (earlier : List (GuardEvent ι α)) (later : GuardTrace ι α) : GuardTrace ι α :=
  ⟨earlier ++ later.events, later.outcome⟩

end GuardTrace

namespace GuardProgram

variable {ι α : Type} [DecidableEq ι]

/-- The program as an action. -/
def perform : GuardProgram ι α → Action (Core ι α) Empty Unit
  | .done => pure ()
  | .panic cause => Action.panic cause
  | .observe next => do
      let core ← Action.get
      (next core).perform
  | .write name change =>
      Action.modify fun core =>
        if core.isLocked name then core.setValue name (change (core.value name)) else core
  | .mask body => do
      let irq ← Core.maskInterrupts
      body.perform.ensuring (Core.dropInterruptGuard irq)
  | .lock name body => do
      let guard ← Core.acquire name
      body.perform.ensuring (Core.dropLockGuard guard)
  | .tryLock name taken refused => do
      match ← Core.tryLock name with
      | some guard => taken.perform.ensuring (Core.dropLockGuard guard)
      | none => refused.perform
  | .withLock name body => Core.withLock name body.perform
  | .andThen first later => do
      first.perform
      later.perform
  | .recover body handler => body.perform.recovering fun cause => (handler cause).perform

/-- The events of the program, from a point of a run on. -/
def trace : GuardProgram ι α → GuardRun ι α → GuardTrace ι α
  | .done, _ => ⟨[], .value ()⟩
  | .panic cause, _ => ⟨[], .panic cause⟩
  | .observe next, run => (next run.core).trace run
  | .write name change, _ => ⟨[.write name change], .value ()⟩
  | .mask body, run =>
      (body.trace (run.step .mask)).within .mask (.unmask run.session.interruptGuards.length)
  | .lock name body, run =>
      if run.core.isLocked name then ⟨[.lock name], .panic .lockReentered⟩
      else (body.trace (run.step (.lock name))).within (.lock name)
        (.unlock run.session.lockGuards.length)
  | .tryLock name taken refused, run =>
      if run.core.isLocked name then (refused.trace run).after [.tryLock name]
      else (taken.trace (run.step (.tryLock name))).within (.tryLock name)
        (.unlock run.session.lockGuards.length)
  | .withLock name body, run =>
      if run.core.isLocked name then ⟨[.enter name], .panic .lockReentered⟩
      else (body.trace (run.step (.enter name))).within (.enter name) .leave
  | .andThen first later, run =>
      let start := first.trace run
      match start.outcome with
      | .value _ => (later.trace (run.stepAll start.events)).after start.events
      | _ => start
  | .recover body handler, run =>
      let start := body.trace run
      match start.outcome with
      | .panic cause => ((handler cause).trace (run.stepAll start.events)).after start.events
      | _ => start

end GuardProgram

/-! ## Scopes -/

namespace GuardRun

variable {ι α : Type} [DecidableEq ι] {before middle after run : GuardRun ι α}

/-- The slots of before, and behind them gaps alone. -/
def Gapped {γ : Type} (slots finals : List (Option γ)) : Prop :=
  ∃ gaps, finals = slots ++ List.replicate gaps none

/-- All guards made in between have been dropped, those made before live on, and the status is as
before. -/
structure Settles (before after : GuardRun ι α) : Prop where
  interruptGaps : Gapped before.session.interruptGuards after.session.interruptGuards
  lockGaps : Gapped before.session.lockGuards after.session.lockGuards
  bodies : after.bodies = before.bodies
  status : after.core.status = before.core.status

section Gaps

variable {γ : Type} {slots middles finals : List (Option γ)} {item : γ}

theorem Gapped.refl (slots : List (Option γ)) : Gapped slots slots :=
  ⟨0, (List.append_nil slots).symm⟩

theorem Gapped.trans (first : Gapped slots middles) (second : Gapped middles finals) :
    Gapped slots finals := by
  obtain ⟨gaps, rfl⟩ := first
  obtain ⟨more, rfl⟩ := second
  exact ⟨gaps + more, by rw [List.append_assoc, List.replicate_append_replicate]⟩

theorem Gapped.filterMap_eq (gapped : Gapped slots finals) :
    finals.filterMap id = slots.filterMap id := by
  obtain ⟨gaps, rfl⟩ := gapped
  simp [List.filterMap_append]

/-- An item is found behind the slots that were there when it was added. -/
theorem Gapped.found (gapped : Gapped (slots ++ [some item]) finals) :
    finals[slots.length]?.join = some item := by
  obtain ⟨gaps, rfl⟩ := gapped
  simp

theorem Gapped.set_none (gapped : Gapped (slots ++ [some item]) finals) :
    Gapped slots (finals.set slots.length none) := by
  obtain ⟨gaps, rfl⟩ := gapped
  exact ⟨gaps + 1, by simp [List.replicate_succ]⟩

end Gaps

omit [DecidableEq ι] in
theorem Settles.refl (run : GuardRun ι α) : run.Settles run :=
  ⟨.refl _, .refl _, rfl, rfl⟩

omit [DecidableEq ι] in
theorem Settles.trans (first : before.Settles middle) (second : middle.Settles after) :
    before.Settles after where
  interruptGaps := first.interruptGaps.trans second.interruptGaps
  lockGaps := first.lockGaps.trans second.lockGaps
  bodies := second.bodies.trans first.bodies
  status := second.status.trans first.status

omit [DecidableEq ι] in
theorem Settles.guards_eq (settles : before.Settles after) :
    after.moment.guards = before.moment.guards := by
  have sameLocks : after.lockGuards = before.lockGuards := by
    rw [lockGuards, lockGuards, settles.lockGaps.filterMap_eq, settles.bodies]
  rw [moment, moment, settles.interruptGaps.filterMap_eq, sameLocks]

omit [DecidableEq ι] in
/-- Dropping the guard that a scope began with puts the status back. -/
theorem Settles.drop_status (settles : middle.Settles after)
    (masks : middle.core.status = (InterruptGuard.acquire before.core.status).2) :
    (InterruptGuard.acquire before.core.status).1.drop after.core.status = before.core.status := by
  rw [settles.status, masks]
  exact InterruptGuard.drop_acquire before.core.status

/-- A scope: an event makes a guard, and another event drops it when only that guard is left of what
was made since. -/
structure Brackets (run : GuardRun ι α) (opening closing : GuardEvent ι α)
    (drop : Core ι α → Core ι α) : Prop where
  core : ∀ {middle : GuardRun ι α}, (run.step opening).Settles middle →
    (middle.step closing).core = drop middle.core
  settles : ∀ {middle : GuardRun ι α}, (run.step opening).Settles middle →
    run.Settles (middle.step closing)

theorem brackets_mask (run : GuardRun ι α) :
    run.Brackets .mask (.unmask run.session.interruptGuards.length)
      (Core.dropInterruptGuard (InterruptGuard.acquire run.core.status).1) := by
  have steps : ∀ {middle : GuardRun ι α}, (run.step .mask).Settles middle →
      middle.step (.unmask run.session.interruptGuards.length) =
        { middle with session := { middle.session with
          core := middle.core.dropInterruptGuard (InterruptGuard.acquire run.core.status).1
          interruptGuards :=
            middle.session.interruptGuards.set run.session.interruptGuards.length none } } := by
    intro middle settled
    have found : middle.session.interruptGuard? run.session.interruptGuards.length =
        some (InterruptGuard.acquire run.core.status).1 := settled.interruptGaps.found
    rw [step, found]
    rfl
  constructor
  · intro middle settled
    rw [steps settled]
    rfl
  · intro middle settled
    rw [steps settled]
    exact ⟨settled.interruptGaps.set_none, settled.lockGaps, settled.bodies,
      settled.drop_status rfl⟩

theorem brackets_lock {name : ι} (free : run.core.isLocked name = false) :
    run.Brackets (.lock name) (.unlock run.session.lockGuards.length)
      (Core.dropLockGuard (run.core.nextGuard name)) := by
  have opened : run.step (.lock name) = { run with session := run.session.taken name } := by
    rw [step_lock, free]
    rfl
  have steps : ∀ {middle : GuardRun ι α}, (run.step (.lock name)).Settles middle →
      middle.step (.unlock run.session.lockGuards.length) =
        { middle with session := { middle.session with
          core := middle.core.dropLockGuard (run.core.nextGuard name)
          lockGuards := middle.session.lockGuards.set run.session.lockGuards.length none } } := by
    intro middle settled
    rw [opened] at settled
    have found : middle.session.lockGuard? run.session.lockGuards.length =
        some (run.core.nextGuard name) := settled.lockGaps.found
    rw [step, found]
    rfl
  constructor
  · intro middle settled
    rw [steps settled]
    rfl
  · intro middle settled
    rw [steps settled]
    rw [opened] at settled
    exact ⟨settled.interruptGaps, settled.lockGaps.set_none, settled.bodies,
      settled.drop_status rfl⟩

theorem brackets_tryLock {name : ι} (free : run.core.isLocked name = false) :
    run.Brackets (.tryLock name) (.unlock run.session.lockGuards.length)
      (Core.dropLockGuard (run.core.nextGuard name)) := by
  have brackets := brackets_lock free
  constructor
  · rw [step_tryLock]
    exact brackets.core
  · rw [step_tryLock]
    exact brackets.settles

theorem brackets_enter {name : ι} (free : run.core.isLocked name = false) :
    run.Brackets (.enter name) .leave (Core.dropLockGuard (run.core.nextGuard name)) := by
  have opened : run.step (.enter name) = { run.withCore (run.core.taken name) with
      bodies := run.core.nextGuard name :: run.bodies } := by
    rw [step_enter, free]
    rfl
  have steps : ∀ {middle : GuardRun ι α}, (run.step (.enter name)).Settles middle →
      middle.step .leave = { middle.withCore
        (middle.core.dropLockGuard (run.core.nextGuard name)) with bodies := run.bodies } := by
    intro middle settled
    rw [opened] at settled
    rw [step, settled.bodies]
  constructor
  · intro middle settled
    rw [steps settled]
    rfl
  · intro middle settled
    rw [steps settled]
    rw [opened] at settled
    exact ⟨settled.interruptGaps, settled.lockGaps, rfl, settled.drop_status rfl⟩

/-! ## Traces -/

theorem stepAll_append (run : GuardRun ι α) (earlier later : List (GuardEvent ι α)) :
    run.stepAll (earlier ++ later) = (run.stepAll earlier).stepAll later :=
  List.foldl_append

theorem stepAll_within (run : GuardRun ι α) (opening closing : GuardEvent ι α)
    (body : GuardTrace ι α) : run.stepAll (body.within opening closing).events =
      ((run.step opening).stepAll body.events).step closing := by
  rw [GuardTrace.within, List.cons_append, stepAll, List.foldl_cons]
  exact stepAll_append _ _ _

theorem stepAll_after (run : GuardRun ι α) (earlier : List (GuardEvent ι α))
    (later : GuardTrace ι α) : run.stepAll (later.after earlier).events =
      (run.stepAll earlier).stepAll later.events :=
  stepAll_append _ _ _

theorem core_step_lock {name : ι} (free : run.core.isLocked name = false) :
    (run.step (.lock name)).core = run.core.taken name := by
  rw [step_lock, free]
  rfl

/-- An attempt to take a lock that is held leaves the run as it is. -/
theorem stepAll_refused {name : ι} (held : run.core.isLocked name = true) :
    run.stepAll [.lock name] = run ∧ run.stepAll [.tryLock name] = run ∧
      run.stepAll [.enter name] = run := by
  refine ⟨?_, ?_, ?_⟩
  · exact (run.step_lock name).trans (if_pos held)
  · exact (run.step_tryLock name).trans ((run.step_lock name).trans (if_pos held))
  · exact (run.step_enter name).trans (if_pos held)

end GuardRun

namespace GuardProgram

variable {ι α : Type} [DecidableEq ι]

open GuardRun

/-- A program leaves only dropped guards behind, and the status as it was. -/
theorem settles_trace (program : GuardProgram ι α) (run : GuardRun ι α) :
    run.Settles (run.stepAll (program.trace run).events) := by
  induction program generalizing run with
  | done => exact .refl run
  | panic cause => exact .refl run
  | observe next ih => exact ih run.core run
  | write name change =>
      change run.Settles (run.step (.write name change))
      rw [step]
      split
      · exact ⟨.refl _, .refl _, rfl, rfl⟩
      · exact .refl run
  | mask body ih =>
      -- The body leaves gaps behind the guard of the scope, so its number still finds it.
      rw [trace, stepAll_within]
      exact (brackets_mask run).settles (ih _)
  | lock name body ih =>
      rw [trace]
      cases held : run.core.isLocked name with
      | true =>
          rw [if_pos rfl, (stepAll_refused held).1]
          exact .refl run
      | false =>
          rw [if_neg Bool.false_ne_true, stepAll_within]
          exact (brackets_lock held).settles (ih _)
  | tryLock name taken refused takenIH refusedIH =>
      rw [trace]
      cases held : run.core.isLocked name with
      | true =>
          rw [if_pos rfl, stepAll_after, (stepAll_refused held).2.1]
          exact refusedIH run
      | false =>
          rw [if_neg Bool.false_ne_true, stepAll_within]
          exact (brackets_tryLock held).settles (takenIH _)
  | withLock name body ih =>
      rw [trace]
      cases held : run.core.isLocked name with
      | true =>
          rw [if_pos rfl, (stepAll_refused held).2.2]
          exact .refl run
      | false =>
          rw [if_neg Bool.false_ne_true, stepAll_within]
          exact (brackets_enter held).settles (ih _)
  | andThen first later firstIH laterIH =>
      rw [trace]
      split
      · rw [stepAll_after]
        exact (firstIH run).trans (laterIH _)
      · exact firstIH run
  | recover body handler bodyIH handlerIH =>
      rw [trace]
      split
      · rw [stepAll_after]
        exact (bodyIH run).trans (handlerIH _ _)
      · exact bodyIH run

/-- The action does what the events of the trace do. -/
theorem effect_perform (program : GuardProgram ι α) {run : GuardRun ι α} (owned : run.Owned) :
    program.perform.effect run.core =
      ((program.trace run).outcome, (run.stepAll (program.trace run).events).core) := by
  induction program generalizing run with
  | done => rfl
  | panic cause => rfl
  | observe next ih => exact ih run.core owned
  | write name change =>
      -- The event asks for a living guard of the lock, the action for the lock to be held.
      have agrees : run.lockGuards.any (·.name = name) = run.core.isLocked name := by
        rw [Bool.eq_iff_iff, List.any_eq_true, owned.held_iff, List.mem_map]
        simp only [decide_eq_true_eq]
      rw [perform, Action.effect_modify]
      change _ = (Outcome.value (), (run.step (.write name change)).core)
      rw [step, agrees]
      split <;> rfl
  | mask body ih =>
      rw [trace, stepAll_within, (brackets_mask run).core (body.settles_trace _), perform,
        Action.effect_bind, Core.effect_maskInterrupts]
      dsimp only
      have same := ih (owned.step .mask)
      have opened : (run.step .mask).core = run.core.masked := rfl
      rw [opened] at same
      rw [Action.effect_ensuring, same]
      rfl
  | lock name body ih =>
      rw [trace, perform, Action.effect_bind, Core.effect_acquire]
      cases held : run.core.isLocked name with
      | true =>
          rw [if_pos rfl, if_pos rfl, (stepAll_refused held).1]
      | false =>
          have same := ih (owned.step (.lock name))
          rw [core_step_lock held] at same
          rw [if_neg Bool.false_ne_true, if_neg Bool.false_ne_true, stepAll_within,
            (brackets_lock held).core (body.settles_trace _)]
          dsimp only
          rw [Action.effect_ensuring, same]
          rfl
  | tryLock name taken refused takenIH refusedIH =>
      rw [trace, perform, Action.effect_bind, Core.effect_tryLock]
      cases held : run.core.isLocked name with
      | true =>
          rw [if_pos rfl, if_pos rfl, stepAll_after, (stepAll_refused held).2.1]
          exact refusedIH owned
      | false =>
          have same := takenIH (owned.step (.tryLock name))
          rw [step_tryLock, core_step_lock held] at same
          rw [if_neg Bool.false_ne_true, if_neg Bool.false_ne_true, stepAll_within,
            (brackets_tryLock held).core (taken.settles_trace _)]
          dsimp only
          rw [Action.effect_ensuring, step_tryLock, same]
          rfl
  | withLock name body ih =>
      rw [trace, perform, Core.effect_withLock]
      cases held : run.core.isLocked name with
      | true =>
          rw [if_pos rfl, if_pos rfl, (stepAll_refused held).2.2]
      | false =>
          have same := ih (owned.step (.enter name))
          have opened : (run.step (.enter name)).core = run.core.taken name := by
            rw [step_enter, held]
            rfl
          rw [opened] at same
          rw [if_neg Bool.false_ne_true, if_neg Bool.false_ne_true, stepAll_within,
            (brackets_enter held).core (body.settles_trace _), same]
          rfl
  | andThen first later firstIH laterIH =>
      rw [trace, perform, Action.effect_bind, firstIH owned]
      rcases ended : (first.trace run).outcome with result | cause | cause
      · rw [stepAll_after]
        exact laterIH (owned.stepAll _)
      · exact congrArg (Prod.mk · _) ended.symm
      · exact congrArg (Prod.mk · _) ended.symm
  | recover body handler bodyIH handlerIH =>
      rw [trace, perform, Action.effect_recovering, bodyIH owned]
      rcases ended : (body.trace run).outcome with result | cause | cause
      · exact congrArg (Prod.mk · _) ended.symm
      · exact congrArg (Prod.mk · _) ended.symm
      · rw [stepAll_after]
        exact handlerIH cause (owned.stepAll _)

end GuardProgram

end Armv6Kernel
