import Armv6Kernel.Irq.Session
import Armv6Kernel.Proofs.Effect.Ending
import Mathlib.Data.List.Chain

/-!
# Runs with guards

A run makes and drops guards in any order.  The body of `withLock` is a part of the run: it begins
when the lock is taken and ends, by returning or by unwinding, when the guard that the body runs
under is dropped.  Between the two anything can happen, and bodies nest.  An event that takes
several steps has a point before each of them: so there is one between masking interrupts and taking
a lock, and one between freeing a lock and putting interrupts back.
-/

namespace Armv6Kernel

/-! ## Events -/

inductive GuardEvent (ι α : Type) where
  /-- A guard that masks interrupts is made. -/
  | mask
  | unmask (number : Nat)
  | lock (name : ι)
  | tryLock (name : ι)
  /-- The guard of a lock with the given number is dropped. -/
  | unlock (number : Nat)
  /-- A lock is taken for a body. -/
  | enter (name : ι)
  /-- The innermost body is over, and its guard is dropped. -/
  | leave
  /-- The value of a lock is changed through a guard of the lock. -/
  | write (name : ι) (change : α → α)

/-- A session and the guards of the bodies that run, the innermost one first. -/
structure GuardRun (ι α : Type) where
  session : GuardSession ι α
  bodies : List (LockGuard ι)

/-- A point of a run: the core, and the guards that mask interrupts, those in the guards of locks
included. -/
structure Moment (ι α : Type) where
  core : Core ι α
  guards : List InterruptGuard

namespace Moment

variable {ι α β : Type}

/-- The point at which one more guard masks interrupts. -/
def afterMask (moment : Moment ι α) : Moment ι α :=
  ⟨moment.core.masked, (InterruptGuard.acquire moment.core.status).1 :: moment.guards⟩

/-- The point at which a guard that masks interrupts is gone. -/
def afterRestore (moment : Moment ι α) (irq : InterruptGuard) : Moment ι α :=
  ⟨moment.core.dropInterruptGuard irq, moment.guards.erase irq⟩

variable [DecidableEq ι]

def afterTake (moment : Moment ι α) (name : ι) : Moment ι α :=
  { moment with core := moment.core.take name }

def afterFree (moment : Moment ι α) (name : ι) : Moment ι α :=
  { moment with core := moment.core.free name }

/-- The points at which the steps are taken.  Each step is the one that `Core.follow` takes. -/
def through : LockSteps ι β → Moment ι α → List (Moment ι α)
  | .done _, _ => []
  | .mask next, moment =>
      moment :: through (next (InterruptGuard.acquire moment.core.status).1) moment.afterMask
  | .take name next, moment =>
      moment :: through (next !moment.core.isLocked name) (moment.afterTake name)
  | .free name next, moment => moment :: through next (moment.afterFree name)
  | .restore irq next, moment => moment :: through next (moment.afterRestore irq)

end Moment

namespace GuardRun

variable {ι α ε β : Type} [DecidableEq ι]

/-- All locks are free and there are no guards. -/
def start (status : Word) (value : ι → α) : GuardRun ι α :=
  ⟨⟨⟨status, (Core.start value).lock⟩, [], []⟩, []⟩

def core (run : GuardRun ι α) : Core ι α :=
  run.session.core

def withCore (run : GuardRun ι α) (core : Core ι α) : GuardRun ι α :=
  { run with session := { run.session with core := core } }

/-- The guards of locks that have not been dropped. -/
def lockGuards (run : GuardRun ι α) : List (LockGuard ι) :=
  run.session.lockGuards.filterMap id ++ run.bodies

def moment (run : GuardRun ι α) : Moment ι α :=
  ⟨run.core, run.session.interruptGuards.filterMap id ++ run.lockGuards.map LockGuard.irq⟩

def onSession (run : GuardRun ι α) (action : Action (GuardSession ι α) Empty β) : GuardRun ι α :=
  { run with session := (action.run run.session).state }

/-- What an event makes of a run.  A guard that is not there cannot be dropped. -/
def step (run : GuardRun ι α) : GuardEvent ι α → GuardRun ι α
  | .mask => run.onSession GuardSession.maskInterrupts
  | .unmask number =>
      match run.session.interruptGuard? number with
      | some irq => run.onSession (GuardSession.dropInterruptGuard number irq)
      | none => run
  | .lock name => run.onSession (GuardSession.acquire name)
  | .tryLock name => run.onSession (GuardSession.tryLock name)
  | .unlock number =>
      match run.session.lockGuard? number with
      | some guard => run.onSession (GuardSession.dropLockGuard number guard)
      | none => run
  | .enter name =>
      match (Core.acquire name : Action (Core ι α) Empty (LockGuard ι)).effect run.core with
      | (.value guard, core) => { run.withCore core with bodies := guard :: run.bodies }
      | (_, core) => run.withCore core
  | .leave =>
      match run.bodies with
      | guard :: outer => { run.withCore (run.core.dropLockGuard guard) with bodies := outer }
      | [] => run
  | .write name change =>
      if run.lockGuards.any (·.name = name) then
        run.withCore (run.core.setValue name (change (run.core.value name)))
      else run

theorem core_step_leave {run : GuardRun ι α} {guard : LockGuard ι}
    {outer : List (LockGuard ι)} (running : run.bodies = guard :: outer) :
    (run.step .leave).core = run.core.dropLockGuard guard := by
  rw [step, running]
  rfl

def stepAll (run : GuardRun ι α) (events : List (GuardEvent ι α)) : GuardRun ι α :=
  events.foldl step run

/-- The points of an event: those at which its steps are taken, or else the one at which it
happens. -/
def points (run : GuardRun ι α) : GuardEvent ι α → List (Moment ι α)
  | .lock name | .tryLock name | .enter name => run.moment.through (.tryLock name)
  | .unlock number =>
      match run.session.lockGuard? number with
      | some guard => run.moment.through (.dropGuard guard)
      | none => [run.moment]
  | .leave =>
      match run.bodies with
      | guard :: _ => run.moment.through (.dropGuard guard)
      | [] => [run.moment]
  | _ => [run.moment]

/-- All points of a run. -/
def moments (run : GuardRun ι α) : List (GuardEvent ι α) → List (Moment ι α)
  | [] => [run.moment]
  | event :: later => run.points event ++ (run.step event).moments later

end GuardRun

/-! ## Masking and putting back -/

namespace BitField

/-- What is put into a field replaces what was put there before. -/
theorem put_put {width : Nat} (field : BitField width) (value former : BitVec width) (word : Word) :
    field.put value (field.put former word) = field.put value word := by
  apply BitVec.eq_of_getLsbD_eq
  intro index _
  simp only [getLsbD_put]
  split <;> rfl

theorem assign_test (field : BitField 1) (word : Word) :
    field.assign (field.test word) word = word := by
  have same : BitVec.ofBool (field.test word) = field.get word := by
    apply BitVec.eq_of_getLsbD_eq
    intro index below
    have first : index = 0 := by omega
    rw [first, test_eq_get, BitVec.getLsbD_ofBool]
    simp
  rw [assign, same, put_get]

end BitField

/-- Dropping a guard right after it was made changes nothing. -/
theorem InterruptGuard.drop_acquire (status : Word) :
    (acquire status).1.drop (acquire status).2 = status := by
  unfold acquire
  cases clear : ProgramStatus.interruptMask.test status with
  | true => simp [ProgramStatus.interruptsEnabled, clear, drop]
  | false =>
      have unmasked : ProgramStatus.interruptMask.assign false status = status := by
        have same := BitField.assign_test ProgramStatus.interruptMask status
        rw [clear] at same
        exact same
      simp only [ProgramStatus.interruptsEnabled, clear, Bool.not_false, if_true, drop,
        ProgramStatus.unmasked, ProgramStatus.masked, BitField.assign, BitField.put_put]
      exact unmasked

/-! ## The operations -/

namespace Core

variable {ι α ε β : Type} [DecidableEq ι] {core : Core ι α} {name : ι}

/-- The guard that the next lock gets. -/
def nextGuard (core : Core ι α) (name : ι) : LockGuard ι :=
  ⟨name, (InterruptGuard.acquire core.status).1⟩

/-- The core with a lock taken. -/
def taken (core : Core ι α) (name : ι) : Core ι α :=
  core.masked.setLock name { core.lock name with held := true }

theorem dropLockGuard_eq (guard : LockGuard ι) (core : Core ι α) :
    core.dropLockGuard guard = (core.free guard.name).dropInterruptGuard guard.irq :=
  rfl

theorem follow_tryLock (core : Core ι α) (name : ι) :
    follow (.tryLock name) core =
      if core.isLocked name then (none, core)
      else (some (core.nextGuard name), core.taken name) := by
  have sameLocks : core.masked.isLocked name = core.isLocked name := rfl
  rw [LockSteps.tryLock, follow, follow, take, sameLocks]
  cases core.isLocked name with
  | true =>
      have restored :
          core.masked.dropInterruptGuard (InterruptGuard.acquire core.status).1 = core := by
        simp only [masked, dropInterruptGuard, InterruptGuard.drop_acquire]
      exact congrArg (Prod.mk none) restored
  | false => rfl

theorem effect_perform (steps : LockSteps ι β) (core : Core ι α) :
    (perform steps : Action (Core ι α) ε β).effect core =
      (.value (follow steps core).1, (follow steps core).2) :=
  rfl

theorem effect_maskInterrupts (core : Core ι α) :
    (maskInterrupts : Action (Core ι α) ε InterruptGuard).effect core =
      (.value (InterruptGuard.acquire core.status).1, core.masked) :=
  rfl

theorem effect_tryLock (core : Core ι α) (name : ι) :
    (tryLock name : Action (Core ι α) ε (Option (LockGuard ι))).effect core =
      if core.isLocked name then (.value none, core)
      else (.value (some (core.nextGuard name)), core.taken name) := by
  rw [tryLock, effect_perform, follow_tryLock]
  split <;> rfl

theorem effect_acquire (core : Core ι α) (name : ι) :
    (acquire name : Action (Core ι α) ε (LockGuard ι)).effect core =
      if core.isLocked name then (.panic .lockReentered, core)
      else (.value (core.nextGuard name), core.taken name) := by
  unfold acquire
  rw [Action.effect_bind, effect_tryLock]
  cases core.isLocked name <;> rfl

/-- A body runs with the lock taken, and the lock is freed however the body ends. -/
theorem effect_withLock (core : Core ι α) (name : ι) (body : Action (Core ι α) ε β) :
    (withLock name body).effect core =
      if core.isLocked name then (.panic .lockReentered, core)
      else ((body.effect (core.taken name)).1,
        (body.effect (core.taken name)).2.dropLockGuard (core.nextGuard name)) := by
  unfold withLock
  rw [Action.effect_bind, effect_acquire]
  cases core.isLocked name <;> rfl

end Core

namespace GuardSession

variable {ι α ε : Type} [DecidableEq ι] {session : GuardSession ι α} {name : ι}

/-- The session after a lock has been taken. -/
def taken (session : GuardSession ι α) (name : ι) : GuardSession ι α :=
  { session with
    core := session.core.taken name
    lockGuards := session.lockGuards ++ [some (session.core.nextGuard name)] }

theorem effect_tryLock (session : GuardSession ι α) (name : ι) :
    (tryLock name : Action (GuardSession ι α) ε (Option α)).effect session =
      if session.core.isLocked name then (.value none, session)
      else (.value (some (session.core.value name)), session.taken name) := by
  unfold tryLock onCore
  rw [Action.effect_bind, Action.effect_onPart, Core.effect_tryLock]
  cases session.core.isLocked name with
  | true => rfl
  | false =>
      have sameValue : (session.core.taken name).value name = session.core.value name := by
        simp only [Core.value, Core.taken, Core.setLock, if_true]
      simp only [Bool.false_eq_true, if_false, keep, Action.effect_bind, Action.effect_modify,
        Action.effect_gets, Action.effect_pure]
      exact congrArg (fun value => (Outcome.value (some value), session.taken name)) sameValue

theorem effect_acquire (session : GuardSession ι α) (name : ι) :
    (acquire name : Action (GuardSession ι α) ε α).effect session =
      if session.core.isLocked name then (.panic .lockReentered, session)
      else (.value (session.core.value name), session.taken name) := by
  unfold acquire onCore
  rw [Action.effect_bind, Action.effect_onPart, Core.effect_acquire]
  cases session.core.isLocked name with
  | true => rfl
  | false =>
      have sameValue : (session.core.taken name).value name = session.core.value name := by
        simp only [Core.value, Core.taken, Core.setLock, if_true]
      simp only [Bool.false_eq_true, if_false, keep, Action.effect_bind, Action.effect_modify,
        Action.effect_gets]
      exact congrArg (fun value => (Outcome.value value, session.taken name)) sameValue

end GuardSession

/-! ## From point to point -/

/-- A guard is made, a guard is dropped, or interrupts and guards stay as they are. -/
inductive Moment.Moves {ι α : Type} (before after : Moment ι α) : Prop
  | made (status : after.core.status = (InterruptGuard.acquire before.core.status).2)
      (guards : after.guards.Perm
        ((InterruptGuard.acquire before.core.status).1 :: before.guards))
  | dropped {irq : InterruptGuard} (status : after.core.status = irq.drop before.core.status)
      (guards : before.guards.Perm (irq :: after.guards))
  | kept (status : after.core.status = before.core.status)
      (guards : after.guards.Perm before.guards)

namespace Moment

variable {ι α : Type} [DecidableEq ι] {start final : Moment ι α} {name : ι}

omit [DecidableEq ι] in
theorem moves_self (moment : Moment ι α) : moment.Moves moment :=
  .kept rfl (.refl _)

omit [DecidableEq ι] in
theorem moves_afterMask (moment : Moment ι α) : moment.Moves moment.afterMask :=
  .made rfl (.refl _)

theorem moves_afterFree (moment : Moment ι α) (name : ι) :
    moment.Moves (moment.afterFree name) :=
  .kept rfl (.refl _)

omit [DecidableEq ι] in
/-- A lock that was not free is not taken, and interrupts are put back. -/
theorem moves_of_refused (moment : Moment ι α) : moment.afterMask.Moves moment :=
  .dropped (InterruptGuard.drop_acquire _).symm (.refl _)

/-- An attempt to take a lock finds out after interrupts have been masked whether the lock is
free. -/
theorem through_tryLock (start : Moment ι α) (name : ι) :
    start.through (.tryLock name) =
      start :: start.afterMask ::
        if start.core.isLocked name then [start.afterMask] else [] := by
  have sameLocks : start.afterMask.core.isLocked name = start.core.isLocked name := rfl
  rw [LockSteps.tryLock, through, through, sameLocks]
  cases held : start.core.isLocked name with
  | true =>
      have refused : start.afterMask.afterTake name = start.afterMask := by
        rw [afterTake, Core.take, sameLocks, if_pos held]
      rw [refused]
      rfl
  | false => rfl

theorem through_dropGuard (start : Moment ι α) (guard : LockGuard ι) :
    start.through (.dropGuard guard) = [start, start.afterFree guard.name] :=
  rfl

theorem mem_through_tryLock {moment : Moment ι α}
    (member : moment ∈ start.through (.tryLock name)) :
    moment = start ∨ moment = start.afterMask := by
  rw [through_tryLock, List.mem_cons, List.mem_cons] at member
  rcases member with rfl | rfl | member
  · exact .inl rfl
  · exact .inr rfl
  · split at member
    · exact .inr (List.mem_singleton.mp member)
    · cases member

theorem mem_through_dropGuard {moment : Moment ι α} {guard : LockGuard ι}
    (member : moment ∈ start.through (.dropGuard guard)) :
    moment = start ∨ moment = start.afterFree guard.name := by
  rw [through_dropGuard, List.mem_cons, List.mem_singleton] at member
  exact member

theorem isChain_through_tryLock (settles : start.afterMask.Moves final) :
    (start.through (.tryLock name) ++ [final]).IsChain Moves := by
  rw [through_tryLock]
  split
  · exact .cons_cons start.moves_afterMask
      (.cons_cons start.afterMask.moves_self (.cons_cons settles (.singleton _)))
  · exact .cons_cons start.moves_afterMask (.cons_cons settles (.singleton _))

theorem isChain_through_dropGuard {guard : LockGuard ι}
    (settles : (start.afterFree guard.name).Moves final) :
    (start.through (.dropGuard guard) ++ [final]).IsChain Moves :=
  .cons_cons (start.moves_afterFree guard.name) (.cons_cons settles (.singleton _))

omit [DecidableEq ι] in
theorem isChain_single (settles : start.Moves final) : ([start] ++ [final]).IsChain Moves :=
  .cons_cons settles (.singleton _)

end Moment

section Lists

variable {γ : Type}

theorem perm_filterMap_set_none {slots : List (Option γ)} {number : Nat} {item : γ}
    (found : slots[number]?.join = some item) :
    (slots.filterMap id).Perm (item :: (slots.set number none).filterMap id) := by
  induction slots generalizing number with
  | nil => cases found
  | cons slot later ih =>
      cases number with
      | zero =>
          have here : slot = some item := found
          rw [here]
          exact .refl _
      | succ number =>
          have rest : (later.filterMap id).Perm (item :: (later.set number none).filterMap id) :=
            ih found
          cases slot with
          | none => exact rest
          | some other => exact (rest.cons other).trans (.swap _ _ _)

theorem perm_filterMap_concat (slots : List (Option γ)) (item : γ) :
    ((slots ++ [some item]).filterMap id).Perm (item :: slots.filterMap id) := by
  rw [List.filterMap_append]
  exact List.perm_append_singleton _ _

end Lists

namespace GuardRun

variable {ι α ε β : Type} [DecidableEq ι] {run : GuardRun ι α}

omit [DecidableEq ι] in
theorem perm_guards_cons {irqs : List InterruptGuard} {before after : List (LockGuard ι)}
    {guard : LockGuard ι} (guards : before.Perm (guard :: after)) :
    (irqs ++ before.map LockGuard.irq).Perm (guard.irq :: (irqs ++ after.map LockGuard.irq)) :=
  ((guards.map LockGuard.irq).append_left irqs).trans List.perm_middle

theorem moves_mask (run : GuardRun ι α) : run.moment.Moves (run.step .mask).moment := by
  refine .made rfl ?_
  exact (perm_filterMap_concat _ _).append_right _

theorem moves_unmask {number : Nat} {irq : InterruptGuard}
    (found : run.session.interruptGuard? number = some irq) :
    run.moment.Moves (run.step (.unmask number)).moment := by
  rw [step, found]
  refine .dropped rfl ?_
  exact (perm_filterMap_set_none found).append_right _

theorem step_lock (run : GuardRun ι α) (name : ι) :
    run.step (.lock name) = if run.core.isLocked name then run
      else { run with session := run.session.taken name } := by
  have effect := GuardSession.effect_acquire (ε := Empty) run.session name
  have final : run.step (.lock name) = { run with session :=
      ((GuardSession.acquire name : Action _ Empty α).effect run.session).2 } := rfl
  rw [final, effect, core]
  cases run.session.core.isLocked name <;> rfl

theorem step_tryLock (run : GuardRun ι α) (name : ι) :
    run.step (.tryLock name) = run.step (.lock name) := by
  have effect := GuardSession.effect_tryLock (ε := Empty) run.session name
  have final : run.step (.tryLock name) = { run with session :=
      ((GuardSession.tryLock name : Action _ Empty (Option α)).effect run.session).2 } := rfl
  rw [final, effect, step_lock, core]
  cases run.session.core.isLocked name <;> rfl

theorem step_enter (run : GuardRun ι α) (name : ι) :
    run.step (.enter name) = if run.core.isLocked name then run
      else { run.withCore (run.core.taken name) with
        bodies := run.core.nextGuard name :: run.bodies } := by
  rw [step, Core.effect_acquire]
  cases run.core.isLocked name <;> rfl

theorem moves_lock (run : GuardRun ι α) (name : ι) :
    run.moment.afterMask.Moves (run.step (.lock name)).moment := by
  rw [step_lock]
  split
  · exact run.moment.moves_of_refused
  · have kept := perm_filterMap_concat run.session.lockGuards (run.core.nextGuard name)
    exact .kept rfl (perm_guards_cons (kept.append_right run.bodies))

theorem moves_enter (run : GuardRun ι α) (name : ι) :
    run.moment.afterMask.Moves (run.step (.enter name)).moment := by
  rw [step_enter]
  split
  · exact run.moment.moves_of_refused
  · have kept : (run.session.lockGuards.filterMap id ++ run.core.nextGuard name :: run.bodies).Perm
        (run.core.nextGuard name :: run.lockGuards) := List.perm_middle
    exact .kept rfl (perm_guards_cons kept)

theorem moves_unlock {number : Nat} {guard : LockGuard ι}
    (found : run.session.lockGuard? number = some guard) :
    (run.moment.afterFree guard.name).Moves (run.step (.unlock number)).moment := by
  rw [step, found]
  refine .dropped rfl (perm_guards_cons ?_)
  exact (perm_filterMap_set_none found).append_right run.bodies

theorem moves_leave {guard : LockGuard ι} {outer : List (LockGuard ι)}
    (running : run.bodies = guard :: outer) :
    (run.moment.afterFree guard.name).Moves (run.step .leave).moment := by
  rw [step, running]
  refine .dropped rfl (perm_guards_cons ?_)
  rw [lockGuards, running]
  exact List.perm_middle

theorem moves_write (run : GuardRun ι α) (name : ι) (change : α → α) :
    run.moment.Moves (run.step (.write name change)).moment := by
  rw [step]
  split
  · exact .kept rfl (.refl _)
  · exact run.moment.moves_self

/-- An event moves from each of its points to the next, and from the last one to the point after
it. -/
theorem isChain_points (run : GuardRun ι α) (event : GuardEvent ι α) :
    (run.points event ++ [(run.step event).moment]).IsChain Moment.Moves := by
  cases event with
  | mask => exact Moment.isChain_single run.moves_mask
  | unmask number =>
      rcases found : run.session.interruptGuard? number with _ | irq
      · have stays : run.step (.unmask number) = run := by rw [step, found]
        rw [stays]
        exact Moment.isChain_single run.moment.moves_self
      · exact Moment.isChain_single (moves_unmask found)
  | lock name => exact Moment.isChain_through_tryLock (run.moves_lock name)
  | tryLock name =>
      rw [step_tryLock]
      exact Moment.isChain_through_tryLock (run.moves_lock name)
  | unlock number =>
      rcases found : run.session.lockGuard? number with _ | guard
      · have stays : run.step (.unlock number) = run := by rw [step, found]
        rw [stays, points, found]
        exact Moment.isChain_single run.moment.moves_self
      · rw [points, found]
        exact Moment.isChain_through_dropGuard (moves_unlock found)
  | enter name => exact Moment.isChain_through_tryLock (run.moves_enter name)
  | leave =>
      rcases running : run.bodies with _ | ⟨guard, outer⟩
      · have stays : run.step .leave = run := by rw [step, running]
        rw [stays, points, running]
        exact Moment.isChain_single run.moment.moves_self
      · rw [points, running]
        exact Moment.isChain_through_dropGuard (moves_leave running)
  | write name change => exact Moment.isChain_single (run.moves_write name change)

theorem points_eq_cons (run : GuardRun ι α) (event : GuardEvent ι α) :
    ∃ later, run.points event = run.moment :: later := by
  cases event with
  | unlock number =>
      rw [points]
      split <;> exact ⟨_, rfl⟩
  | leave =>
      rw [points]
      split <;> exact ⟨_, rfl⟩
  | _ => exact ⟨_, rfl⟩

/-! ## Runs -/

theorem moments_eq_cons (run : GuardRun ι α) (events : List (GuardEvent ι α)) :
    ∃ later, run.moments events = run.moment :: later := by
  cases events with
  | nil => exact ⟨[], rfl⟩
  | cons event later =>
      obtain ⟨rest, same⟩ := run.points_eq_cons event
      exact ⟨rest ++ (run.step event).moments later, by rw [moments, same, List.cons_append]⟩

theorem moment_stepAll_mem (run : GuardRun ι α) (events : List (GuardEvent ι α)) :
    (run.stepAll events).moment ∈ run.moments events := by
  induction events generalizing run with
  | nil => exact List.mem_singleton_self _
  | cons event later ih => exact List.mem_append_right _ (ih (run.step event))

/-- The points of a run are linked by moves. -/
theorem isChain_moments (run : GuardRun ι α) (events : List (GuardEvent ι α)) :
    (run.moments events).IsChain Moment.Moves := by
  induction events generalizing run with
  | nil => exact .singleton _
  | cons event later ih =>
      have chain := ih (run.step event)
      obtain ⟨rest, same⟩ := (run.step event).moments_eq_cons later
      rw [same] at chain
      rw [moments, same, List.append_cons]
      exact (run.isChain_points event).append_overlap chain (List.cons_ne_nil _ _)

/-- What a body does, put between taking the lock and freeing it, is what `withLock` does. -/
theorem core_stepAll_withLock (run : GuardRun ι α) (name : ι) (body : Action (Core ι α) ε β)
    (events : List (GuardEvent ι α)) (free : run.core.isLocked name = false)
    (same : ((run.step (.enter name)).stepAll events).core =
      (body.effect (run.core.taken name)).2)
    (balanced : ((run.step (.enter name)).stepAll events).bodies =
      (run.step (.enter name)).bodies) :
    (run.stepAll (.enter name :: events ++ [.leave])).core =
      ((Core.withLock name body).effect run.core).2 := by
  have entered : (run.step (.enter name)).bodies = run.core.nextGuard name :: run.bodies := by
    rw [step_enter, free]
    rfl
  have split : run.stepAll (.enter name :: events ++ [.leave]) =
      ((run.step (.enter name)).stepAll events).step .leave := by
    simp only [stepAll, List.cons_append, List.foldl_cons, List.foldl_append, List.foldl_nil]
  rw [split, core_step_leave (balanced.trans entered), same, Core.effect_withLock, free]
  rfl

end GuardRun

end Armv6Kernel
