import Armv6Kernel.Irq.Lock

/-!
# Sessions with guards

A session keeps a core together with the guards made on it, numbered in the order in which they were
made.  A dropped guard leaves a gap, so no number is used twice.
-/

namespace Armv6Kernel

/-- A core and the guards made on it. -/
structure GuardSession (ι α : Type) where
  core : Core ι α
  interruptGuards : List (Option InterruptGuard)
  /-- The guards of locks; a gap stands for a dropped one. -/
  lockGuards : List (Option (LockGuard ι))

namespace GuardSession

variable {ι α ε β : Type} [DecidableEq ι]

def start (value : ι → α) : GuardSession ι α :=
  ⟨Core.start value, [], []⟩

def onCore (action : Action (Core ι α) ε β) : Action (GuardSession ι α) ε β :=
  action.onPart (·.core) fun core session => { session with core := core }

/-- The guard that masks interrupts with the given number, if it has not been dropped. -/
def interruptGuard? (session : GuardSession ι α) (number : Nat) : Option InterruptGuard :=
  session.interruptGuards[number]?.join

/-- The guard of a lock with the given number, if it has not been dropped. -/
def lockGuard? (session : GuardSession ι α) (number : Nat) : Option (LockGuard ι) :=
  session.lockGuards[number]?.join

/-- Whether a guard of a lock is alive. -/
def holdsLock (session : GuardSession ι α) : Bool :=
  session.lockGuards.any Option.isSome

def maskInterrupts : Action (GuardSession ι α) ε InterruptGuard := do
  let irq ← onCore Core.maskInterrupts
  Action.modify fun session =>
    { session with interruptGuards := session.interruptGuards ++ [some irq] }
  pure irq

def keep (guard : LockGuard ι) : Action (GuardSession ι α) ε α := do
  Action.modify fun session => { session with lockGuards := session.lockGuards ++ [some guard] }
  Action.gets fun session => session.core.value guard.name

/-- Takes a lock and reads its value; panics if the lock is held. -/
def acquire (name : ι) : Action (GuardSession ι α) ε α := do
  keep (← onCore (Core.acquire name))

/-- Takes a lock and reads its value if the lock is free. -/
def tryLock (name : ι) : Action (GuardSession ι α) ε (Option α) := do
  match ← onCore (Core.tryLock name) with
  | some guard =>
      let value ← keep guard
      pure (some value)
  | none => pure none

def dropInterruptGuard (number : Nat) (irq : InterruptGuard) : Action (GuardSession ι α) ε Unit :=
  Action.modify fun session => { session with
    core := session.core.dropInterruptGuard irq
    interruptGuards := session.interruptGuards.set number none }

def dropLockGuard (number : Nat) (guard : LockGuard ι) : Action (GuardSession ι α) ε Unit :=
  Action.modify fun session => { session with
    core := session.core.dropLockGuard guard
    lockGuards := session.lockGuards.set number none }

/-- The core after the remaining guards have been dropped, first those that mask interrupts, then
those of locks, each in the order in which they were made. -/
def close (session : GuardSession ι α) : Core ι α :=
  let unmasked := (session.interruptGuards.filterMap id).foldl
    (fun core irq => core.dropInterruptGuard irq) session.core
  (session.lockGuards.filterMap id).foldl (fun core guard => core.dropLockGuard guard) unmasked

end GuardSession

end Armv6Kernel
