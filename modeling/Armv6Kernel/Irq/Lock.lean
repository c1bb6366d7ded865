import Armv6Kernel.Effect.Action
import Armv6Kernel.Irq.Mask

/-!
# Locks on a single core

A lock guards a value that exception handlers share with the code they interrupt.  Taking it masks
interrupts, so a lock that is found taken was taken by the same chain of calls, and that panics.
Dropping the guard frees the lock first and then restores the interrupt mask.  A core has any number
of locks, named by the values of a type.

Taking a lock and dropping its guard are given as sequences of steps, so that the points between the
steps can be told as well as the result.
-/

namespace Armv6Kernel

/-- A lock and the value that it guards. -/
structure IrqLock (α : Type) where
  held : Bool
  value : α
  deriving DecidableEq, Repr

/-- A core: its program status and its locks. -/
structure Core (ι α : Type) where
  status : Word
  lock : ι → IrqLock α

/-- The right to use the value of a lock. -/
structure LockGuard (ι : Type) where
  name : ι
  irq : InterruptGuard
  deriving DecidableEq, Repr

/-! ## Steps -/

/-- A sequence of steps on a core.  What follows a step may depend on what the step found. -/
inductive LockSteps (ι β : Type) where
  | done (result : β)
  /-- A guard is made that masks interrupts. -/
  | mask (next : InterruptGuard → LockSteps ι β)
  /-- A lock is taken if it is free. -/
  | take (name : ι) (next : Bool → LockSteps ι β)
  | free (name : ι) (next : LockSteps ι β)
  /-- A guard that masks interrupts is dropped. -/
  | restore (irq : InterruptGuard) (next : LockSteps ι β)

namespace LockSteps

variable {ι : Type}

/-- Takes a lock if it is free.  If it is not, interrupts are put back. -/
def tryLock (name : ι) : LockSteps ι (Option (LockGuard ι)) :=
  .mask fun irq => .take name fun taken =>
    if taken then .done (some ⟨name, irq⟩) else .restore irq (.done none)

/-- Drops the guard of a lock: the lock is freed, then the mask restored. -/
def dropGuard (guard : LockGuard ι) : LockSteps ι Unit :=
  .free guard.name (.restore guard.irq (.done ()))

end LockSteps

namespace Core

variable {ι α ε β : Type} [DecidableEq ι]

/-- A core with interrupts enabled and all locks free. -/
def start (value : ι → α) : Core ι α :=
  ⟨0, fun name => ⟨false, value name⟩⟩

def setLock (name : ι) (lock : IrqLock α) (core : Core ι α) : Core ι α :=
  { core with lock := fun other => if other = name then lock else core.lock other }

def isLocked (core : Core ι α) (name : ι) : Bool :=
  (core.lock name).held

def value (core : Core ι α) (name : ι) : α :=
  (core.lock name).value

def setValue (name : ι) (value : α) (core : Core ι α) : Core ι α :=
  core.setLock name { core.lock name with value := value }

/-- The core with interrupts masked. -/
def masked (core : Core ι α) : Core ι α :=
  { core with status := (InterruptGuard.acquire core.status).2 }

/-- The core after an attempt to take a lock. -/
def take (name : ι) (core : Core ι α) : Core ι α :=
  if core.isLocked name then core
  else core.setLock name { core.lock name with held := true }

/-- The core with a lock freed. -/
def free (name : ι) (core : Core ι α) : Core ι α :=
  core.setLock name { core.lock name with held := false }

/-- The core after a guard that masks interrupts is dropped. -/
def dropInterruptGuard (irq : InterruptGuard) (core : Core ι α) : Core ι α :=
  { core with status := irq.drop core.status }

/-- What the steps come to, and the core they leave. -/
def follow : LockSteps ι β → Core ι α → β × Core ι α
  | .done result, core => (result, core)
  | .mask next, core => follow (next (InterruptGuard.acquire core.status).1) core.masked
  | .take name next, core => follow (next !core.isLocked name) (core.take name)
  | .free name next, core => follow next (core.free name)
  | .restore irq next, core => follow next (core.dropInterruptGuard irq)

/-- The action that takes the steps. -/
def perform (steps : LockSteps ι β) : Action (Core ι α) ε β := do
  let (result, after) := follow steps (← Action.get)
  Action.modify fun _ => after
  pure result

def maskInterrupts : Action (Core ι α) ε InterruptGuard :=
  perform (.mask .done)

/-- The core after the guard of a lock is dropped. -/
def dropLockGuard (guard : LockGuard ι) (core : Core ι α) : Core ι α :=
  (follow (.dropGuard guard) core).2

def tryLock (name : ι) : Action (Core ι α) ε (Option (LockGuard ι)) :=
  perform (.tryLock name)

/-- Takes a lock; panics if it is held. -/
def acquire (name : ι) : Action (Core ι α) ε (LockGuard ι) := do
  match ← tryLock name with
  | some guard => pure guard
  | none => Action.panic .lockReentered

/-- Runs an action while a lock is held.  The lock is freed however the action ends. -/
def withLock (name : ι) (body : Action (Core ι α) ε β) : Action (Core ι α) ε β := do
  let guard ← acquire name
  body.ensuring (dropLockGuard guard)

def onValue (name : ι) (action : Action α ε β) : Action (Core ι α) ε β :=
  action.onPart (·.value name) (setValue name)

end Core

end Armv6Kernel
