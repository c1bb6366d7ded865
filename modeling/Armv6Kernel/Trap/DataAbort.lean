import Armv6Kernel.Fault.Handler
import Armv6Kernel.Irq.Lock

/-!
# The data abort trap

Virtual memory is shared between the kernel and the trap through a lock, and is absent until it has
been set up.  The trap takes the lock, handles the abort, and panics if that fails.
-/

namespace Armv6Kernel

/-- Handles a data abort on virtual memory that may not have been set up yet. -/
def VirtualMemory.serviceUnlocked {ε : Type} (pc : Word) :
    Action (Option VirtualMemory) ε FaultResolution :=
  fun state =>
    match state with
    | none => ⟨.panic (.abortBeforeSetup pc), none, []⟩
    | some virtualMemory =>
        let handled := (VirtualMemory.handleDataAbort pc).run virtualMemory
        let outcome :=
          match handled.outcome with
          | .value resolution => .value resolution
          | .error fault => .panic (.fatalAbort fault)
          | .panic cause => .panic cause
        ⟨outcome, some handled.state, handled.log⟩

/-- Handles the data abort that stopped the instruction at `pc` while holding the lock of virtual
memory. -/
def VirtualMemory.serviceDataAbort {ι ε : Type} [DecidableEq ι] (name : ι) (pc : Word) :
    Action (Core ι (Option VirtualMemory)) ε FaultResolution :=
  Core.withLock name (Core.onValue name (serviceUnlocked pc))

/-- Ends the run because of an exception without a handler. -/
def Exception.unhandled {σ ε α : Type} (exception : Exception) (pc : Word) : Action σ ε α :=
  Action.panic (.unhandledException exception pc)

end Armv6Kernel
