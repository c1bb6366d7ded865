import Armv6Kernel.Effect.Action
import Armv6Kernel.Mmu.Registers

/-!
# Controlling the MMU

The sequences that turn translation and the caches on and off and that install another address
space.  Every write of the control register is a read-modify-write, so bits that a sequence does not
name keep their values.
-/

namespace Armv6Kernel.Mmu

variable {ε : Type}

def logTarget : String := "kernel_vmm::mmu"

/-- Adds a maintenance operation to the history. -/
def perform (event : RegisterEvent) : Action SystemRegisters ε Unit :=
  Action.modify (·.record event)

def writeControl (value : SystemControl) : Action SystemRegisters ε Unit :=
  Action.modify (·.setControl value)

def readControl : Action SystemRegisters ε SystemControl :=
  Action.gets (·.control)

/-- Drops everything that caches, translation buffer and branch predictor hold, then selects the
extended descriptor format. -/
def init : Action SystemRegisters ε Unit := do
  perform .cleanInvalidateDataCache
  perform .invalidateInstructionCache
  perform .flushBranchTargets
  perform .invalidateTlb
  perform .barrier
  let control ← readControl
  let extended := control.withExtendedPageTables true
  writeControl extended
  perform .barrier
  Action.log .info logTarget
    ("mmu initialized, control " ++ Numeral.hexWord extended.word.toNat)

/-- Turns translation on; panics if it is on. -/
def enable : Action SystemRegisters ε Unit := do
  let control ← readControl
  Action.assert (!control.mmuIsOn) .mmuAlreadyOn
  perform .invalidateTlb
  perform .barrier
  writeControl (control.withMmu true)
  perform .barrier
  Action.log .info logTarget "mmu on"

/-- Turns translation and the data cache off and drops what the caches hold, so that nothing stale
survives; panics if translation is off. -/
def disable : Action SystemRegisters ε Unit := do
  let control ← readControl
  Action.assert control.mmuIsOn .mmuAlreadyOff
  writeControl ((control.withMmu false).withDataCache false)
  perform .barrier
  perform .cleanInvalidateDataCache
  perform .invalidateInstructionCache
  perform .invalidateTlb
  perform .barrier
  Action.log .info logTarget "mmu off"

/-- Turns all caches, the write buffer and branch prediction on. -/
def cachesOn : Action SystemRegisters ε Unit := do
  let control ← readControl
  writeControl (control.withAllCaches true)
  perform .barrier
  Action.log .debug logTarget "caches on"

/-- Turns all caches, the write buffer and branch prediction off and drops what the caches hold. -/
def cachesOff : Action SystemRegisters ε Unit := do
  let control ← readControl
  writeControl (control.withAllCaches false)
  perform .barrier
  perform .cleanInvalidateDataCache
  perform .invalidateInstructionCache
  perform .barrier
  Action.log .debug logTarget "caches off"

/-- Installs an address space.  The context register holds the reserved value while the table
changes, so the translation buffer cannot pair the new identifier with the old table. -/
def install (access : DomainAccessControl) (table : TranslationTableBase) (context : ContextId) :
    Action SystemRegisters ε Unit := do
  Action.modify (·.setDomainAccess access)
  Action.modify (·.setContextId .reserved)
  perform .barrier
  Action.modify (·.setTableBase table)
  perform .barrier
  Action.modify (·.setContextId context)
  perform .barrier

/-- Makes writes to translation tables visible to the table walk of the processor. -/
def syncTables : Action SystemRegisters ε Unit := do
  perform .cleanInvalidateDataCache
  perform .barrier

end Armv6Kernel.Mmu
