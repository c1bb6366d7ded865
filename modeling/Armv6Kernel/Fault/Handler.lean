import Armv6Kernel.Fault.Classify
import Armv6Kernel.VirtualMemory.Lifecycle

/-!
# Handling data aborts

An abort in the stack window is resolved by mapping its page onto itself in the active environment,
so that the access can be tried again.  Every other abort is fatal.
-/

namespace Armv6Kernel

/-- What was done to resolve an abort. -/
inductive FaultResolution where
  /-- The page was mapped onto itself. -/
  | stackGrown (page : VirtualAddress) (descriptor : SmallPageDescriptor)
  deriving DecidableEq, Repr

def FaultResolution.inspect : FaultResolution → String
  | stackGrown page descriptor =>
      Record.named "StackGrown"
        [("page", page.inspect), ("descriptor", descriptor.inspect)]

namespace VirtualMemory

/-- The part of the kernel that the abort handler logs as. -/
def faultLogTarget : String := "kernel_vmm::fault"

/-- Whether a page is mapped in a tree, by a section or otherwise. -/
def isMapped (memory : PhysicalMemory) (space : AddressSpace) (page : VirtualAddress) :
    Except Panic Bool := do
  let first ← space.firstLevelSlot memory page
  match first.firstLevelEntry with
  | .section1M _ => .ok true
  | _ =>
      let target ← space.translate memory page
      .ok target.isSome

/-- Maps a page of the stack of the active environment onto itself. -/
def growStack (page : VirtualAddress) : Action VirtualMemory FatalReason FaultResolution := do
  let state ← Action.get
  match ← Action.ofExcept state.activeEnvironment? with
  | none => Action.fail .noActiveEnvironment
  | some environment =>
      let space ← Action.ofExcept (state.addressSpace environment.id)
      if ← Action.ofExcept (isMapped state.memory space page) then
        Action.fail (.alreadyMapped page)
      else
        let descriptor ←
          (mapSmallPage environment.id page ⟨page.word⟩ .kernel).mapError .outOfMemory
        onRegisters Mmu.syncTables
        Action.log .info faultLogTarget
          ("stack grown: " ++ page.display ++ " mapped for pid " ++
            toString environment.process.toNat)
        pure (.stackGrown page descriptor)

/-- Resolves what an abort asks for, or names the reason why that cannot be done. -/
def resolve : FaultClass → Action VirtualMemory FatalReason FaultResolution
  | .stackGrowth page => growStack page
  | .fatal reason => Action.fail reason

/-- Handles the data abort that stopped the instruction at `pc`. -/
def handleDataAbort (pc : Word) : Action VirtualMemory FatalFault FaultResolution := do
  let state ← Action.get
  let abort := DataAbort.decode pc state.registers.faultStatus state.registers.faultAddress
  Action.log .warn faultLogTarget abort.display
  let verdict := abort.classify state.heap.heapStart state.heap.heapEnd state.config.stackTop
  ((resolve verdict).mapError (FatalFault.mk abort)).reporting fun fault =>
    ⟨.error, faultLogTarget, fault.display⟩

end VirtualMemory

end Armv6Kernel
