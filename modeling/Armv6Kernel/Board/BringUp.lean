import Armv6Kernel.VirtualMemory.Lifecycle

/-!
# Bringing the kernel up

The kernel runs in one environment that maps it onto itself.  Its sections and the top pages of its
stack are mapped before the MMU goes on; the rest of the stack grows through data aborts.
-/

namespace Armv6Kernel

/-- A section that is mapped onto itself. -/
structure IdentitySection where
  base : Nat
  flags : MapFlags
  name : String
  deriving DecidableEq, Repr

namespace VirtualMemory

def bringUpLogTarget : String := "kernel::boot"

def identitySections : List IdentitySection := [
  ⟨0x00000000, .kernel, "vectors and kernel image"⟩,
  ⟨0x00100000, .kernel, "exception stacks and heap"⟩,
  ⟨0x00200000, .kernel, "heap"⟩,
  ⟨MemoryMap.peripheralBase, .device, "peripherals"⟩,
  ⟨MemoryMap.gpioBase, .device, "GPIO and mini UART"⟩]

def initialStackPages : Nat := 4

/-- The stack pages that are mapped before the MMU goes on, topmost first. -/
def initialStack : List Nat :=
  (List.range initialStackPages).map fun page =>
    MemoryMap.systemStackTop - (page + 1) * Granule.page4K.bytes

/-- Maps one of the kernel's sections. -/
def mapIdentitySection (id : EnvironmentId) (region : IdentitySection) :
    Action VirtualMemory AllocationError Unit := do
  Action.log .debug bringUpLogTarget
    ("identity-mapping " ++ Numeral.hexWord region.base ++ ": " ++ region.name)
  let _ ← mapSection id (.ofNat region.base) (.ofNat region.base) region.flags
  pure ()

/-- Maps one page of the kernel's stack. -/
def mapStackPage (id : EnvironmentId) (page : Nat) :
    Action VirtualMemory AllocationError Unit := do
  let _ ← (mapSmallPage id (.ofNat page) (.ofNat page) .kernel).mapError .map
  pure ()

/-- Makes the kernel's environment with its sections and the top of its stack. -/
def mapKernel : Action VirtualMemory AllocationError EnvironmentId := do
  let id ← allocate
  identitySections.forM (mapIdentitySection id)
  initialStack.forM (mapStackPage id)
  pure id

/-- Makes the kernel's environment, installs it and turns the MMU on. -/
def bringUp : Action VirtualMemory AllocationError EnvironmentId := do
  let id ← mapKernel
  switchTo id
  let heap ← Action.gets (·.heap)
  Action.log .info bringUpLogTarget
    ("MMU on, environment " ++ toString id.slot ++ " active; heap " ++ heap.heapStart.display ++
      ".." ++ heap.heapEnd.display)
  pure id

end VirtualMemory

end Armv6Kernel
