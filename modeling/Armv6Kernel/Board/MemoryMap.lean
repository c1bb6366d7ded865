/-!
# The memory map of the board

The layout of the low four megabytes, which the kernel maps onto themselves, and the addresses of
the device registers.

* The exception vectors lie at zero and the kernel image at `kernelBase`.
* The stacks of the exception modes end at `callStackTop` and `interruptStackTop`.
* The heap grows up from `heapStart` and may reach `heapLimit`.
* The system stack grows down from `systemStackTop`; its pages are mapped on demand.
-/

namespace Armv6Kernel.MemoryMap

def sectionBytes : Nat := 0x00100000

def kernelBase : Nat := 0x8000

def userProgramBase : Nat := 0x00408000

def callStackTop : Nat := 0x00120000

def interruptStackTop : Nat := 0x00130000

def systemStackTop : Nat := 0x00400000

def heapStart : Nat := 0x00140000

/-- The first address of user programs. -/
def userSpaceStart : Nat := 0x00400000

def heapLimit : Nat := 0x00300000

/-- The upper bound of the window in which the stack may grow. -/
def stackWindowTop : Nat := systemStackTop

def peripheralBase : Nat := 0x20000000

/-- The start of the section that holds the pin controller and the serial line. -/
def gpioBase : Nat := 0x20200000

def interruptDisableLow : Nat := 0x2000B21C

def interruptDisableHigh : Nat := 0x2000B220

def uartData : Nat := 0x20215040

def uartLineStatus : Nat := 0x20215054

theorem regions_ordered :
    callStackTop < interruptStackTop ∧ interruptStackTop < heapStart ∧ heapStart < heapLimit ∧
      heapLimit ≤ systemStackTop ∧ systemStackTop ≤ userSpaceStart ∧
      userSpaceStart < userProgramBase := by
  decide

end Armv6Kernel.MemoryMap
