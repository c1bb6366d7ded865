import Armv6Kernel.Bits.Word

/-!
# Masking interrupts

Interrupts are masked while one bit of the program status register is set.  A guard masks them and
remembers whether they were masked before; dropping it unmasks them only if they were not, so nested
guards leave the outer state alone.
-/

namespace Armv6Kernel

namespace ProgramStatus

def interruptMask : BitField 1 := ⟨7⟩

def interruptsEnabled (status : Word) : Bool :=
  !interruptMask.test status

def masked (status : Word) : Word :=
  interruptMask.assign true status

def unmasked (status : Word) : Word :=
  interruptMask.assign false status

end ProgramStatus

/-- The memory of a guard that masks interrupts. -/
structure InterruptGuard where
  /-- Whether interrupts were not masked when the guard was made, so that dropping it unmasks
  them. -/
  restores : Bool
  deriving DecidableEq, Repr

namespace InterruptGuard

/-- Masks interrupts and remembers how they were. -/
def acquire (status : Word) : InterruptGuard × Word :=
  if ProgramStatus.interruptsEnabled status then
    (⟨true⟩, ProgramStatus.masked status)
  else
    (⟨false⟩, status)

/-- Puts interrupts back to how they were. -/
def drop (irq : InterruptGuard) (status : Word) : Word :=
  if irq.restores then ProgramStatus.unmasked status else status

end InterruptGuard

end Armv6Kernel
