import Armv6Kernel.Address.Basic
import Armv6Kernel.Board.MemoryMap

/-!
# The register bus

Device registers are words at fixed addresses.  The line status register is the one register that
changes by itself: its answers follow a pattern, one for each read.  The bus keeps the sequence of
accesses, so that their order can be stated.
-/

namespace Armv6Kernel

abbrev DeviceRegisters := PhysicalAddress → Word

namespace DeviceRegisters

def write (registers : DeviceRegisters) (address : PhysicalAddress) (value : Word) :
    DeviceRegisters :=
  fun other => if other = address then value else registers other

/-- The registers that hold the listed values, the later of two at the same address, and zero
elsewhere. -/
def ofList (values : List (PhysicalAddress × Word)) : DeviceRegisters :=
  values.foldl (fun registers (address, value) => registers.write address value) fun _ => 0

end DeviceRegisters

/-- An access on the register bus. -/
inductive BusEvent where
  | read (address : PhysicalAddress) (value : Word)
  /-- A register was written. -/
  | write (address : PhysicalAddress) (value : Word)
  /-- Accesses before it were completed before those after it. -/
  | barrier
  deriving DecidableEq, Repr

/-- The register bus of the serial line. -/
structure RegisterBus where
  registers : DeviceRegisters
  lineStatus : Nat → Word
  /-- The number of reads of the line status register so far. -/
  statusReads : Nat
  /-- The accesses so far, oldest first. -/
  accesses : List BusEvent

namespace RegisterBus

def lineStatusRegister : PhysicalAddress :=
  .ofNat MemoryMap.uartLineStatus

def idle (registers : DeviceRegisters) (lineStatus : Nat → Word) : RegisterBus :=
  ⟨registers, lineStatus, 0, []⟩

def forget (bus : RegisterBus) : RegisterBus :=
  { bus with accesses := [] }

def record (bus : RegisterBus) (event : BusEvent) : RegisterBus :=
  { bus with accesses := bus.accesses ++ [event] }

def answer (bus : RegisterBus) (address : PhysicalAddress) : Word :=
  if address = lineStatusRegister then bus.lineStatus bus.statusReads else bus.registers address

def afterRead (bus : RegisterBus) (address : PhysicalAddress) : RegisterBus :=
  let counted :=
    if address = lineStatusRegister then { bus with statusReads := bus.statusReads + 1 } else bus
  counted.record (.read address (bus.answer address))

def afterWrite (bus : RegisterBus) (address : PhysicalAddress) (value : Word) : RegisterBus :=
  { bus with registers := bus.registers.write address value }.record (.write address value)

end RegisterBus

end Armv6Kernel
