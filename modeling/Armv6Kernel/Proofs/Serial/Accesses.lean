import Armv6Kernel.Proofs.Effect.Ending
import Armv6Kernel.Serial.MiniUart

/-!
# Accesses on the register bus

What single accesses do to the bus, and how the accesses of a run are looked at afterwards: which
register each of them was to, and what was written.
-/

namespace Armv6Kernel

namespace BusEvent

/-- The register that was read or written. -/
def address? : BusEvent → Option PhysicalAddress
  | read address _ => some address
  | write address _ => some address
  | barrier => none

/-- What was written to a register. -/
def written? (address : PhysicalAddress) : BusEvent → Option Word
  | write other value => if other = address then some value else none
  | _ => none

end BusEvent

namespace RegisterBus

variable {bus : RegisterBus} {address : PhysicalAddress}

theorem answer_of_ne (steady : address ≠ lineStatusRegister) :
    bus.answer address = bus.registers address :=
  if_neg steady

theorem afterRead_of_ne (steady : address ≠ lineStatusRegister) :
    bus.afterRead address = bus.record (.read address (bus.registers address)) := by
  rw [afterRead, answer_of_ne steady, if_neg steady]

theorem answer_lineStatus : bus.answer lineStatusRegister = bus.lineStatus bus.statusReads :=
  if_pos rfl

end RegisterBus

namespace MiniUart

variable {ε : Type} (bus : RegisterBus) (address : Nat)

@[simp]
theorem effect_read :
    (read address : Action RegisterBus ε Word).effect bus =
      (.value (bus.answer (.ofNat address)), bus.afterRead (.ofNat address)) := rfl

@[simp]
theorem effect_write (value : Word) :
    (write address value : Action RegisterBus ε Unit).effect bus =
      (.value (), bus.afterWrite (.ofNat address) value) := rfl

@[simp]
theorem effect_deviceBarrier :
    (deviceBarrier : Action RegisterBus ε Unit).effect bus = (.value (), bus.record .barrier) := rfl

@[simp]
theorem effect_update (change : Word → Word) :
    (update address change : Action RegisterBus ε Unit).effect bus =
      (.value (), (bus.afterRead (.ofNat address)).afterWrite (.ofNat address)
        (change (bus.answer (.ofNat address)))) := rfl

end MiniUart

end Armv6Kernel
