import Armv6Kernel.Effect.Action
import Armv6Kernel.Serial.Bus

/-!
# The serial line

The polled serial line on pins 14 and 15 at 115200 baud with eight data bits.  Sending and receiving
wait until the line status allows it.  A wait reads the line status at most as often as its patience
allows and then gives up as stalled, so every operation ends.
-/

namespace Armv6Kernel

/-- A wait read the line status as often as its patience allowed, and it never became ready. -/
inductive Stalled where
  /-- The wait gave up. -/
  | stalled
  deriving DecidableEq, Repr

namespace MiniUart

variable {ε : Type}

/-- The register that switches the auxiliary devices on. -/
def enables : Nat := 0x20215004

/-- The interrupt identification register, which also clears the queues. -/
def interruptIdentification : Nat := 0x20215048

def lineControl : Nat := 0x2021504C

def control : Nat := 0x20215060

def baudRate : Nat := 0x20215068

def enableBit : Word := 1

def receiveReady : Word := 1 <<< 0

def transmitEmpty : Word := 1 <<< 5

/-- The line status while a byte has been received and another one can be sent. -/
def idleStatus : Word := receiveReady ||| transmitEmpty

def transceiverBits : Word := 1 <<< 0 ||| 1 <<< 1

def clearQueues : Word := 0b11 <<< 1

def eightBits : Word := 0b11

/-- The divisor for 115200 baud: 250 MHz / (8 * (270 + 1)). -/
def baud115200 : Word := 270

def transmitPin : Nat := 14

def receivePin : Nat := 15

def pinFunction : Word := 0b010

def read (address : Nat) : Action RegisterBus ε Word :=
  fun bus => ⟨.value (bus.answer (.ofNat address)), bus.afterRead (.ofNat address), []⟩

def write (address : Nat) (value : Word) : Action RegisterBus ε Unit :=
  Action.modify (·.afterWrite (.ofNat address) value)

/-- Replaces a register by a function of its value. -/
def update (address : Nat) (change : Word → Word) : Action RegisterBus ε Unit := do
  let value ← read address
  write address (change value)

/-- Orders the accesses to one device before those to the next. -/
def deviceBarrier : Action RegisterBus ε Unit :=
  Action.modify (·.record .barrier)

/-- Selects the function of a pin.  Ten pins share a register, three bits each. -/
def setFunction (pin : Nat) (function : Word) : Action RegisterBus ε Unit :=
  let shift := pin % 10 * 3
  update (MemoryMap.gpioBase + 4 * (pin / 10)) fun value =>
    (value &&& ~~~((0b111 : Word) <<< shift)) ||| (function <<< shift)

/-- Connects the pins to the serial line and configures it.  Transmitter and receiver are off while
the registers change. -/
def init : Action RegisterBus ε Unit := do
  deviceBarrier
  setFunction transmitPin pinFunction
  setFunction receivePin pinFunction
  deviceBarrier
  update enables (· ||| enableBit)
  deviceBarrier
  update control (· &&& ~~~transceiverBits)
  write baudRate baud115200
  update lineControl (· ||| eightBits)
  update interruptIdentification (· ||| clearQueues)
  update control (· ||| transceiverBits)
  deviceBarrier

/-- Reads the line status until one of the bits is set, at most `patience` times. -/
def await (bits : Word) : (patience : Nat) → Action RegisterBus Stalled Unit
  | 0 => Action.fail .stalled
  | patience + 1 => do
      let status ← read MemoryMap.uartLineStatus
      if status &&& bits = 0 then await bits patience else pure ()

/-- Waits until the transmitter is free, then sends a byte. -/
def sendByte (patience : Nat) (byte : UInt8) : Action RegisterBus Stalled Unit := do
  await transmitEmpty patience
  write MemoryMap.uartData (BitVec.ofNat 32 byte.toNat)

/-- Waits until a byte has been received. -/
def receiveByte (patience : Nat) : Action RegisterBus Stalled UInt8 := do
  await receiveReady patience
  let value ← read MemoryMap.uartData
  pure (UInt8.ofNat value.toNat)

def lineFeed : UInt8 := 10

def carriageReturn : UInt8 := 13

/-- Sends a byte, with a carriage return before every line feed. -/
def sendTerminalByte (patience : Nat) (byte : UInt8) : Action RegisterBus Stalled Unit := do
  if byte = lineFeed then sendByte patience carriageReturn
  sendByte patience byte

/-- Sends bytes one after the other, with a carriage return before every line feed. -/
def sendBytes (patience : Nat) (bytes : List UInt8) : Action RegisterBus Stalled Unit :=
  bytes.forM (sendTerminalByte patience)

end MiniUart

end Armv6Kernel
