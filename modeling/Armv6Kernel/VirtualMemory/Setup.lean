import Armv6Kernel.VirtualMemory.Basic

/-!
# Setting virtual memory up

A setup says which memory there is, where the heap lies, how many environments there can be, and
what the control register holds after a reset.  Setting up again starts afresh, except that memory
which is mapped at its own addresses keeps its contents.
-/

namespace Armv6Kernel

inductive MemorySetup where
  | simulated (base length : Word)
  /-- Memory mapped at its own addresses, where every word is `background` at first. -/
  | identityMapped (background : Word)
  deriving DecidableEq, Repr

structure VirtualMemorySetup where
  memory : MemorySetup
  heapStart : PhysicalAddress
  heapLimit : PhysicalAddress
  config : VirtualMemoryConfig
  /-- The control register after a reset. -/
  control : SystemControl
  deriving DecidableEq, Repr

namespace VirtualMemorySetup

/-- The memory that a setup starts with, given what was there before. -/
def startMemory (setup : VirtualMemorySetup) (previous : Option VirtualMemory) :
    Except Panic PhysicalMemory :=
  match setup.memory with
  | .simulated base length => PhysicalMemory.simulated base length
  | .identityMapped background =>
      .ok <|
        match previous with
        | some state => state.memory
        | none => .identityMapped background

/-- Sets virtual memory up on registers that have just been reset. -/
def build {ε : Type} (setup : VirtualMemorySetup) (previous : Option VirtualMemory) :
    Action SystemRegisters ε VirtualMemory := do
  let memory ← Action.ofExcept (setup.startMemory previous)
  let heap ← Action.ofExcept (BumpHeap.create setup.heapStart setup.heapLimit)
  VirtualMemory.init ⟨memory, heap⟩ setup.config

/-- Sets virtual memory up.  If that panics, everything is as before. -/
def run {ε : Type} (setup : VirtualMemorySetup) : Action (Option VirtualMemory) ε Unit :=
  fun previous =>
    let built := (setup.build previous).run (.reset setup.control)
    match built.outcome with
    | .value state => ⟨.value (), some state, built.log⟩
    | .error cause => ⟨.error cause, previous, built.log⟩
    | .panic cause => ⟨.panic cause, previous, built.log⟩

end VirtualMemorySetup

namespace VirtualMemory

variable {ε : Type}

def walk (state : VirtualMemory) (id : EnvironmentId) (address : VirtualAddress) :
    Except Panic WalkedSlots := do
  let space ← state.addressSpace id
  space.walk state.memory address

def firstLevelMapped (state : VirtualMemory) (id : EnvironmentId) : Except Panic Nat := do
  let space ← state.addressSpace id
  space.firstLevelMapped state.memory

/-- The sixteen slots of the large page that would cover an address in an environment. -/
def largePageSlots (state : VirtualMemory) (id : EnvironmentId) (address : VirtualAddress) :
    Except Panic (Option (List (Slot .coarse))) := do
  let space ← state.addressSpace id
  space.largePageSlots state.memory address

/-- Reads a word; panics if it does not lie in memory. -/
def peek (state : VirtualMemory) (address : PhysicalAddress) : Except Panic Word := do
  state.memory.checkRange 4 address
  state.memory.load address

/-- Replaces a word; panics if it does not lie in memory. -/
def poke (address : PhysicalAddress) (value : Word) : Action VirtualMemory ε Unit := do
  let state ← Action.get
  let memory ← Action.ofExcept (state.memory.poke address value)
  onTables (TableMemory.setMemory memory)

/-- The state with an empty history of register events. -/
def forgetHistory (state : VirtualMemory) : VirtualMemory :=
  { state with registers := state.registers.forget }

end VirtualMemory

end Armv6Kernel
