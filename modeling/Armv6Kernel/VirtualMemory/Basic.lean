import Armv6Kernel.AddressSpace.Map
import Armv6Kernel.Heap.Bump
import Armv6Kernel.Identifier.Pool
import Armv6Kernel.Mmu.Control
import Armv6Kernel.VirtualMemory.Environment

/-!
# The state of virtual memory

Everything that is needed to make, switch and retire environments: the system registers, the memory
and heap that tables come from, the pools of identifiers, and the records of the environments.  The
heap cursor, the pools and the records change together; `init` sets them up.
-/

namespace Armv6Kernel

/-- The state of virtual memory. -/
structure VirtualMemory where
  registers : SystemRegisters
  /-- The memory that tables lie in and the heap they are taken from. -/
  tables : TableMemory BumpHeap
  config : VirtualMemoryConfig
  slots : IdentifierPool
  domains : IdentifierPool
  asids : IdentifierPool
  environments : EnvironmentId → Option Environment
  lastProcess : Word
  /-- The environment installed by the last switch, while the MMU is on. -/
  active : Option EnvironmentId

namespace VirtualMemory

variable {ε α : Type}

def logTarget : String := "kernel_vmm::environment"

def heap (state : VirtualMemory) : BumpHeap :=
  state.tables.source

def memory (state : VirtualMemory) : PhysicalMemory :=
  state.tables.memory

def mmuIsOn (state : VirtualMemory) : Bool :=
  state.registers.control.mmuIsOn

def onRegisters (action : Action SystemRegisters ε α) : Action VirtualMemory ε α :=
  action.onPart (·.registers) fun registers state => { state with registers := registers }

def onTables (action : Action (TableMemory BumpHeap) ε α) : Action VirtualMemory ε α :=
  action.onPart (·.tables) fun tables state => { state with tables := tables }

/-- Sets virtual memory up over the given tables, on registers that have just been reset.  Panics if
the configuration asks for more than there is. -/
def init (tables : TableMemory BumpHeap) (config : VirtualMemoryConfig) :
    Action SystemRegisters ε VirtualMemory := do
  Action.assert (config.maxEnvironments ≤ Capacity.environments)
    (.tooManyEnvironments Capacity.environments)
  Action.assert (config.domains ≤ Capacity.domains) .tooManyDomains
  Action.assert (config.asids ≤ Capacity.asids) (.tooManyAsids Capacity.asids)
  Mmu.init
  Action.log .info logTarget
    ("vm: " ++ toString config.domains ++ " domains, " ++ toString config.asids ++ " asids, " ++
      toString config.maxEnvironments ++ " environments, stack top " ++ config.stackTop.display)
  let registers ← Action.get
  let slots ← Action.ofExcept (IdentifierPool.create 0 config.maxEnvironments)
  let domains ← Action.ofExcept (IdentifierPool.create config.reservedDomains config.domains)
  let asids ← Action.ofExcept (IdentifierPool.create config.reservedAsids config.asids)
  pure {
    registers := registers
    tables := tables
    config := config
    slots := slots
    domains := domains
    asids := asids
    environments := fun _ => none
    lastProcess := 0
    active := none }

def pool (state : VirtualMemory) : EnvironmentResource → IdentifierPool
  | .slot => state.slots
  | .domain => state.domains
  | .asid => state.asids

def setPool (resource : EnvironmentResource) (pool : IdentifierPool) (state : VirtualMemory) :
    VirtualMemory :=
  match resource with
  | .slot => { state with slots := pool }
  | .domain => { state with domains := pool }
  | .asid => { state with asids := pool }

/-- The error for a pool that has run out. -/
def exhausted : EnvironmentResource → IdentifierError → AllocationError
  | .slot => .noSlot
  | .domain => .noDomain
  | .asid => .noAsid

def claim (resource : EnvironmentResource) : Action VirtualMemory AllocationError Nat := do
  let state ← Action.get
  match (state.pool resource).allocate with
  | .ok (identifier, rest) =>
      Action.modify (setPool resource rest)
      pure identifier
  | .error cause => Action.fail (exhausted resource cause)

/-- Gives an identifier back to the pool of a resource; panics if it was not in use. -/
def release (resource : EnvironmentResource) (identifier : Nat) :
    Action VirtualMemory ε Unit := do
  let state ← Action.get
  match (state.pool resource).free identifier with
  | .ok rest => Action.modify (setPool resource rest)
  | .error cause => Action.panic (.bookkeepingCorrupted resource cause)

def setEnvironment (id : EnvironmentId) (environment : Option Environment)
    (state : VirtualMemory) : VirtualMemory :=
  { state with
    environments := fun other => if other = id then environment else state.environments other }

/-- The environment with the given handle; panics if there is none. -/
def environment (state : VirtualMemory) (id : EnvironmentId) : Except Panic Environment :=
  match state.environments id with
  | some environment => .ok environment
  | none => .error (.environmentNotAllocated id.slot)

/-- The environment with the given handle; panics if there is none. -/
def readEnvironment (id : EnvironmentId) : Action VirtualMemory ε Environment := do
  let state ← Action.get
  Action.ofExcept (state.environment id)

def activeEnvironment? (state : VirtualMemory) : Except Panic (Option Environment) :=
  match state.active with
  | some id => (state.environment id).map some
  | none => .ok none

def addressSpace (state : VirtualMemory) (id : EnvironmentId) : Except Panic AddressSpace := do
  let environment ← state.environment id
  AddressSpace.ofRoot environment.root

def translate (state : VirtualMemory) (id : EnvironmentId) (address : VirtualAddress) :
    Except Panic (Option PhysicalAddress) := do
  let space ← state.addressSpace id
  space.translate state.memory address

end VirtualMemory

end Armv6Kernel
