import Armv6Kernel.VirtualMemory.Basic

/-!
# The life of an environment

Environments are allocated, filled with mappings, switched to and freed.  Allocation takes a slot, a
domain, an address space identifier and table memory in this order and gives back what it took if a
later one is missing.  Process numbers are never used twice, and table memory is never given back.
-/

namespace Armv6Kernel.VirtualMemory

variable {ε : Type}

/-- Makes an environment with an empty table and fresh identifiers. -/
def allocate : Action VirtualMemory AllocationError EnvironmentId := do
  let before ← Action.get
  let process := before.lastProcess.toNat + 1
  if ContextId.maxProcess < process then
    Action.fail (.noProcess before.lastProcess)
  else
    let slot ← claim .slot
    let domainNumber ← (claim .domain).undoing (release .slot slot)
    let asid ← (claim .asid).undoing do
      release .domain domainNumber
      release .slot slot
    let space ← ((onTables AddressSpace.allocateRoot).mapError .map).undoing do
      release .asid asid
      release .domain domainNumber
      release .slot slot
    Action.modify fun state => { state with lastProcess := BitVec.ofNat 32 process }
    let domain ← Action.ofExcept (Domain.ofNat domainNumber)
    let environment : Environment := {
      id := ⟨slot⟩
      process := BitVec.ofNat 32 process
      domain := domain
      asid := BitVec.ofNat 8 asid
      domainAccess := .only domain .client
      root := space.root }
    Action.log .info logTarget
      ("env " ++ toString slot ++ ": pid " ++ toString process ++ ", domain " ++
        toString domain.number ++ ", asid " ++ toString environment.asid.toNat ++ ", table " ++
        space.root.display ++ ", dacr " ++ environment.domainAccess.inspect)
    Action.modify (setEnvironment environment.id (some environment))
    pure environment.id

/-- Retires an environment; panics if there is none or if it is active. -/
def free (id : EnvironmentId) : Action VirtualMemory ε Unit := do
  let environment ← readEnvironment id
  let state ← Action.get
  Action.assert (state.active ≠ some id) (.environmentActive id.slot)
  release .asid environment.asid.toNat
  release .domain environment.domain.number
  release .slot id.slot
  Action.modify (setEnvironment id none)
  Action.log .info logTarget
    ("env " ++ toString id.slot ++ ": freed pid " ++ toString environment.process.toNat ++
      " (table " ++ environment.root.display ++ " not reclaimed)")

/-- Installs an environment and turns the MMU on; panics if there is no such environment or if the
MMU is on. -/
def switchTo (id : EnvironmentId) : Action VirtualMemory ε Unit := do
  let environment ← readEnvironment id
  let state ← Action.get
  Action.assert (!state.mmuIsOn) .switchWithMmuOn
  let table ← Action.ofExcept (TranslationTableBase.ofTable environment.root)
  let context ← Action.ofExcept (ContextId.forProcess environment.process environment.asid)
  onRegisters (Mmu.install environment.domainAccess table context)
  let installed ← Action.gets (·.registers.contextId)
  Action.log .debug logTarget
    ("env " ++ toString id.slot ++ ": pid=" ++ toString installed.process.toNat ++
      " (expect " ++ toString environment.process.toNat ++ "), asid=" ++
      toString installed.asid.toNat ++ " (expect " ++ toString environment.asid.toNat ++ ")")
  Action.assert (installed.process.toNat = environment.process.toNat)
    (.processReadback installed.process.toNat environment.process.toNat)
  Action.assert (installed.asid.toNat = environment.asid.toNat)
    (.asidReadback installed.asid.toNat environment.asid.toNat)
  Action.modify fun state => { state with active := some id }
  onRegisters Mmu.enable

/-- Turns the MMU on; panics if it is on. -/
def mmuEnable : Action VirtualMemory ε Unit :=
  onRegisters Mmu.enable

/-- Turns the MMU off, so that no environment is active; panics if it is off. -/
def mmuDisable : Action VirtualMemory ε Unit := do
  onRegisters Mmu.disable
  Action.modify fun state => { state with active := none }

def cachesOn : Action VirtualMemory ε Unit :=
  onRegisters Mmu.cachesOn

def cachesOff : Action VirtualMemory ε Unit :=
  onRegisters Mmu.cachesOff

/-- Replaces what the domain access register will hold from the next switch to an environment on. -/
def setDomainAccess (id : EnvironmentId) (access : DomainAccessControl) :
    Action VirtualMemory ε Unit := do
  let environment ← readEnvironment id
  Action.modify (setEnvironment id (some { environment with domainAccess := access }))

def mapSection (id : EnvironmentId) (virtual : VirtualAddress) (physical : PhysicalAddress)
    (flags : MapFlags) : Action VirtualMemory ε SectionDescriptor := do
  let environment ← readEnvironment id
  let space ← Action.ofExcept (AddressSpace.ofRoot environment.root)
  onTables (space.mapSection virtual physical environment.domain flags)

def mapSmallPage (id : EnvironmentId) (virtual : VirtualAddress) (physical : PhysicalAddress)
    (flags : MapFlags) : Action VirtualMemory MapError SmallPageDescriptor := do
  let environment ← readEnvironment id
  let space ← Action.ofExcept (AddressSpace.ofRoot environment.root)
  onTables (space.mapSmallPage virtual physical environment.domain flags)

def mapLargePage (id : EnvironmentId) (virtual : VirtualAddress) (physical : PhysicalAddress)
    (flags : MapFlags) : Action VirtualMemory MapError LargePageDescriptor := do
  let environment ← readEnvironment id
  let space ← Action.ofExcept (AddressSpace.ofRoot environment.root)
  onTables (space.mapLargePage virtual physical environment.domain flags)

end Armv6Kernel.VirtualMemory
