import Armv6Kernel.AddressSpace.Map

/-!
# Sessions with address spaces

A session keeps the memory and the source that tables come from together with the address spaces
made so far, numbered in the order in which they were made.
-/

namespace Armv6Kernel

/-- Table memory and the address spaces made in it. -/
structure SpaceSession (A : Type) where
  /-- The memory of the tables and the source they come from. -/
  tables : TableMemory A
  spaces : List AddressSpace

namespace SpaceSession

variable {A ε α : Type}

def start (memory : PhysicalMemory) (source : A) : SpaceSession A :=
  ⟨⟨memory, source⟩, []⟩

def memory (session : SpaceSession A) : PhysicalMemory :=
  session.tables.memory

def source (session : SpaceSession A) : A :=
  session.tables.source

def space? (session : SpaceSession A) (number : Nat) : Option AddressSpace :=
  session.spaces[number]?

def onTables (action : Action (TableMemory A) ε α) : Action (SpaceSession A) ε α :=
  action.onPart (·.tables) fun tables session => { session with tables := tables }

def keep (space : AddressSpace) : Action (SpaceSession A) ε AddressSpace := do
  Action.modify fun session => { session with spaces := session.spaces ++ [space] }
  pure space

def makeSpace [TableSource A] : Action (SpaceSession A) MapError AddressSpace := do
  keep (← onTables AddressSpace.allocateRoot)

/-- Adds the address space whose first-level table starts at an address. -/
def adoptSpace (root : PhysicalAddress) : Action (SpaceSession A) ε AddressSpace := do
  keep (← Action.ofExcept (AddressSpace.ofRoot root))

/-- Maps something in the domain with the given number; panics if there is no such domain. -/
def inDomain (number : Nat) (map : Domain → Action (TableMemory A) ε α) :
    Action (SpaceSession A) ε α := do
  let domain ← Action.ofExcept (Domain.ofNat number)
  onTables (map domain)

def takeBlock [TableSource A] (bytes alignment : Word) :
    Action (SpaceSession A) Empty (Option PhysicalAddress) :=
  onTables <| (TableSource.allocate bytes alignment).onPart
    (·.source) fun source tables => { tables with source := source }

/-- Replaces a word of the memory; panics if it does not lie there. -/
def poke (address : PhysicalAddress) (value : Word) : Action (SpaceSession A) ε Unit := do
  let session ← Action.get
  let memory ← Action.ofExcept (session.memory.poke address value)
  onTables (TableMemory.setMemory memory)

end SpaceSession

end Armv6Kernel
