import Armv6Kernel.Bits.Assignment
import Armv6Kernel.Table.Basic

/-!
# Walking a translation tree

An address space is a tree of tables, named by the address of its first-level table.  Translation
looks up the first-level slot of an address and, under a coarse pointer, the second-level slot; it
reads memory and changes nothing.  It panics only if a table does not lie in memory.
-/

namespace Armv6Kernel

/-- A translation tree. -/
structure AddressSpace where
  /-- The address of the first-level table. -/
  root : PhysicalAddress
  deriving DecidableEq, Repr

/-- The first-level table that a coarse pointer leads to. -/
def Descriptor.coarseTable (pointer : CoarseTableDescriptor) : CoarseTable :=
  ⟨pointer.table⟩

/-- The slots on the way to an address: that of the first level and, under a coarse pointer, that of
the second. -/
structure WalkedSlots where
  first : Slot .first
  /-- The second-level slot, if the first-level slot points to a coarse table. -/
  second : Option (Slot .coarse)
  deriving DecidableEq, Repr

namespace AddressSpace

/-- The tree whose first-level table starts at an address; panics if that is not a multiple of
16 KiB. -/
def ofRoot (root : PhysicalAddress) : Except Panic AddressSpace :=
  if root.toNat % TableLevel.first.bytes = 0 then
    .ok ⟨root⟩
  else
    .error .firstLevelTableMisaligned

def firstLevel (space : AddressSpace) : FirstLevelTable :=
  ⟨space.root⟩

/-- The first-level table, once it is known to lie in memory. -/
def reachFirstLevel (space : AddressSpace) (memory : PhysicalMemory) :
    Except Panic FirstLevelTable := do
  memory.checkRange TableLevel.first.bytes space.root
  .ok space.firstLevel

/-- The table that a coarse pointer leads to, once it is known to lie in memory. -/
def reachCoarse (memory : PhysicalMemory) (pointer : CoarseTableDescriptor) :
    Except Panic CoarseTable := do
  memory.checkRange TableLevel.coarse.bytes pointer.table
  .ok pointer.coarseTable

def firstLevelSlot (space : AddressSpace) (memory : PhysicalMemory) (address : VirtualAddress) :
    Except Panic (Slot .first) := do
  let table ← space.reachFirstLevel memory
  .ok (table.slot memory (.ofAddress address))

/-- The slot that covers an address in the table that a coarse pointer leads to. -/
def secondLevelSlot (memory : PhysicalMemory) (pointer : CoarseTableDescriptor)
    (address : VirtualAddress) : Except Panic (Slot .coarse) := do
  let table ← reachCoarse memory pointer
  .ok (table.slot memory (.ofAddress address))

def walk (space : AddressSpace) (memory : PhysicalMemory) (address : VirtualAddress) :
    Except Panic WalkedSlots := do
  let first ← space.firstLevelSlot memory address
  match first.firstLevelEntry with
  | .coarse pointer =>
      let second ← secondLevelSlot memory pointer address
      .ok ⟨first, some second⟩
  | _ => .ok ⟨first, none⟩

/-- The physical address of a byte inside a granule, given the start of the granule. -/
def within (granule : Granule) (base : PhysicalAddress) (address : VirtualAddress) :
    Except Panic (Option PhysicalAddress) :=
  (base.add (address.offset granule)).map some

def translate (space : AddressSpace) (memory : PhysicalMemory) (address : VirtualAddress) :
    Except Panic (Option PhysicalAddress) := do
  let first ← space.firstLevelSlot memory address
  match first.firstLevelEntry with
  | .fault => .ok none
  | .unsupported _ => .ok none
  | .section1M descriptor => within .section1M descriptor.base address
  | .coarse pointer =>
      let second ← secondLevelSlot memory pointer address
      match second.secondLevelEntry with
      | .fault => .ok none
      | .unsupported _ => .ok none
      | .page4K descriptor => within .page4K descriptor.base address
      | .page64K descriptor => within .page64K descriptor.base address

def firstLevelMapped (space : AddressSpace) (memory : PhysicalMemory) : Except Panic Nat := do
  let table ← space.reachFirstLevel memory
  .ok (table.mappedCount memory)

def largePageCopies : Nat := 16

/-- The sixteen slots of the large page that would cover an address, if the address lies under a
coarse table. -/
def largePageSlots (space : AddressSpace) (memory : PhysicalMemory) (address : VirtualAddress) :
    Except Panic (Option (List (Slot .coarse))) := do
  let first ← space.firstLevelSlot memory address
  match first.firstLevelEntry with
  | .coarse pointer =>
      let table ← reachCoarse memory pointer
      let index := SecondLevelIndex.ofAddress (address.alignDown .page64K)
      (table.slots memory index largePageCopies).map some
  | _ => .ok none

end AddressSpace

end Armv6Kernel
