import Armv6Kernel.AddressSpace.Walk
import Armv6Kernel.Descriptor.Encode
import Armv6Kernel.Heap.TableSource

/-!
# Building a translation tree

A slot goes from empty to mapped once and is never changed again.  Mapping over a taken slot or at a
misaligned address is a mistake of the caller and panics; running out of memory for a table is the
one recoverable failure.  A coarse table is made when the first page below its slot is mapped, and
keeps the domain of that page for good.
-/

namespace Armv6Kernel

/-- Memory together with the source that new tables are taken from. -/
structure TableMemory (A : Type) where
  memory : PhysicalMemory
  /-- Where new tables are taken from. -/
  source : A

namespace TableMemory

variable {A : Type} {ε : Type}

/-- Replaces the memory by one computed from it. -/
def setMemory (memory : PhysicalMemory) : Action (TableMemory A) ε Unit :=
  Action.modify fun tables => { tables with memory := memory }

def takeTable [TableSource A] (level : TableLevel) :
    Action (TableMemory A) MapError PhysicalAddress := do
  let bytes := BitVec.ofNat 32 level.bytes
  let block ← ((TableSource.allocate bytes bytes : Action A Empty _).onPart
    (·.source) fun source tables => { tables with source := source }).widen
  match block with
  | some address => pure address
  | none => Action.fail (.outOfMemory level)

end TableMemory

namespace AddressSpace

variable {A : Type}

/-- Large pages start below this slot of a coarse table. -/
def largePageLimit : Nat := 240

def logTarget : String := "kernel_vmem::address_space"

/-- Writes to the log what was mapped where. -/
def logMapping {σ ε : Type} {granule : Granule} (virtual : VirtualAddress)
    (physical : PhysicalAddress) (descriptor : Descriptor (.mapping granule)) : Action σ ε Unit :=
  Action.log .trace logTarget
    ("map " ++ granule.noun ++ " " ++ virtual.display ++ " -> " ++ physical.display ++ ": " ++
      descriptor.inspect)

/-- Makes a tree with an empty first-level table. -/
def allocateRoot [TableSource A] : Action (TableMemory A) MapError AddressSpace := do
  let root ← TableMemory.takeTable .first
  let space ← Action.ofExcept (ofRoot root)
  let tables ← Action.get
  let table ← Action.ofExcept (space.reachFirstLevel tables.memory)
  TableMemory.setMemory (table.clear tables.memory)
  Action.log .debug logTarget ("allocated first-level table at " ++ root.display)
  pure space

def mapSection {ε : Type} (space : AddressSpace) (virtual : VirtualAddress)
    (physical : PhysicalAddress) (domain : Domain) (flags : MapFlags) :
    Action (TableMemory A) ε SectionDescriptor := do
  Action.assert (virtual.isAligned .section1M) (.virtualMisaligned .section1M virtual)
  Action.assert (physical.isAligned .section1M) (.physicalMisaligned .section1M physical)
  let tables ← Action.get
  let table ← Action.ofExcept (space.reachFirstLevel tables.memory)
  let index := FirstLevelIndex.ofAddress virtual
  let current := table.slot tables.memory index
  Action.assert current.isFault (.sectionOccupied virtual current)
  let descriptor ← Action.ofExcept (Descriptor.forSection physical domain flags)
  let word ← Action.ofExcept descriptor.encode
  TableMemory.setMemory (table.set tables.memory index word)
  logMapping virtual physical descriptor
  pure descriptor

/-- The coarse table that covers an address, made and linked if the slot is empty. -/
def ensureCoarse [TableSource A] (space : AddressSpace) (virtual : VirtualAddress)
    (domain : Domain) : Action (TableMemory A) MapError CoarseTableDescriptor := do
  let tables ← Action.get
  let table ← Action.ofExcept (space.reachFirstLevel tables.memory)
  let index := FirstLevelIndex.ofAddress virtual
  match (table.slot tables.memory index).firstLevelEntry with
  | .coarse pointer => pure pointer
  | .fault =>
      let address ← TableMemory.takeTable .coarse
      let pointer ← Action.ofExcept (Descriptor.forTable address domain)
      let coarse ← Action.ofExcept (reachCoarse tables.memory pointer)
      let cleared := coarse.clear tables.memory
      TableMemory.setMemory cleared
      let word ← Action.ofExcept pointer.encode
      TableMemory.setMemory (table.set cleared index word)
      Action.log .debug logTarget
        ("coarse table for " ++ (virtual.alignDown .section1M).display ++ " at " ++
          address.display ++ ": " ++ pointer.inspect)
      pure pointer
  | entry => Action.panic (.noCoarseTable virtual entry)

def mapSmallPage [TableSource A] (space : AddressSpace) (virtual : VirtualAddress)
    (physical : PhysicalAddress) (domain : Domain) (flags : MapFlags) :
    Action (TableMemory A) MapError SmallPageDescriptor := do
  Action.assert (virtual.isAligned .page4K) (.virtualMisaligned .page4K virtual)
  Action.assert (physical.isAligned .page4K) (.physicalMisaligned .page4K physical)
  let pointer ← space.ensureCoarse virtual domain
  let tables ← Action.get
  let table ← Action.ofExcept (reachCoarse tables.memory pointer)
  let index := SecondLevelIndex.ofAddress virtual
  let current := table.slot tables.memory index
  Action.assert current.isFault (.smallPageOccupied virtual current)
  let descriptor ← Action.ofExcept (Descriptor.forMapping .page4K physical flags)
  let word ← Action.ofExcept descriptor.encode
  TableMemory.setMemory (table.set tables.memory index word)
  logMapping virtual physical descriptor
  pure descriptor

/-- Panics with the first taken slot of a run, if there is one. -/
def checkEmpty {σ ε : Type} (virtual : VirtualAddress) (first : Nat)
    (slots : List (Slot .coarse)) : Action σ ε Unit :=
  match slots.zipIdx.find? fun (slot, _) => !slot.isFault with
  | some (slot, step) => Action.panic (.largePageOccupied virtual (first + step) slot)
  | none => pure ()

/-- Maps a large page by writing its descriptor into all sixteen slots that it spans. -/
def mapLargePage [TableSource A] (space : AddressSpace) (virtual : VirtualAddress)
    (physical : PhysicalAddress) (domain : Domain) (flags : MapFlags) :
    Action (TableMemory A) MapError LargePageDescriptor := do
  Action.assert (virtual.isAligned .page64K) (.virtualMisaligned .page64K virtual)
  Action.assert (physical.isAligned .page64K) (.physicalMisaligned .page64K physical)
  let index := SecondLevelIndex.ofAddress virtual
  Action.assert (index.toNat < largePageLimit)
    (.largePageTooHigh virtual index.toNat largePageLimit)
  let pointer ← space.ensureCoarse virtual domain
  let tables ← Action.get
  let table ← Action.ofExcept (reachCoarse tables.memory pointer)
  let slots ← Action.ofExcept (table.slots tables.memory index largePageCopies)
  checkEmpty virtual index.toNat slots
  let descriptor ← Action.ofExcept (Descriptor.forMapping .page64K physical flags)
  let word ← Action.ofExcept descriptor.encode
  let filled ← Action.ofExcept (table.fillSlots tables.memory index largePageCopies word)
  TableMemory.setMemory filled
  logMapping virtual physical descriptor
  pure descriptor

end AddressSpace

end Armv6Kernel
