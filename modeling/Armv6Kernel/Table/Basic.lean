import Armv6Kernel.Memory.Physical
import Armv6Kernel.Table.Index

/-!
# Translation tables

A table is the run of words at a physical address, one for each slot.  Tables are plain storage;
which slots may be written is decided by the address space that uses them.
-/

namespace Armv6Kernel

/-- A first-level table, given by the address of its first slot. -/
structure FirstLevelTable where
  base : PhysicalAddress
  deriving DecidableEq, Repr

/-- A coarse table, given by the address of its first slot. -/
structure CoarseTable where
  base : PhysicalAddress
  deriving DecidableEq, Repr

/-- The number of slots in a run, without the bound of the 64-bit counts it is given in. -/
def countLimit : Nat := 0x10000000000000000

namespace FirstLevelTable

def place (table : FirstLevelTable) (index : FirstLevelIndex) : Nat :=
  table.base.toNat + 4 * index.toNat

def slot (table : FirstLevelTable) (memory : PhysicalMemory) (index : FirstLevelIndex) :
    Slot .first :=
  ⟨memory.word (table.place index)⟩

def set (table : FirstLevelTable) (memory : PhysicalMemory) (index : FirstLevelIndex)
    (word : Word) : PhysicalMemory :=
  memory.store (table.place index) word

def clear (table : FirstLevelTable) (memory : PhysicalMemory) : PhysicalMemory :=
  memory.fill table.base.toNat TableLevel.first.entries 0

def mappedCount (table : FirstLevelTable) (memory : PhysicalMemory) : Nat :=
  (List.range TableLevel.first.entries).countP fun index =>
    !(⟨memory.word (table.base.toNat + 4 * index)⟩ : Slot .first).isFault

end FirstLevelTable

namespace CoarseTable

def place (table : CoarseTable) (index : SecondLevelIndex) : Nat :=
  table.base.toNat + 4 * index.toNat

def slot (table : CoarseTable) (memory : PhysicalMemory) (index : SecondLevelIndex) :
    Slot .coarse :=
  ⟨memory.word (table.place index)⟩

def set (table : CoarseTable) (memory : PhysicalMemory) (index : SecondLevelIndex)
    (word : Word) : PhysicalMemory :=
  memory.store (table.place index) word

def clear (table : CoarseTable) (memory : PhysicalMemory) : PhysicalMemory :=
  memory.fill table.base.toNat TableLevel.coarse.entries 0

/-- Panics unless `count` slots from an index on lie in the table. -/
def checkRun (index : SecondLevelIndex) (count : Nat) : Except Panic Unit :=
  let stop := index.toNat + count
  if countLimit ≤ stop then
    .error .additionOverflow
  else if TableLevel.coarse.entries < stop then
    .error (.slotRangeTooLong stop)
  else
    .ok ()

def run (table : CoarseTable) (memory : PhysicalMemory) (index : SecondLevelIndex) (count : Nat) :
    List (Slot .coarse) :=
  (List.range count).map fun step => ⟨memory.word (table.place index + 4 * step)⟩

/-- The contents of `count` slots from an index on; panics if they go past the end. -/
def slots (table : CoarseTable) (memory : PhysicalMemory) (index : SecondLevelIndex)
    (count : Nat) : Except Panic (List (Slot .coarse)) := do
  checkRun index count
  .ok (table.run memory index count)

/-- The memory with `count` slots from an index on replaced; panics if they go past the end. -/
def fillSlots (table : CoarseTable) (memory : PhysicalMemory) (index : SecondLevelIndex)
    (count : Nat) (word : Word) : Except Panic PhysicalMemory := do
  checkRun index count
  .ok (memory.fill (table.place index) count word)

end CoarseTable

end Armv6Kernel
