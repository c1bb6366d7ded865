import Armv6Kernel.Effect.Panic

/-!
# Physical memory

Memory holds a word at every address that is a multiple of four.  Simulated memory covers a range of
addresses and panics on an access that leaves it; identity-mapped memory can be reached everywhere.
The main statements say what a read sees after a store or a fill.
-/

namespace Armv6Kernel

/-- Which physical addresses can be reached. -/
inductive MemoryExtent where
  | window (base length : Word)
  | everywhere
  deriving DecidableEq, Repr

/-- Physical memory. -/
structure PhysicalMemory where
  /-- Which addresses can be reached. -/
  extent : MemoryExtent
  /-- The word at each address that is a multiple of four. -/
  word : Nat → Word

namespace PhysicalMemory

/-- The size and alignment of the blocks that simulated memory is made of. -/
def blockBytes : Nat := 16384

/-- Simulated memory filled with zeros; panics if the base is not a multiple of 16 KiB. -/
def simulated (base length : Word) : Except Panic PhysicalMemory :=
  if base.toNat % blockBytes = 0 then
    .ok ⟨.window base length, fun _ => 0⟩
  else
    .error (.memoryBaseMisaligned (base.toNat % blockBytes))

def identityMapped (background : Word) : PhysicalMemory :=
  ⟨.everywhere, fun _ => background⟩

/-- One past the last byte of a range; panics if that is not an address. -/
def windowEnd (base length : Word) : Except Panic PhysicalAddress :=
  if base.toNat + length.toNat < 0x100000000 then
    .ok ⟨base + length⟩
  else
    .error .additionOverflow

/-- Panics unless the address lies in memory. -/
def checkStart (memory : PhysicalMemory) (address : PhysicalAddress) : Except Panic Unit :=
  match memory.extent with
  | .everywhere => .ok ()
  | .window base length =>
      if base.toNat ≤ address.toNat then do
        let stop ← windowEnd base length
        if address.toNat < stop.toNat then .ok () else .error (.outsideMemory address)
      else
        .error (.outsideMemory address)

/-- Panics unless `bytes` bytes from the address on lie in memory.  The end is checked first. -/
def checkRange (memory : PhysicalMemory) (bytes : Nat) (address : PhysicalAddress) :
    Except Panic Unit :=
  match memory.extent with
  | .everywhere => .ok ()
  | .window base length =>
      if address.toNat + bytes < 0x100000000 then do
        let stop ← windowEnd base length
        if address.toNat + bytes ≤ stop.toNat then
          memory.checkStart address
        else
          .error (.exceedsMemory bytes address)
      else
        .error .additionOverflow

def store (memory : PhysicalMemory) (address : Nat) (value : Word) : PhysicalMemory :=
  { memory with word := fun place => if place = address then value else memory.word place }

/-- The memory with `count` words from an address on replaced by the same value. -/
def fill (memory : PhysicalMemory) (address count : Nat) (value : Word) : PhysicalMemory :=
  { memory with
    word := fun place =>
      if address ≤ place ∧ place < address + 4 * count then value else memory.word place }

/-- Reads a word; panics if its first byte lies outside memory. -/
def load (memory : PhysicalMemory) (address : PhysicalAddress) : Except Panic Word := do
  memory.checkStart address
  .ok (memory.word address.toNat)

/-- Replaces a word; panics if it does not lie in memory. -/
def poke (memory : PhysicalMemory) (address : PhysicalAddress) (value : Word) :
    Except Panic PhysicalMemory := do
  memory.checkRange 4 address
  .ok (memory.store address.toNat value)

@[simp]
theorem extent_store (memory : PhysicalMemory) (address : Nat) (value : Word) :
    (memory.store address value).extent = memory.extent := rfl

@[simp]
theorem extent_fill (memory : PhysicalMemory) (address count : Nat) (value : Word) :
    (memory.fill address count value).extent = memory.extent := rfl

@[simp]
theorem word_store_self (memory : PhysicalMemory) (address : Nat) (value : Word) :
    (memory.store address value).word address = value := by
  simp [store]

theorem word_store_of_ne (memory : PhysicalMemory) {address place : Nat}
    (different : place ≠ address) (value : Word) :
    (memory.store address value).word place = memory.word place := by
  simp [store, different]

theorem word_fill_of_mem (memory : PhysicalMemory) {address count place : Nat}
    (above : address ≤ place) (below : place < address + 4 * count) (value : Word) :
    (memory.fill address count value).word place = value := by
  simp [fill, above, below]

theorem word_fill_of_not_mem (memory : PhysicalMemory) {address count place : Nat}
    (outside : place < address ∨ address + 4 * count ≤ place) (value : Word) :
    (memory.fill address count value).word place = memory.word place := by
  have notInside : ¬ (address ≤ place ∧ place < address + 4 * count) := by omega
  simp [fill, notInside]

end PhysicalMemory

end Armv6Kernel
