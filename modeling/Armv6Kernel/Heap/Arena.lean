import Armv6Kernel.Heap.TableSource
import Armv6Kernel.Memory.Physical

/-!
# Arenas over simulated memory

An arena hands out the whole range of a simulated memory, one block after the other.
-/

namespace Armv6Kernel

/-- A source of blocks over a range of simulated memory. -/
structure Arena where
  base : PhysicalAddress
  /-- The first byte that has not been handed out. -/
  next : Word
  /-- One past the last byte of the range. -/
  limit : Word
  deriving DecidableEq, Repr

namespace Arena

/-- The arena over `length` bytes from `base` on; panics if the end is not an address. -/
def ofRange (base length : Word) : Except Panic Arena := do
  let stop ← PhysicalMemory.windowEnd base length
  .ok ⟨⟨base⟩, base, stop.word⟩

/-- The number of bytes handed out so far, padding included. -/
def used (arena : Arena) : Word :=
  arena.next - arena.base.word

/-- The block, as its first address and its end, that follows the last one. -/
def nextBlock? (arena : Arena) (bytes alignment : Word) : Option (Word × Word) := do
  let start ← alignUp? arena.next alignment
  let stop ← checkedAdd? start bytes
  if stop.toNat ≤ arena.limit.toNat then some (start, stop) else none

/-- Hands out a block; panics if the alignment is zero. -/
def allocateAligned (bytes alignment : Word) : Action Arena Empty (Option PhysicalAddress) := do
  Action.assert (alignment != 0) .subtractionOverflow
  let arena ← Action.get
  match arena.nextBlock? bytes alignment with
  | none => pure none
  | some (start, stop) =>
      Action.modify fun arena => { arena with next := stop }
      pure (some ⟨start⟩)

instance : TableSource Arena where
  allocate := allocateAligned

def inspect (arena : Arena) : String :=
  Record.named "SimAlloc" [
    ("base", arena.base.inspect),
    ("next", toString arena.next.toNat),
    ("limit", toString arena.limit.toNat)]

end Arena

end Armv6Kernel
