import Armv6Kernel.Heap.TableSource

/-!
# The bump heap

A heap over a range of physical addresses that hands out blocks one after the other and never takes
one back.  Only addresses are handed out; the memory behind them is not touched.
-/

namespace Armv6Kernel

/-- A heap that only grows. -/
structure BumpHeap where
  firstStart : PhysicalAddress
  start : PhysicalAddress
  /-- The first byte that has not been handed out. -/
  next : PhysicalAddress
  /-- One past the last byte of the heap. -/
  limit : PhysicalAddress
  deriving DecidableEq, Repr

namespace BumpHeap

/-- The least alignment of a block, and the unit in which sizes are rounded up. -/
def minAlignment : Word := 8

def logTarget : String := "kernel_alloc::bump"

/-- A heap over a range; panics if the start is not a multiple of eight or lies beyond the limit. -/
def create (start limit : PhysicalAddress) : Except Panic BumpHeap :=
  if start.word.toNat % minAlignment.toNat = 0 then
    if start.toNat ≤ limit.toNat then
      .ok ⟨start, start, start, limit⟩
    else
      .error .heapLimitBelowStart
  else
    .error .heapStartMisaligned

/-- The number of bytes before the limit. -/
def remaining (heap : BumpHeap) : Word :=
  heap.limit.word - heap.next.word

/-- The address at which a heap moved to `address` really begins: the next multiple of eight, or the
limit if that lies beyond it. -/
def movedStart (heap : BumpHeap) (address : PhysicalAddress) : PhysicalAddress :=
  match alignUp? address.word minAlignment with
  | some aligned => if aligned.toNat ≤ heap.limit.toNat then ⟨aligned⟩ else heap.limit
  | none => heap.limit

/-- Moves the heap to begin at an address, forgetting what was handed out; panics beyond the
limit. -/
def setStart (address : PhysicalAddress) : Action BumpHeap Empty Unit := do
  let heap ← Action.get
  Action.assert (address.toNat ≤ heap.limit.toNat) (.heapStartBeyondLimit address heap.limit)
  let moved := heap.movedStart address
  Action.log .debug logTarget
    ("heap start moved from " ++ heap.start.display ++ " to " ++ moved.display)
  Action.modify fun heap => { heap with start := moved, next := moved }

def isPowerOfTwo (word : Word) : Bool :=
  word != 0 && word &&& (word - 1) == 0

/-- The block, as its first address and its end, that a heap would hand out if it had no limit. -/
def nextBlock? (heap : BumpHeap) (bytes alignment : Word) : Option (Word × Word) := do
  let size ← alignUp? bytes minAlignment
  let base ← alignUp? heap.next.word alignment
  let stop ← checkedAdd? base size
  pure (base, stop)

/-- Hands out a block at a multiple of `alignment`; panics if that is not a power of two. -/
def allocateAligned (bytes alignment : Word) : Action BumpHeap Empty (Option PhysicalAddress) := do
  Action.assert (isPowerOfTwo alignment) (.alignmentNotPowerOfTwo alignment)
  let heap ← Action.get
  let alignment := if alignment.toNat < minAlignment.toNat then minAlignment else alignment
  match heap.nextBlock? bytes alignment with
  | none => pure none
  | some (base, stop) =>
      if stop.toNat ≤ heap.limit.toNat then
        Action.modify fun heap => { heap with next := ⟨stop⟩ }
        pure (some ⟨base⟩)
      else
        Action.log .warn logTarget
          ("bump allocator exhausted: " ++ toString bytes.toNat ++ " bytes at alignment " ++
            toString alignment.toNat)
        pure none

/-- Hands out a block at the least alignment. -/
def allocate (bytes : Word) : Action BumpHeap Empty (Option PhysicalAddress) :=
  allocateAligned bytes minAlignment

instance : TableSource BumpHeap where
  allocate := allocateAligned

/-- The first byte of the heap, which is mapped at its own address. -/
def heapStart (heap : BumpHeap) : VirtualAddress :=
  ⟨heap.start.word⟩

/-- One past the last byte handed out, which is mapped at its own address. -/
def heapEnd (heap : BumpHeap) : VirtualAddress :=
  ⟨heap.next.word⟩

def inspect (heap : BumpHeap) : String :=
  Record.named "BumpAllocator" [
    ("original", heap.firstStart.inspect),
    ("start", heap.start.inspect),
    ("next", heap.next.inspect),
    ("limit", heap.limit.inspect)]

end BumpHeap

end Armv6Kernel
