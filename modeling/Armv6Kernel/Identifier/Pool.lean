import Armv6Kernel.Effect.Panic

/-!
# Pools of identifiers

A pool hands out the least identifier that is not in use.  Which identifiers are in use is kept in a
bitmap; the first ones may be reserved from the start.
-/

namespace Armv6Kernel

/-- A pool of identifiers below a capacity. -/
structure IdentifierPool where
  capacity : Nat
  inUse : BitVec 256
  deriving DecidableEq, Repr

namespace IdentifierPool

/-- The largest capacity that the bitmap can hold. -/
def maxCapacity : Nat := 256

/-- A pool whose first `reserved` identifiers are in use.  Panics if the bitmap cannot hold the
capacity or if more identifiers are reserved than exist. -/
def create (reserved capacity : Nat) : Except Panic IdentifierPool :=
  if capacity ≤ maxCapacity then
    if reserved ≤ capacity then
      .ok ⟨capacity, BitVec.allOnes 256 >>> (maxCapacity - reserved)⟩
    else
      .error .tooManyReserved
  else
    .error .capacityTooLarge

/-- Whether an identifier is in use.  Those at or above the capacity never are. -/
def isAllocated (pool : IdentifierPool) (identifier : Nat) : Bool :=
  decide (identifier < pool.capacity) && pool.inUse.getLsbD identifier

/-- The number of identifiers in use, reserved ones included. -/
def allocatedCount (pool : IdentifierPool) : Nat :=
  (List.range maxCapacity).countP pool.inUse.getLsbD

def firstFree? (pool : IdentifierPool) : Option Nat :=
  (List.range pool.capacity).find? fun identifier => !pool.inUse.getLsbD identifier

/-- The bitmap with only the bit of one identifier set. -/
def bit (identifier : Nat) : BitVec 256 :=
  1#256 <<< identifier

/-- Hands out the least identifier that is not in use. -/
def allocate (pool : IdentifierPool) : Except IdentifierError (Nat × IdentifierPool) :=
  match pool.firstFree? with
  | some identifier => .ok (identifier, { pool with inUse := pool.inUse ||| bit identifier })
  | none => .error (.exhausted pool.capacity)

/-- Takes an identifier back. -/
def free (pool : IdentifierPool) (identifier : Nat) : Except IdentifierError IdentifierPool :=
  if pool.capacity ≤ identifier then
    .error (.outOfRange identifier pool.capacity)
  else if pool.isAllocated identifier then
    .ok { pool with inUse := pool.inUse &&& ~~~bit identifier }
  else
    .error (.notAllocated identifier)

/-- Hands out up to `count` identifiers, fewer if the pool runs out. -/
def allocateMany : Nat → IdentifierPool → List Nat × IdentifierPool
  | 0, pool => ([], pool)
  | count + 1, pool =>
      match pool.allocate with
      | .ok (identifier, rest) =>
          let (more, final) := allocateMany count rest
          (identifier :: more, final)
      | .error _ => ([], pool)

def inspect (pool : IdentifierPool) : String :=
  Record.named "BitVector"
    [("capacity", toString pool.capacity), ("allocated", toString pool.allocatedCount)]

end IdentifierPool

end Armv6Kernel
