import Armv6Kernel.Effect.Action

/-!
# Sources of table memory

Translation tables take their memory from a source that hands out aligned blocks of physical
addresses.  Rounding up to an alignment fails only where the rounded address would leave the address
space.
-/

namespace Armv6Kernel

/-- A source of aligned blocks of physical memory. -/
class TableSource (A : Type) where
  /-- Takes `bytes` bytes at a multiple of `alignment`, or nothing if there is no room. -/
  allocate : (bytes alignment : Word) → Action A Empty (Option PhysicalAddress)

/-- The least multiple of `alignment`, a power of two, that is not below `address`, if it can be
reached without leaving the address space. -/
def alignUp? (address alignment : Word) : Option Word :=
  if address.toNat + (alignment.toNat - 1) < 0x100000000 then
    some ((address + (alignment - 1)) &&& ~~~(alignment - 1))
  else
    none

/-- The sum of two words, if it is a word. -/
def checkedAdd? (first second : Word) : Option Word :=
  if first.toNat + second.toNat < 0x100000000 then some (first + second) else none

end Armv6Kernel
