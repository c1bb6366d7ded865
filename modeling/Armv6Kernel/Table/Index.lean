import Armv6Kernel.Effect.Panic

/-!
# Table indices

The top twelve bits of a virtual address select a first-level slot, the next eight a slot of the
coarse table that it points to.
-/

namespace Armv6Kernel

/-- The index of a first-level slot. -/
structure FirstLevelIndex where
  bits : BitVec 12
  deriving DecidableEq, Repr

/-- The index of a slot of a coarse table. -/
structure SecondLevelIndex where
  bits : BitVec 8
  deriving DecidableEq, Repr

namespace FirstLevelIndex

/-- The index of the slot that covers an address. -/
def ofAddress (address : VirtualAddress) : FirstLevelIndex :=
  ⟨address.word.extractLsb' 20 12⟩

/-- The index with the given number; panics if a table has no such slot. -/
def ofNat (number : Nat) : Except Panic FirstLevelIndex :=
  if number < TableLevel.first.entries then
    .ok ⟨BitVec.ofNat 12 number⟩
  else
    .error .firstLevelIndexOutOfRange

def toNat (index : FirstLevelIndex) : Nat :=
  index.bits.toNat

def inspect (index : FirstLevelIndex) : String :=
  Record.tagged "FirstLevelIndex" (toString index.toNat)

theorem toNat_ofAddress (address : VirtualAddress) :
    (ofAddress address).toNat = address.toNat / 0x100000 := by
  have bound := address.toNat_lt
  simp only [ofAddress, toNat, Address.toNat, BitVec.extractLsb'_toNat,
    Nat.shiftRight_eq_div_pow] at *
  omega

end FirstLevelIndex

namespace SecondLevelIndex

/-- The index of the slot that covers an address. -/
def ofAddress (address : VirtualAddress) : SecondLevelIndex :=
  ⟨address.word.extractLsb' 12 8⟩

def toNat (index : SecondLevelIndex) : Nat :=
  index.bits.toNat

def inspect (index : SecondLevelIndex) : String :=
  Record.tagged "SecondLevelIndex" (toString index.toNat)

theorem toNat_ofAddress (address : VirtualAddress) :
    (ofAddress address).toNat = address.toNat / 0x1000 % 0x100 := by
  simp only [ofAddress, toNat, Address.toNat, BitVec.extractLsb'_toNat,
    Nat.shiftRight_eq_div_pow]

end SecondLevelIndex

end Armv6Kernel
