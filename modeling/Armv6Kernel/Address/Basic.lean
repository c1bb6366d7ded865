import Armv6Kernel.Address.Granule
import Armv6Kernel.Bits.Word
import Armv6Kernel.Text.Numeral
import Armv6Kernel.Text.Record

/-!
# Addresses

Addresses carry their kind in their type, so that an address before translation is never handed to
code that expects one after translation.  Splitting an address at a granule gives its frame number
and its offset; the main statements say that the aligned part and the offset add up to the address.
-/

namespace Armv6Kernel

/-- What an address refers to. -/
inductive AddressKind where
  | memory
  /-- An address that the active translation table translates. -/
  | virtual
  /-- An address of memory or of a device register. -/
  | physical
  deriving DecidableEq, Repr

def AddressKind.label : AddressKind → String
  | memory => "MemoryAddress"
  | virtual => "VA"
  | physical => "PA"

/-- A 32-bit address of a given kind. -/
structure Address (kind : AddressKind) where
  word : Word
  deriving DecidableEq, Repr, Inhabited

/-- An address that the active translation table translates. -/
abbrev VirtualAddress := Address .virtual

/-- An address of memory or of a device register. -/
abbrev PhysicalAddress := Address .physical

namespace Address

variable {kind : AddressKind}

/-- The address with a given number, taken modulo the size of the address space. -/
def ofNat (number : Nat) : Address kind :=
  ⟨BitVec.ofNat 32 number⟩

def toNat (address : Address kind) : Nat :=
  address.word.toNat

/-- The word with ones in the bits below the granule. -/
def offsetMask (granule : Granule) : Word :=
  BitVec.ofNat 32 (granule.bytes - 1)

/-- The offset of the address inside the granule that contains it. -/
def offset (granule : Granule) (address : Address kind) : Word :=
  address.word &&& offsetMask granule

/-- Whether the address is the start of a granule. -/
def isAligned (granule : Granule) (address : Address kind) : Bool :=
  address.offset granule == 0

/-- The start of the granule that contains the address. -/
def alignDown (granule : Granule) (address : Address kind) : Address kind :=
  ⟨address.word &&& ~~~offsetMask granule⟩

/-- The number of the granule that contains the address. -/
def frame (granule : Granule) (address : Address kind) : Word :=
  address.word >>> granule.shift

/-- The address `count` bytes further on, if it lies inside the address space. -/
def add? (address : Address kind) (count : Word) : Option (Address kind) :=
  if address.toNat + count.toNat < 0x100000000 then some ⟨address.word + count⟩ else none

def display (address : Address kind) : String :=
  Numeral.upperHexWord address.toNat

def inspect (address : Address kind) : String :=
  Record.tagged kind.label address.display

@[simp]
theorem toNat_ofNat (number : Nat) :
    (ofNat number : Address kind).toNat = number % 0x100000000 := by
  simp [ofNat, toNat]

theorem toNat_lt (address : Address kind) : address.toNat < 0x100000000 :=
  address.word.isLt

theorem eq_of_toNat_eq {first second : Address kind} (equal : first.toNat = second.toNat) :
    first = second := by
  cases first
  cases second
  congr
  exact BitVec.eq_of_toNat_eq equal

theorem toNat_offset (granule : Granule) (address : Address kind) :
    (address.offset granule).toNat = address.toNat % granule.bytes := by
  have bound : granule.bytes - 1 < 0x100000000 := by cases granule <;> decide
  rw [offset, offsetMask, BitVec.toNat_and, BitVec.toNat_ofNat, Nat.mod_eq_of_lt bound]
  cases granule
  · exact Nat.and_two_pow_sub_one_eq_mod address.toNat 12
  · exact Nat.and_two_pow_sub_one_eq_mod address.toNat 16
  · exact Nat.and_two_pow_sub_one_eq_mod address.toNat 20

theorem isAligned_iff (granule : Granule) (address : Address kind) :
    address.isAligned granule = true ↔ address.toNat % granule.bytes = 0 := by
  rw [← toNat_offset, isAligned, beq_iff_eq]
  exact ⟨fun zero => by rw [zero]; rfl, fun zero => BitVec.eq_of_toNat_eq zero⟩

theorem alignDown_add_offset (granule : Granule) (address : Address kind) :
    (address.alignDown granule).word + address.offset granule = address.word := by
  rw [alignDown, offset, BitVec.add_eq_or_of_and_eq_zero]
  · apply BitVec.eq_of_getLsbD_eq
    intro index bound
    simp only [BitVec.getLsbD_or, BitVec.getLsbD_and, BitVec.getLsbD_not, bound]
    cases address.word.getLsbD index <;> cases (offsetMask granule).getLsbD index <;> rfl
  · apply BitVec.eq_of_getLsbD_eq
    intro index bound
    simp only [BitVec.getLsbD_and, BitVec.getLsbD_not, BitVec.getLsbD_zero, bound]
    cases address.word.getLsbD index <;> cases (offsetMask granule).getLsbD index <;> rfl

theorem toNat_alignDown (granule : Granule) (address : Address kind) :
    (address.alignDown granule).toNat = address.toNat - address.toNat % granule.bytes := by
  have sum := congrArg BitVec.toNat (alignDown_add_offset granule address)
  have small : (address.alignDown granule).toNat ≤ address.toNat := by
    rw [alignDown, toNat, BitVec.toNat_and]
    exact Nat.and_le_left
  have offsetSmall : address.toNat % granule.bytes ≤ address.toNat := Nat.mod_le _ _
  have bound := address.toNat_lt
  have offsetValue := toNat_offset granule address
  rw [BitVec.toNat_add] at sum
  simp only [toNat] at *
  omega

end Address

end Armv6Kernel
