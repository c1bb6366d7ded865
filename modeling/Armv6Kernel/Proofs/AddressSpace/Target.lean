import Armv6Kernel.AddressSpace.Walk
import Armv6Kernel.Proofs.Descriptor.Classification

/-!
# Where a tree sends an address

`target` reads the two table levels without the checks that the walk makes on the way.  As long as
the tables of a tree lie in memory the walk finds exactly the target, so that translation can be
reasoned about as a function of the words in the tables.
-/

namespace Armv6Kernel

namespace Descriptor

variable {granule : Granule}

/-- The physical address of a byte of the mapped granule. -/
def target (descriptor : Descriptor (.mapping granule)) (address : VirtualAddress) :
    PhysicalAddress :=
  ⟨descriptor.base.word + address.offset granule⟩

theorem base_mod_bytes (descriptor : Descriptor (.mapping granule)) :
    descriptor.base.toNat % granule.bytes = 0 := by
  simp only [base, Address.toNat, BitVec.toNat_shiftLeft, BitVec.toNat_setWidth,
    Nat.shiftLeft_eq]
  cases granule <;> simp only [Granule.shift, Granule.bytes] <;> omega

theorem base_add_offset_lt (descriptor : Descriptor (.mapping granule)) (address : VirtualAddress) :
    descriptor.base.toNat + (address.offset granule).toNat < 0x100000000 := by
  have aligned := descriptor.base_mod_bytes
  have bound := descriptor.base.toNat_lt
  rw [Address.toNat_offset]
  cases granule <;> simp only [Granule.bytes] at aligned ⊢ <;> omega

theorem toNat_target (descriptor : Descriptor (.mapping granule)) (address : VirtualAddress) :
    (descriptor.target address).toNat =
      descriptor.base.toNat + address.toNat % granule.bytes := by
  have inside := descriptor.base_add_offset_lt address
  rw [← Address.toNat_offset]
  simp only [target, Address.toNat] at inside ⊢
  rw [BitVec.toNat_add]
  omega

theorem within_base (descriptor : Descriptor (.mapping granule)) (address : VirtualAddress) :
    AddressSpace.within granule descriptor.base address =
      .ok (some (descriptor.target address)) := by
  have inside := descriptor.base_add_offset_lt address
  simp only [AddressSpace.within, Address.add, Address.add?, if_pos inside]
  rfl

theorem table_mod_bytes (pointer : CoarseTableDescriptor) :
    pointer.table.toNat % TableLevel.coarse.bytes = 0 := by
  simp only [table, Address.toNat, BitVec.toNat_shiftLeft, BitVec.toNat_setWidth,
    Nat.shiftLeft_eq, TableLevel.bytes, TableLevel.entries]
  omega

end Descriptor

/-- Where the meaning of a second-level slot sends an address. -/
def SecondLevelEntry.target (entry : SecondLevelEntry) (address : VirtualAddress) :
    Option PhysicalAddress :=
  match entry with
  | .page4K descriptor => some (descriptor.target address)
  | .page64K descriptor => some (descriptor.target address)
  | .fault => none
  | .unsupported _ => none

theorem FirstLevelIndex.toNat_lt (index : FirstLevelIndex) : index.toNat < 4096 :=
  index.bits.isLt

theorem SecondLevelIndex.toNat_lt (index : SecondLevelIndex) : index.toNat < 256 :=
  index.bits.isLt

theorem FirstLevelIndex.eq_of_toNat_eq {first second : FirstLevelIndex}
    (equal : first.toNat = second.toNat) : first = second := by
  cases first
  cases second
  congr
  exact BitVec.eq_of_toNat_eq equal

theorem FirstLevelIndex.ofAddress_eq_iff {first second : VirtualAddress} :
    FirstLevelIndex.ofAddress first = FirstLevelIndex.ofAddress second ↔
      first.toNat / 0x100000 = second.toNat / 0x100000 := by
  rw [← FirstLevelIndex.toNat_ofAddress, ← FirstLevelIndex.toNat_ofAddress]
  exact ⟨congrArg FirstLevelIndex.toNat, FirstLevelIndex.eq_of_toNat_eq⟩

theorem SecondLevelIndex.eq_of_toNat_eq {first second : SecondLevelIndex}
    (equal : first.toNat = second.toNat) : first = second := by
  cases first
  cases second
  congr
  exact BitVec.eq_of_toNat_eq equal

/-- The meaning of a slot of a coarse table. -/
def CoarseTable.entry (table : CoarseTable) (memory : PhysicalMemory) (index : SecondLevelIndex) :
    SecondLevelEntry :=
  (table.slot memory index).secondLevelEntry

namespace AddressSpace

/-- The meaning of a first-level slot of a tree. -/
def entry (space : AddressSpace) (memory : PhysicalMemory) (index : FirstLevelIndex) :
    FirstLevelEntry :=
  (space.firstLevel.slot memory index).firstLevelEntry

/-- Where a tree sends an address, if it maps it. -/
def target (space : AddressSpace) (memory : PhysicalMemory) (address : VirtualAddress) :
    Option PhysicalAddress :=
  match space.entry memory (.ofAddress address) with
  | .section1M descriptor => some (descriptor.target address)
  | .coarse pointer => (pointer.coarseTable.entry memory (.ofAddress address)).target address
  | .fault => none
  | .unsupported _ => none

theorem eq_of_root_eq {first second : AddressSpace} (equal : first.root = second.root) :
    first = second := by
  cases first
  cases second
  cases equal
  rfl

theorem reachFirstLevel_eq {space : AddressSpace} {memory : PhysicalMemory}
    (inMemory : memory.checkRange TableLevel.first.bytes space.root = .ok ()) :
    space.reachFirstLevel memory = .ok space.firstLevel := by
  simp only [reachFirstLevel, inMemory, bind, Except.bind]

theorem reachCoarse_eq {memory : PhysicalMemory} {pointer : CoarseTableDescriptor}
    (inMemory : memory.checkRange TableLevel.coarse.bytes pointer.table = .ok ()) :
    reachCoarse memory pointer = .ok pointer.coarseTable := by
  simp only [reachCoarse, inMemory, bind, Except.bind]

/-- The target of an address depends on its slots on the two levels alone. -/
theorem target_congr {space : AddressSpace} {memory after : PhysicalMemory}
    {address : VirtualAddress}
    (sameEntry : space.entry after (.ofAddress address) = space.entry memory (.ofAddress address))
    (sameSlot : ∀ pointer, space.entry memory (.ofAddress address) = .coarse pointer →
      pointer.coarseTable.slot after (.ofAddress address) =
        pointer.coarseTable.slot memory (.ofAddress address)) :
    space.target after address = space.target memory address := by
  unfold target
  rw [sameEntry]
  rcases found : space.entry memory (.ofAddress address) with _ | pointer | descriptor | word
  · rfl
  · simp only [CoarseTable.entry, sameSlot pointer found]
  · rfl
  · rfl

/-- The walk finds the target if the tables on the way lie in memory. -/
theorem translate_eq_target {space : AddressSpace} {memory : PhysicalMemory}
    {address : VirtualAddress}
    (rootInMemory : memory.checkRange TableLevel.first.bytes space.root = .ok ())
    (tableInMemory : ∀ pointer, space.entry memory (.ofAddress address) = .coarse pointer →
      memory.checkRange TableLevel.coarse.bytes pointer.table = .ok ()) :
    space.translate memory address = .ok (space.target memory address) := by
  simp only [translate, firstLevelSlot, reachFirstLevel_eq rootInMemory, bind, Except.bind, target]
  rcases found : (space.firstLevel.slot memory (.ofAddress address)).firstLevelEntry with
    _ | pointer | descriptor | word
  · simp only [entry, found]
  · simp only [entry, found, secondLevelSlot, reachCoarse_eq (tableInMemory pointer found), bind,
      Except.bind, CoarseTable.entry]
    rcases (pointer.coarseTable.slot memory (.ofAddress address)).secondLevelEntry with
      _ | descriptor | descriptor | word
    · rfl
    · exact descriptor.within_base address
    · exact descriptor.within_base address
    · rfl
  · simp only [entry, found]
    exact descriptor.within_base address
  · simp only [entry, found]

end AddressSpace

end Armv6Kernel
