import Armv6Kernel.Proofs.AddressSpace.Extent
import Armv6Kernel.Proofs.AddressSpace.Target
import Armv6Kernel.Proofs.Heap.Rounding
import Armv6Kernel.Proofs.Memory.Coverage

/-!
# The walk in raw bits

The short-descriptor format says which bits of the words of memory lead to the physical address.
Translation follows it on memory with any content, words that are never written included, and panics
exactly if a table on the way does not lie in memory.
-/

namespace Armv6Kernel

/-! ## Memory as bytes -/

namespace PhysicalMemory

/-- The byte at an address; the lowest byte of a word comes first. -/
def byte (memory : PhysicalMemory) (address : Nat) : BitVec 8 :=
  (memory.word (address / 4 * 4)).extractLsb' (8 * (address % 4)) 8

/-- The number that four bytes from an address on spell, the lowest one first. -/
def littleEndian (memory : PhysicalMemory) (address : Nat) : Word :=
  memory.byte (address + 3) ++ memory.byte (address + 2) ++ memory.byte (address + 1) ++
    memory.byte address

theorem getLsbD_byte (memory : PhysicalMemory) {address offset place : Nat}
    (aligned : address % 4 = 0) (inWord : offset < 4) (inByte : place < 8) :
    (memory.byte (address + offset)).getLsbD place =
      (memory.word address).getLsbD (8 * offset + place) := by
  have start : (address + offset) / 4 * 4 = address := by omega
  have index : (address + offset) % 4 = offset := by omega
  rw [byte, start, index, BitVec.getLsbD_extractLsb', decide_eq_true inByte, Bool.true_and]

theorem littleEndian_eq_word (memory : PhysicalMemory) {address : Nat}
    (aligned : address % 4 = 0) : memory.littleEndian address = memory.word address := by
  have bits : ∀ {offset place : Nat}, offset < 4 → place < 8 →
      (memory.byte (address + offset)).getLsbD place =
        (memory.word address).getLsbD (8 * offset + place) :=
    fun inWord inByte => memory.getLsbD_byte aligned inWord inByte
  apply BitVec.eq_of_getLsbD_eq
  intro index bound
  simp only [littleEndian, BitVec.getLsbD_append]
  split
  · next inFirst =>
      change (memory.byte (address + 0)).getLsbD index = _
      rw [bits (by decide) inFirst]
      exact congrArg _ (by omega)
  · split
    · rw [bits (by decide) (by omega)]
      exact congrArg _ (by omega)
    · split
      · rw [bits (by decide) (by omega)]
        exact congrArg _ (by omega)
      · rw [bits (by decide) (by omega)]
        exact congrArg _ (by omega)

end PhysicalMemory

/-! ## The format -/

namespace ShortDescriptor

/-- A word that maps a section, with all reserved bits clear. -/
def IsSection (word : Word) : Prop :=
  word.extractLsb' 0 2 = 0b10 ∧ word.getLsbD 9 = false ∧ word.getLsbD 18 = false ∧
    word.getLsbD 19 = false

/-- A word that points to a coarse table, with all reserved bits clear. -/
def IsPointer (word : Word) : Prop :=
  word.extractLsb' 0 2 = 0b01 ∧ word.getLsbD 2 = false ∧ word.getLsbD 3 = false ∧
    word.getLsbD 4 = false ∧ word.getLsbD 9 = false

/-- A word that maps a small page; its lowest bit belongs to the attributes. -/
def IsSmallPage (word : Word) : Prop :=
  word.getLsbD 1 = true

/-- A word that maps a large page, with all reserved bits clear. -/
def IsLargePage (word : Word) : Prop :=
  word.extractLsb' 0 2 = 0b01 ∧ word.getLsbD 6 = false ∧ word.getLsbD 7 = false ∧
    word.getLsbD 8 = false

instance (word : Word) : Decidable (IsSection word) :=
  inferInstanceAs (Decidable (_ ∧ _))

instance (word : Word) : Decidable (IsPointer word) :=
  inferInstanceAs (Decidable (_ ∧ _))

instance (word : Word) : Decidable (IsSmallPage word) :=
  inferInstanceAs (Decidable (_ = _))

instance (word : Word) : Decidable (IsLargePage word) :=
  inferInstanceAs (Decidable (_ ∧ _))

/-- The place of the first-level word of an address. -/
def firstPlace (root address : Word) : Nat :=
  root.toNat + 4 * (address >>> 20).toNat

/-- The start of the table that a pointer leads to. -/
def tableStart (first : Word) : Nat :=
  (first &&& 0xFFFFFC00).toNat

/-- The place of the second-level word of an address under a pointer. -/
def secondPlace (first address : Word) : Nat :=
  tableStart first + 4 * (address >>> 12 &&& 0xFF).toNat

/-- Where a second-level word sends an address. -/
def pageTarget (second address : Word) : Option Word :=
  if IsSmallPage second then
    some ((second &&& 0xFFFFF000) ||| (address &&& 0xFFF))
  else if IsLargePage second then
    some ((second &&& 0xFFFF0000) ||| (address &&& 0xFFFF))
  else
    none

/-- Where the words of memory send an address. -/
def walk (read : Nat → Word) (root address : Word) : Option Word :=
  let first := read (firstPlace root address)
  if IsSection first then
    some ((first &&& 0xFFF00000) ||| (address &&& 0xFFFFF))
  else if IsPointer first then
    pageTarget (read (secondPlace first address)) address
  else
    none

end ShortDescriptor

/-! ## Masks and bits -/

theorem and_or_eq_zero_iff (word first second : Word) :
    word &&& (first ||| second) = 0 ↔ word &&& first = 0 ∧ word &&& second = 0 := by
  rw [BitVec.and_or_distrib_left]
  exact BitVec.or_eq_zero_iff

/-- Masking all but the two low bits leaves them. -/
theorem and_three_eq_iff (word : Word) (tag : BitVec 2) :
    word &&& 0b11 = tag.setWidth 32 ↔ word.extractLsb' 0 2 = tag := by
  have low : word &&& 0b11 = (word.extractLsb' 0 2).setWidth 32 := by
    apply BitVec.eq_of_toNat_eq
    rw [BitVec.toNat_and, BitVec.toNat_setWidth, BitVec.extractLsb'_toNat, Nat.shiftRight_zero]
    have rest : word.toNat &&& 3 = word.toNat % 4 := Nat.and_two_pow_sub_one_eq_mod word.toNat 2
    change word.toNat &&& 3 = word.toNat % 4 % 0x100000000
    omega
  rw [low]
  constructor
  · intro same
    have numbers := congrArg BitVec.toNat same
    have small := (word.extractLsb' 0 2).isLt
    have bound := tag.isLt
    rw [BitVec.toNat_setWidth, BitVec.toNat_setWidth] at numbers
    apply BitVec.eq_of_toNat_eq
    omega
  · exact congrArg _

/-! ## Shapes and bits -/

namespace Descriptor

variable {word : Word}

theorem decode?_section_iff (descriptor : SectionDescriptor) :
    decode? (.mapping .section1M) word = some descriptor ↔
      word = descriptor.word ∧ ShortDescriptor.IsSection word := by
  have reserved : (Shape.mapping .section1M).reservedMask =
      BitVec.twoPow 32 9 ||| BitVec.twoPow 32 18 ||| BitVec.twoPow 32 19 := rfl
  have tagged : word &&& (Shape.mapping .section1M).tagMask = (Shape.mapping .section1M).tag ↔
      word.extractLsb' 0 2 = 0b10 := and_three_eq_iff word 0b10
  rw [decode?_eq_some_iff, tagged, reserved, and_or_eq_zero_iff, and_or_eq_zero_iff,
    and_twoPow_eq_zero_iff word (by decide), and_twoPow_eq_zero_iff word (by decide),
    and_twoPow_eq_zero_iff word (by decide), and_assoc, ShortDescriptor.IsSection]

theorem decode?_coarse_iff (descriptor : CoarseTableDescriptor) :
    decode? .coarse word = some descriptor ↔
      word = descriptor.word ∧ ShortDescriptor.IsPointer word := by
  have reserved : Shape.coarse.reservedMask =
      BitVec.twoPow 32 2 ||| BitVec.twoPow 32 3 ||| BitVec.twoPow 32 4 |||
        BitVec.twoPow 32 9 := rfl
  have tagged : word &&& Shape.coarse.tagMask = Shape.coarse.tag ↔
      word.extractLsb' 0 2 = 0b01 := and_three_eq_iff word 0b01
  rw [decode?_eq_some_iff, tagged, reserved, and_or_eq_zero_iff, and_or_eq_zero_iff,
    and_or_eq_zero_iff, and_twoPow_eq_zero_iff word (by decide),
    and_twoPow_eq_zero_iff word (by decide), and_twoPow_eq_zero_iff word (by decide),
    and_twoPow_eq_zero_iff word (by decide), and_assoc, and_assoc, ShortDescriptor.IsPointer]

theorem decode?_page64K_iff (descriptor : LargePageDescriptor) :
    decode? (.mapping .page64K) word = some descriptor ↔
      word = descriptor.word ∧ ShortDescriptor.IsLargePage word := by
  have reserved : (Shape.mapping .page64K).reservedMask =
      BitVec.twoPow 32 6 ||| BitVec.twoPow 32 7 ||| BitVec.twoPow 32 8 := rfl
  have tagged : word &&& (Shape.mapping .page64K).tagMask = (Shape.mapping .page64K).tag ↔
      word.extractLsb' 0 2 = 0b01 := and_three_eq_iff word 0b01
  rw [decode?_eq_some_iff, tagged, reserved, and_or_eq_zero_iff, and_or_eq_zero_iff,
    and_twoPow_eq_zero_iff word (by decide), and_twoPow_eq_zero_iff word (by decide),
    and_twoPow_eq_zero_iff word (by decide), and_assoc, ShortDescriptor.IsLargePage]

theorem decode?_page4K_iff (descriptor : SmallPageDescriptor) :
    decode? (.mapping .page4K) word = some descriptor ↔
      word = descriptor.word ∧ ShortDescriptor.IsSmallPage word := by
  have clear : word &&& (Shape.mapping .page4K).reservedMask = 0 := BitVec.and_zero
  have tagged : word &&& (Shape.mapping .page4K).tagMask = (Shape.mapping .page4K).tag ↔
      word.getLsbD 1 = true := by
    have single : word &&& (Shape.mapping .page4K).tagMask =
        if word.getLsbD 1 then 0b10 else 0 := BitVec.and_twoPow word 1
    rw [single]
    cases word.getLsbD 1 <;> decide
  rw [decode?_eq_some_iff, tagged, ShortDescriptor.IsSmallPage]
  simp only [clear, and_true]

/-! ## Targets and bits -/

theorem base_eq_alignDown {granule : Granule} (descriptor : Descriptor (.mapping granule)) :
    descriptor.base = Address.alignDown granule ⟨descriptor.word⟩ := by
  have bound := descriptor.word.isLt
  apply Address.eq_of_toNat_eq
  rw [Address.toNat_alignDown]
  simp only [base, Address.toNat, BitField.get, Granule.frameField, BitVec.toNat_shiftLeft,
    BitVec.toNat_setWidth, BitVec.extractLsb'_toNat, Nat.shiftLeft_eq,
    Nat.shiftRight_eq_div_pow]
  cases granule <;> simp only [Granule.shift, Granule.bytes] <;> omega

/-- The frame comes from the descriptor and the offset from the address. -/
theorem word_target {granule : Granule} (descriptor : Descriptor (.mapping granule))
    (address : VirtualAddress) :
    (descriptor.target address).word =
      (descriptor.word &&& ~~~Address.offsetMask granule) |||
        (address.word &&& Address.offsetMask granule) := by
  -- The base has no bit below the granule, so adding the offset carries nothing.
  have apart : (descriptor.word &&& ~~~Address.offsetMask granule) &&&
      (address.word &&& Address.offsetMask granule) = 0 := by
    apply BitVec.eq_of_getLsbD_eq
    intro index bound
    simp only [BitVec.getLsbD_and, BitVec.getLsbD_not, bound]
    cases (Address.offsetMask granule).getLsbD index <;> simp
  rw [target, base_eq_alignDown, Address.alignDown, Address.offset]
  exact BitVec.add_eq_or_of_and_eq_zero _ _ apart

theorem toNat_table (pointer : CoarseTableDescriptor) :
    pointer.table.toNat = ShortDescriptor.tableStart pointer.word := by
  have parts := toNat_and_not pointer.word 0x3FF
  have low : pointer.word.toNat &&& 0x3FF = pointer.word.toNat % 0x400 :=
    Nat.and_two_pow_sub_one_eq_mod pointer.word.toNat 10
  have bound := pointer.word.isLt
  change (pointer.word &&& 0xFFFFFC00).toNat + (pointer.word.toNat &&& 0x3FF) = _ at parts
  rw [low] at parts
  simp only [ShortDescriptor.tableStart, table, Shape.tableField, Address.toNat, BitField.get,
    BitVec.toNat_shiftLeft, BitVec.toNat_setWidth, BitVec.extractLsb'_toNat, Nat.shiftLeft_eq,
    Nat.shiftRight_eq_div_pow]
  omega

end Descriptor

theorem SecondLevelEntry.target_eq (slot : Slot .coarse) (address : VirtualAddress) :
    slot.secondLevelEntry.target address =
      (ShortDescriptor.pageTarget slot.word address.word).map Address.mk := by
  rw [ShortDescriptor.pageTarget]
  by_cases small : ShortDescriptor.IsSmallPage slot.word
  · have entry := (slot.secondLevelEntry_eq_page4K_iff ⟨slot.word⟩).mpr
      ((Descriptor.decode?_page4K_iff _).mpr ⟨rfl, small⟩)
    rw [if_pos small, entry]
    exact congrArg some (congrArg Address.mk (Descriptor.word_target _ address))
  · rw [if_neg small]
    by_cases large : ShortDescriptor.IsLargePage slot.word
    · have entry := (slot.secondLevelEntry_eq_page64K_iff ⟨slot.word⟩).mpr
        ((Descriptor.decode?_page64K_iff _).mpr ⟨rfl, large⟩)
      rw [if_pos large, entry]
      exact congrArg some (congrArg Address.mk (Descriptor.word_target _ address))
    · rw [if_neg large]
      rcases entry : slot.secondLevelEntry with _ | descriptor | descriptor | word
      · rfl
      · rw [slot.secondLevelEntry_eq_page64K_iff, Descriptor.decode?_page64K_iff] at entry
        exact absurd entry.2 large
      · rw [slot.secondLevelEntry_eq_page4K_iff, Descriptor.decode?_page4K_iff] at entry
        exact absurd entry.2 small
      · rfl

/-! ## Places and bits -/

theorem FirstLevelTable.place_ofAddress (space : AddressSpace) (address : VirtualAddress) :
    space.firstLevel.place (.ofAddress address) =
      ShortDescriptor.firstPlace space.root.word address.word := by
  rw [place, FirstLevelIndex.toNat_ofAddress, ShortDescriptor.firstPlace,
    BitVec.toNat_ushiftRight, Nat.shiftRight_eq_div_pow]
  rfl

theorem CoarseTable.place_ofAddress (pointer : CoarseTableDescriptor)
    (address : VirtualAddress) :
    pointer.coarseTable.place (.ofAddress address) =
      ShortDescriptor.secondPlace pointer.word address.word := by
  have low : (address.word.toNat / 0x1000) &&& 0xFF = address.word.toNat / 0x1000 % 0x100 :=
    Nat.and_two_pow_sub_one_eq_mod _ 8
  have start : pointer.coarseTable.base.toNat = ShortDescriptor.tableStart pointer.word :=
    pointer.toNat_table
  rw [place, SecondLevelIndex.toNat_ofAddress, ShortDescriptor.secondPlace, start,
    BitVec.toNat_and, BitVec.toNat_ushiftRight, Nat.shiftRight_eq_div_pow]
  exact congrArg _ (congrArg _ low.symm)

namespace PhysicalMemory

/-- An access to a window passes its check exactly if all of it lies in the window. -/
theorem checkRange_eq_ok_iff {memory : PhysicalMemory} {base length : Word} {bytes : Nat}
    {address : PhysicalAddress} (extent : memory.extent = .window base length)
    (inside : base.toNat + length.toNat < 0x100000000) (positive : 0 < bytes) :
    memory.checkRange bytes address = .ok () ↔
      memory.Spans address.toNat (address.toNat + bytes) := by
  have ends : windowEnd base length = .ok ⟨base + length⟩ := if_pos inside
  have bounds := windowEnd_eq_ok ends
  have spans : memory.Spans address.toNat (address.toNat + bytes) ↔
      base.toNat ≤ address.toNat ∧ address.toNat + bytes ≤ base.toNat + length.toNat := by
    rw [Spans, extent]
  rw [spans]
  constructor
  · intro passed
    simp only [checkRange, checkStart, extent, ends, bind, Except.bind] at passed
    split at passed
    · split at passed
      · split at passed
        · omega
        · cases passed
      · cases passed
    · cases passed
  · rintro ⟨above, below⟩
    exact covers_of_window extent ends above (by omega) address bytes positive (Nat.le_refl _)
      (Nat.le_refl _)

end PhysicalMemory

namespace AddressSpace

variable {space : AddressSpace} {memory : PhysicalMemory}

/-- The first-level slot of an address, read as bytes. -/
theorem littleEndian_firstPlace (memory : PhysicalMemory)
    (aligned : space.root.toNat % 16384 = 0) (address : VirtualAddress) :
    memory.littleEndian (ShortDescriptor.firstPlace space.root.word address.word) =
      (space.firstLevel.slot memory (.ofAddress address)).word := by
  have wordAligned : space.firstLevel.place (.ofAddress address) % 4 = 0 := by
    change (space.root.toNat + 4 * (FirstLevelIndex.ofAddress address).toNat) % 4 = 0
    omega
  rw [← FirstLevelTable.place_ofAddress, memory.littleEndian_eq_word wordAligned,
    FirstLevelTable.slot]

/-- The slot of an address in the table of a pointer, read as bytes. -/
theorem littleEndian_secondPlace (memory : PhysicalMemory) (pointer : CoarseTableDescriptor)
    (address : VirtualAddress) :
    memory.littleEndian (ShortDescriptor.secondPlace pointer.word address.word) =
      (pointer.coarseTable.slot memory (.ofAddress address)).word := by
  have aligned : pointer.table.toNat % 1024 = 0 := pointer.table_mod_bytes
  have wordAligned : pointer.coarseTable.place (.ofAddress address) % 4 = 0 := by
    change (pointer.table.toNat + 4 * (SecondLevelIndex.ofAddress address).toNat) % 4 = 0
    omega
  rw [← CoarseTable.place_ofAddress, memory.littleEndian_eq_word wordAligned, CoarseTable.slot]

/-- Which pointer, if any, the walk meets is told by the bits of the first word. -/
theorem entry_eq_coarse_iff (aligned : space.root.toNat % 16384 = 0) (address : VirtualAddress)
    (pointer : CoarseTableDescriptor) :
    space.entry memory (.ofAddress address) = .coarse pointer ↔
      memory.littleEndian (ShortDescriptor.firstPlace space.root.word address.word) =
          pointer.word ∧ ShortDescriptor.IsPointer pointer.word := by
  rw [entry, Slot.firstLevelEntry_eq_coarse_iff, Descriptor.decode?_coarse_iff,
    littleEndian_firstPlace memory aligned]
  constructor
  · rintro ⟨same, isPointer⟩
    exact ⟨same, same ▸ isPointer⟩
  · rintro ⟨same, isPointer⟩
    exact ⟨same, same ▸ isPointer⟩

/-- The target of an address is what the bits say. -/
theorem target_eq_walk (aligned : space.root.toNat % 16384 = 0) (address : VirtualAddress) :
    space.target memory address =
      (ShortDescriptor.walk memory.littleEndian space.root.word address.word).map Address.mk := by
  have first := littleEndian_firstPlace memory aligned address
  rw [ShortDescriptor.walk]
  simp only [first]
  by_cases isSection : ShortDescriptor.IsSection
      (space.firstLevel.slot memory (.ofAddress address)).word
  · have found : space.entry memory (.ofAddress address) = .section1M ⟨_⟩ :=
      (Slot.firstLevelEntry_eq_section1M_iff _ _).mpr
        ((Descriptor.decode?_section_iff _).mpr ⟨rfl, isSection⟩)
    rw [if_pos isSection, target, found]
    exact congrArg some (congrArg Address.mk (Descriptor.word_target _ address))
  · rw [if_neg isSection]
    by_cases isPointer : ShortDescriptor.IsPointer
        (space.firstLevel.slot memory (.ofAddress address)).word
    · have found : space.entry memory (.ofAddress address) = .coarse ⟨_⟩ :=
        (Slot.firstLevelEntry_eq_coarse_iff _ _).mpr
          ((Descriptor.decode?_coarse_iff _).mpr ⟨rfl, isPointer⟩)
      have second := littleEndian_secondPlace memory
        ⟨(space.firstLevel.slot memory (.ofAddress address)).word⟩ address
      rw [if_pos isPointer, target, found, second]
      exact SecondLevelEntry.target_eq _ address
    · -- Neither shape fits the word, so the slot is empty or holds a word that is never written.
      rw [if_neg isPointer, target]
      rcases found : space.entry memory (.ofAddress address) with
        _ | pointer | descriptor | word
      · rfl
      · rw [entry, Slot.firstLevelEntry_eq_coarse_iff, Descriptor.decode?_coarse_iff] at found
        exact absurd found.2 isPointer
      · rw [entry, Slot.firstLevelEntry_eq_section1M_iff, Descriptor.decode?_section_iff] at found
        exact absurd found.2 isSection
      · rfl

/-! ## Translation and bits -/

/-- Translation panics as soon as a table on the way fails its check. -/
theorem translate_eq_ok_iff {address : VirtualAddress} {found : Option PhysicalAddress} :
    space.translate memory address = .ok found ↔
      memory.checkRange TableLevel.first.bytes space.root = .ok () ∧
        (∀ pointer, space.entry memory (.ofAddress address) = .coarse pointer →
          memory.checkRange TableLevel.coarse.bytes pointer.table = .ok ()) ∧
        space.target memory address = found := by
  constructor
  · intro translated
    have rootInMemory : memory.checkRange TableLevel.first.bytes space.root = .ok () := by
      rcases checked : memory.checkRange TableLevel.first.bytes space.root with cause | passed
      · simp only [translate, firstLevelSlot, reachFirstLevel_eq_error checked, bind,
          Except.bind] at translated
        cases translated
      · rfl
    have tableInMemory : ∀ pointer, space.entry memory (.ofAddress address) = .coarse pointer →
        memory.checkRange TableLevel.coarse.bytes pointer.table = .ok () := by
      intro pointer met
      rcases checked : memory.checkRange TableLevel.coarse.bytes pointer.table with cause | passed
      · rw [entry] at met
        simp only [translate, firstLevelSlot, reachFirstLevel_eq rootInMemory, bind, Except.bind,
          met, secondLevelSlot, reachCoarse_eq_error checked] at translated
        cases translated
      · rfl
    rw [translate_eq_target rootInMemory tableInMemory] at translated
    exact ⟨rootInMemory, tableInMemory, Except.ok.inj translated⟩
  · rintro ⟨rootInMemory, tableInMemory, rfl⟩
    exact translate_eq_target rootInMemory tableInMemory

/-- The tables on the way to an address lie in memory: the 16 KiB at the root and, under a pointer,
the 1 KiB that it leads to. -/
def TablesInMemory (space : AddressSpace) (memory : PhysicalMemory) (address : VirtualAddress) :
    Prop :=
  let first := memory.littleEndian (ShortDescriptor.firstPlace space.root.word address.word)
  memory.Spans space.root.toNat (space.root.toNat + 16384) ∧
    (ShortDescriptor.IsPointer first →
      memory.Spans (ShortDescriptor.tableStart first) (ShortDescriptor.tableStart first + 1024))

/-- What translation makes of an address, in terms of the bytes of memory. -/
structure FollowsLayout (space : AddressSpace) (memory : PhysicalMemory)
    (address : VirtualAddress) : Prop where
  /-- It panics exactly if a table on the way does not lie in memory. -/
  panics_iff : (∃ cause, space.translate memory address = .error cause) ↔
    ¬ space.TablesInMemory memory address
  /-- If it does not panic, it finds what the bits say. -/
  finds : ∀ found, space.translate memory address = .ok found →
    found = (ShortDescriptor.walk memory.littleEndian space.root.word address.word).map Address.mk
  /-- The offset of the address can be added to the base of any granule. -/
  adds : ∀ (granule : Granule) (descriptor : Descriptor (.mapping granule)),
    descriptor.base.toNat + (address.offset granule).toNat < 0x100000000

theorem FollowsLayout.translate_eq {address : VirtualAddress}
    (follows : space.FollowsLayout memory address) (tables : space.TablesInMemory memory address) :
    space.translate memory address =
      .ok ((ShortDescriptor.walk memory.littleEndian space.root.word address.word).map
        Address.mk) := by
  rcases translated : space.translate memory address with cause | found
  · exact absurd tables (follows.panics_iff.mp ⟨cause, translated⟩)
  · rw [follows.finds found translated]

theorem root_mod_bytes {root : PhysicalAddress} (made : ofRoot root = .ok space) :
    space.root.toNat % 16384 = 0 := by
  unfold ofRoot at made
  split at made
  · next multiple =>
      cases made
      exact multiple
  · cases made

/-- Both checks of the walk pass exactly if the tables on the way lie in memory. -/
theorem tablesInMemory_iff {base length : Word} (extent : memory.extent = .window base length)
    (inside : base.toNat + length.toNat < 0x100000000)
    (aligned : space.root.toNat % 16384 = 0) (address : VirtualAddress) :
    space.TablesInMemory memory address ↔
      memory.checkRange TableLevel.first.bytes space.root = .ok () ∧
        ∀ pointer, space.entry memory (.ofAddress address) = .coarse pointer →
          memory.checkRange TableLevel.coarse.bytes pointer.table = .ok () := by
  have tableChecked : ∀ pointer : CoarseTableDescriptor,
      memory.checkRange TableLevel.coarse.bytes pointer.table = .ok () ↔
        memory.Spans (ShortDescriptor.tableStart pointer.word)
          (ShortDescriptor.tableStart pointer.word + 1024) := by
    intro pointer
    rw [← pointer.toNat_table]
    exact PhysicalMemory.checkRange_eq_ok_iff extent inside (by decide)
  rw [TablesInMemory, PhysicalMemory.checkRange_eq_ok_iff extent inside (by decide)]
  apply and_congr_right
  intro rootSpanned
  constructor
  · intro tableSpanned pointer met
    obtain ⟨same, isPointer⟩ := (entry_eq_coarse_iff aligned address pointer).mp met
    rw [same] at tableSpanned
    exact (tableChecked pointer).mpr (tableSpanned isPointer)
  · intro tableInMemory isPointer
    have met := (entry_eq_coarse_iff aligned address ⟨_⟩).mpr ⟨rfl, isPointer⟩
    exact (tableChecked _).mp (tableInMemory _ met)

/-- In memory that ends below the last address, translation follows the layout. -/
theorem followsLayout_translate {base length : Word} {root : PhysicalAddress}
    (extent : memory.extent = .window base length)
    (inside : base.toNat + length.toNat < 0x100000000) (made : ofRoot root = .ok space)
    (address : VirtualAddress) : space.FollowsLayout memory address := by
  have aligned := root_mod_bytes made
  have checks := tablesInMemory_iff extent inside aligned address
  constructor
  · constructor
    · rintro ⟨cause, stopped⟩ tables
      obtain ⟨rootInMemory, tableInMemory⟩ := checks.mp tables
      rw [translate_eq_target rootInMemory tableInMemory] at stopped
      cases stopped
    · intro outside
      rcases translated : space.translate memory address with cause | found
      · exact ⟨cause, rfl⟩
      · obtain ⟨rootInMemory, tableInMemory, -⟩ := translate_eq_ok_iff.mp translated
        exact absurd (checks.mpr ⟨rootInMemory, tableInMemory⟩) outside
  · intro found translated
    obtain ⟨-, -, same⟩ := translate_eq_ok_iff.mp translated
    rw [← same]
    exact target_eq_walk aligned address
  · intro granule descriptor
    exact descriptor.base_add_offset_lt address

/-- Memory full of words that are never written, but for a pointer to a table with a large page. -/
def junkMemory : PhysicalMemory where
  extent := .window 0x100000 0x8000
  word place :=
    if place = 0x10048C then 0x00104001
    else if place = 0x104114 then 0x7654000D
    else 0xFFFFFFFF

/-- The large page is found among the junk, and a table outside of memory is not read. -/
theorem followsLayout_junkMemory :
    (AddressSpace.mk ⟨0x100000⟩).translate junkMemory ⟨0x12345678⟩ = .ok (some ⟨0x76545678⟩) ∧
      ∃ cause, (AddressSpace.mk ⟨0x200000⟩).translate junkMemory ⟨0x12345678⟩ =
        .error cause := by
  have extent : junkMemory.extent = .window 0x100000 0x8000 := rfl
  have ends : (0x100000 : Word).toNat + (0x8000 : Word).toNat < 0x100000000 := by decide
  have inside : ofRoot ⟨0x100000⟩ = .ok (AddressSpace.mk ⟨0x100000⟩) := rfl
  have beyond : ofRoot ⟨0x200000⟩ = .ok (AddressSpace.mk ⟨0x200000⟩) := rfl
  constructor
  · have tables : (AddressSpace.mk ⟨0x100000⟩).TablesInMemory junkMemory ⟨0x12345678⟩ :=
      ⟨⟨by decide, by decide⟩, fun _ => ⟨by decide, by decide⟩⟩
    exact (followsLayout_translate extent ends inside _).translate_eq tables
  · have outside : ¬ (AddressSpace.mk ⟨0x200000⟩).TablesInMemory junkMemory ⟨0x12345678⟩ := by
      rintro ⟨⟨-, below⟩, -⟩
      exact absurd below (by decide)
    exact (followsLayout_translate extent ends beyond _).panics_iff.mpr outside

end AddressSpace

end Armv6Kernel
