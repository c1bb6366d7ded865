import Armv6Kernel.Proofs.AddressSpace.Soundness
import Armv6Kernel.Proofs.Descriptor.Making

/-!
# What the map operations do

On sound tables a map operation either installs exactly the mapping it was asked for, or ends
without having changed anything.  Which of the two happens is decided by the alignment of the
addresses, by the slots that the mapping would take, and by the room for a coarse table.
-/

namespace Armv6Kernel

/-- An address lies in the granule that starts at another. -/
def Granule.Covers (granule : Granule) (start address : VirtualAddress) : Prop :=
  start.toNat ≤ address.toNat ∧ address.toNat < start.toNat + granule.bytes

instance (granule : Granule) (start address : VirtualAddress) :
    Decidable (granule.Covers start address) :=
  inferInstanceAs (Decidable (_ ∧ _))

theorem Granule.covers_self (granule : Granule) (start : VirtualAddress) :
    granule.Covers start start := by
  refine ⟨Nat.le_refl _, ?_⟩
  cases granule <;> simp only [bytes] <;> omega

namespace Granule

/-- The number of second-level slots that a page of this size takes. -/
def copies : Granule → Nat
  | page4K => 1
  | page64K => 16
  | section1M => 256

theorem covers_section_iff {start address : VirtualAddress}
    (aligned : start.isAligned .section1M = true) :
    section1M.Covers start address ↔
      FirstLevelIndex.ofAddress address = FirstLevelIndex.ofAddress start := by
  rw [Address.isAligned_iff] at aligned
  rw [FirstLevelIndex.ofAddress_eq_iff]
  simp only [Covers, bytes] at aligned ⊢
  omega

theorem covers_page_iff {granule : Granule} (page : granule ≠ .section1M)
    {start address : VirtualAddress} (aligned : start.isAligned granule = true) :
    granule.Covers start address ↔
      FirstLevelIndex.ofAddress address = FirstLevelIndex.ofAddress start ∧
        (SecondLevelIndex.ofAddress start).toNat ≤ (SecondLevelIndex.ofAddress address).toNat ∧
        (SecondLevelIndex.ofAddress address).toNat <
          (SecondLevelIndex.ofAddress start).toNat + granule.copies := by
  rw [Address.isAligned_iff] at aligned
  rw [FirstLevelIndex.ofAddress_eq_iff]
  simp only [SecondLevelIndex.toNat_ofAddress]
  cases granule with
  | page4K =>
      simp only [Covers, bytes, copies] at aligned ⊢
      omega
  | page64K =>
      simp only [Covers, bytes, copies] at aligned ⊢
      omega
  | section1M => exact absurd rfl page

theorem Covers.mod_bytes {granule : Granule} {start address : VirtualAddress}
    (covers : granule.Covers start address) (aligned : start.isAligned granule = true) :
    address.toNat % granule.bytes = address.toNat - start.toNat := by
  rw [Address.isAligned_iff] at aligned
  unfold Covers at covers
  cases granule <;> simp only [bytes] at aligned covers ⊢ <;> omega

end Granule

variable {A : Type}

/-- The mapping of one granule has been added to a tree, and nothing else has changed in any
tree. -/
structure TableMemory.Maps (after before : TableMemory A) (spaces : Set AddressSpace)
    (space : AddressSpace) (granule : Granule) (start : VirtualAddress)
    (physical : PhysicalAddress) : Prop where
  free : ∀ address, granule.Covers start address → space.target before.memory address = none
  inside : ∀ address, granule.Covers start address →
    ∃ target, space.target after.memory address = some target ∧
      target.toNat = physical.toNat + (address.toNat - start.toNat)
  outside : ∀ other ∈ spaces, ∀ address, ¬ (other = space ∧ granule.Covers start address) →
    other.target after.memory address = other.target before.memory address

theorem Descriptor.target_of_covers {granule : Granule}
    {descriptor : Descriptor (.mapping granule)} {start address : VirtualAddress}
    {physical : PhysicalAddress} (leads : descriptor.base = physical)
    (aligned : start.isAligned granule = true) (covers : granule.Covers start address) :
    (descriptor.target address).toNat = physical.toNat + (address.toNat - start.toNat) := by
  rw [descriptor.toNat_target, leads, covers.mod_bytes aligned]

/-! ## Sections -/

section Sections

variable [TableSource A] [CursorSource A] {tables : TableMemory A} {low : Nat}
  {spaces : Set AddressSpace} {space : AddressSpace}

/-- The tables with a word written to the first-level slot of an address. -/
def TableMemory.withEntry (tables : TableMemory A) (space : AddressSpace)
    (address : VirtualAddress) (word : Word) : TableMemory A :=
  { tables with memory := space.firstLevel.set tables.memory (.ofAddress address) word }

omit [TableSource A] [CursorSource A] in
/-- In any memory that holds the first-level table, the slot decides between aligned addresses. -/
theorem effect_mapSection_of_inMemory
    (rootInMemory : tables.memory.checkRange TableLevel.first.bytes space.root = .ok ())
    {ε : Type} {start : VirtualAddress} {physical : PhysicalAddress}
    (startAligned : start.isAligned .section1M = true)
    (physicalAligned : physical.isAligned .section1M = true) (domain : Domain)
    (flags : MapFlags) :
    (space.entry tables.memory (.ofAddress start) = .fault ∧
      ∃ descriptor : SectionDescriptor,
        Descriptor.forSection physical domain flags = .ok descriptor ∧
        (space.mapSection start physical domain flags : Action (TableMemory A) ε _).effect tables =
          (.value descriptor, tables.withEntry space start descriptor.word)) ∨
    (space.entry tables.memory (.ofAddress start) ≠ .fault ∧
      (space.mapSection start physical domain flags : Action (TableMemory A) ε _).effect tables =
        (.panic (.sectionOccupied start (space.firstLevel.slot tables.memory (.ofAddress start))),
          tables)) := by
  have reached := AddressSpace.reachFirstLevel_eq rootInMemory
  have vacancy : space.entry tables.memory (.ofAddress start) = .fault ↔
      (space.firstLevel.slot tables.memory (.ofAddress start)).isFault = true :=
    Slot.firstLevelEntry_eq_fault_iff _
  unfold AddressSpace.mapSection
  simp only [Action.effect_bind, Action.effect_assert, Action.effect_get, startAligned,
    physicalAligned, if_true, reached, Action.effect_ofExcept_ok]
  by_cases vacant : (space.firstLevel.slot tables.memory (.ofAddress start)).isFault = true
  · left
    obtain ⟨descriptor, made, decoded, -⟩ :=
      Descriptor.forSection_of_isAligned domain flags physicalAligned
    refine ⟨vacancy.mpr vacant, descriptor, made, ?_⟩
    simp only [vacant, if_true, made, Action.effect_ofExcept_ok,
      Descriptor.encode_of_decode? decoded]
    rfl
  · right
    refine ⟨fun empty => vacant (vacancy.mp empty), ?_⟩
    simp only [if_neg vacant]

theorem effect_mapSection (sound : tables.Sound low spaces) (member : space ∈ spaces)
    {ε : Type} (start : VirtualAddress) (physical : PhysicalAddress) (domain : Domain)
    (flags : MapFlags) :
    (start.isAligned .section1M = true ∧ physical.isAligned .section1M = true ∧
      space.entry tables.memory (.ofAddress start) = .fault ∧
      ∃ descriptor : SectionDescriptor,
        Descriptor.forSection physical domain flags = .ok descriptor ∧
        (space.mapSection start physical domain flags : Action (TableMemory A) ε _).effect tables =
          (.value descriptor, tables.withEntry space start descriptor.word)) ∨
    (¬ (start.isAligned .section1M = true ∧ physical.isAligned .section1M = true ∧
        space.entry tables.memory (.ofAddress start) = .fault) ∧
      ∃ cause,
        (space.mapSection start physical domain flags : Action (TableMemory A) ε _).effect tables =
          (.panic cause, tables)) := by
  by_cases startAligned : start.isAligned .section1M = true
  · by_cases physicalAligned : physical.isAligned .section1M = true
    · rcases effect_mapSection_of_inMemory (ε := ε) (sound.root_inMemory member) startAligned
          physicalAligned domain flags with
        ⟨vacant, descriptor, made, effect⟩ | ⟨taken, effect⟩
      · exact .inl ⟨startAligned, physicalAligned, vacant, descriptor, made, effect⟩
      · exact .inr ⟨fun asked => taken asked.2.2, _, effect⟩
    · right
      refine ⟨fun asked => physicalAligned asked.2.1,
        .physicalMisaligned .section1M physical, ?_⟩
      unfold AddressSpace.mapSection
      simp only [Action.effect_bind, Action.effect_assert, startAligned, if_true,
        if_neg physicalAligned]
  · right
    refine ⟨fun asked => startAligned asked.1, .virtualMisaligned .section1M start, ?_⟩
    unfold AddressSpace.mapSection
    simp only [Action.effect_bind, Action.effect_assert, if_neg startAligned]

theorem TableMemory.Sound.mapsSection (sound : tables.Sound low spaces) (member : space ∈ spaces)
    {start : VirtualAddress} {physical : PhysicalAddress} {domain : Domain} {flags : MapFlags}
    (startAligned : start.isAligned .section1M = true)
    (physicalAligned : physical.isAligned .section1M = true)
    (vacant : space.entry tables.memory (.ofAddress start) = .fault)
    {descriptor : SectionDescriptor}
    (made : Descriptor.forSection physical domain flags = .ok descriptor) :
    (tables.withEntry space start descriptor.word).Sound low spaces ∧
      (tables.withEntry space start descriptor.word).Maps tables spaces space .section1M start
        physical := by
  obtain ⟨same, madeSame, decoded, leads⟩ :=
    Descriptor.forSection_of_isAligned domain flags physicalAligned
  rw [made] at madeSame
  cases madeSame
  have written := tables.memory.overwrites_store
    (space.firstLevel.place (.ofAddress start)) descriptor.word
  have maps : (⟨descriptor.word⟩ : Slot .first).firstLevelEntry = .section1M descriptor :=
    (Slot.firstLevelEntry_eq_section1M_iff _ _).mpr decoded
  constructor
  · exact
      { covers := sound.covers.of_extent rfl
        above := sound.above
        below := sound.below
        forest := sound.forest.set_section member written maps }
  · constructor
    · intro address covers
      unfold AddressSpace.target
      rw [(Granule.covers_section_iff startAligned).mp covers, vacant]
    · intro address covers
      have covered := (Granule.covers_section_iff startAligned).mp covers
      exact ⟨descriptor.target address,
        sound.forest.target_of_section member written maps covered,
        Descriptor.target_of_covers leads startAligned covers⟩
    · intro other otherMember address elsewhere
      rw [Granule.covers_section_iff startAligned] at elsewhere
      exact sound.forest.target_of_firstOverwrites member written otherMember elsewhere

end Sections

/-! ## Coarse tables -/

section CoarseTables

variable [TableSource A] [CursorSource A] {tables : TableMemory A} {low : Nat}
  {spaces : Set AddressSpace} {space : AddressSpace}

/-- The tables after an empty coarse table has been taken and linked to the slot of an address. -/
def TableMemory.afterLink (tables : TableMemory A) (space : AddressSpace)
    (address : VirtualAddress) (pointer : CoarseTableDescriptor) : TableMemory A :=
  { tables.afterTable .coarse with
    memory := space.firstLevel.set (pointer.coarseTable.clear tables.memory) (.ofAddress address)
      pointer.word }

omit [CursorSource A] in
theorem effect_ensureCoarse_of_coarse
    (rootInMemory : tables.memory.checkRange TableLevel.first.bytes space.root = .ok ())
    {start : VirtualAddress} (domain : Domain) {pointer : CoarseTableDescriptor}
    (linked : space.entry tables.memory (.ofAddress start) = .coarse pointer) :
    (space.ensureCoarse start domain).effect tables = (.value pointer, tables) := by
  have reached := AddressSpace.reachFirstLevel_eq rootInMemory
  have found : (space.firstLevel.slot tables.memory (.ofAddress start)).firstLevelEntry =
      .coarse pointer := linked
  unfold AddressSpace.ensureCoarse
  simp only [Action.effect_bind, Action.effect_get, reached, Action.effect_ofExcept_ok, found,
    Action.effect_pure]

omit [CursorSource A] in
/-- No table is looked for below a slot that holds anything but a pointer. -/
theorem effect_ensureCoarse_of_other
    (rootInMemory : tables.memory.checkRange TableLevel.first.bytes space.root = .ok ())
    {start : VirtualAddress} (domain : Domain) {entry : FirstLevelEntry}
    (read : space.entry tables.memory (.ofAddress start) = entry) (notFault : entry ≠ .fault)
    (notCoarse : ∀ pointer, entry ≠ .coarse pointer) :
    (space.ensureCoarse start domain).effect tables =
      (.panic (.noCoarseTable start entry), tables) := by
  have reached := AddressSpace.reachFirstLevel_eq rootInMemory
  have found : (space.firstLevel.slot tables.memory (.ofAddress start)).firstLevelEntry =
      entry := read
  unfold AddressSpace.ensureCoarse
  simp only [Action.effect_bind, Action.effect_get, reached, Action.effect_ofExcept_ok, found]
  cases entry with
  | fault => exact absurd rfl notFault
  | coarse pointer => exact absurd rfl (notCoarse pointer)
  | section1M descriptor => rfl
  | unsupported word => rfl

theorem effect_ensureCoarse_of_fault (sound : tables.Sound low spaces) (member : space ∈ spaces)
    {start : VirtualAddress} (domain : Domain)
    (vacant : space.entry tables.memory (.ofAddress start) = .fault) :
    (TableLevel.coarse.Fits tables.cursor tables.limit ∧
      ∃ pointer : CoarseTableDescriptor,
        Descriptor.forTable (tables.nextTable .coarse) domain = .ok pointer ∧
        Descriptor.decode? .coarse pointer.word = some pointer ∧
        pointer.table = tables.nextTable .coarse ∧
        (space.ensureCoarse start domain).effect tables =
          (.value pointer, tables.afterLink space start pointer)) ∨
    (¬ TableLevel.coarse.Fits tables.cursor tables.limit ∧
      (space.ensureCoarse start domain).effect tables =
        (.error (.outOfMemory .coarse), tables)) := by
  have reached := AddressSpace.reachFirstLevel_eq (sound.root_inMemory member)
  have found : (space.firstLevel.slot tables.memory (.ofAddress start)).firstLevelEntry =
      .fault := vacant
  unfold AddressSpace.ensureCoarse
  simp only [Action.effect_bind, Action.effect_get, reached, Action.effect_ofExcept_ok, found,
    TableMemory.effect_takeTable]
  by_cases fits : TableLevel.coarse.Fits tables.cursor tables.limit
  · left
    obtain ⟨pointer, made, decoded, leads⟩ :=
      Descriptor.forTable_of_aligned domain (TableMemory.nextTable_aligned fits)
    have inMemory := sound.nextTable_inMemory fits
    rw [← leads] at inMemory
    refine ⟨fits, pointer, made, decoded, leads, ?_⟩
    simp only [if_pos fits, made, Action.effect_ofExcept_ok, AddressSpace.reachCoarse_eq inMemory,
      Descriptor.encode_of_decode? decoded]
    rfl
  · right
    simp only [if_neg fits]
    exact ⟨fits, trivial⟩

section Link

variable {start : VirtualAddress} {pointer : CoarseTableDescriptor}

/-- The memory in which the new coarse table has been emptied and is not yet linked. -/
theorem agree_clear (leads : pointer.table = tables.nextTable .coarse)
    (fits : TableLevel.coarse.Fits tables.cursor tables.limit) :
    ∀ place < tables.cursor,
      (pointer.coarseTable.clear tables.memory).word place = tables.memory.word place := by
  intro place below
  have bounds := TableMemory.nextTable_bounds fits
  rw [← leads] at bounds
  have cleared := tables.memory.overwrites_fill pointer.table.toNat TableLevel.coarse.entries 0
  exact cleared.outside place (.inl (by omega))

theorem afterLink_empty (sound : tables.Sound low spaces) (member : space ∈ spaces)
    (leads : pointer.table = tables.nextTable .coarse)
    (fits : TableLevel.coarse.Fits tables.cursor tables.limit) (page : SecondLevelIndex) :
    (pointer.coarseTable.slot (tables.afterLink space start pointer).memory page).word = 0 := by
  have bounds := TableMemory.nextTable_bounds fits
  have inside := sound.forest.rootInside member
  have slotBounds := space.firstLevel.place_bounds (.ofAddress start)
  have pageBounds := pointer.coarseTable.place_bounds page
  rw [← leads] at bounds
  simp only [AddressSpace.firstLevel, Descriptor.coarseTable] at slotBounds pageBounds
  have cleared := tables.memory.overwrites_fill pointer.table.toNat TableLevel.coarse.entries 0
  have written := (pointer.coarseTable.clear tables.memory).overwrites_store
    (space.firstLevel.place (.ofAddress start)) pointer.word
  calc
    _ = (pointer.coarseTable.clear tables.memory).word (pointer.coarseTable.place page) :=
      written.outside _ (.inr (by
        simp only [AddressSpace.firstLevel, Descriptor.coarseTable]
        omega))
    _ = 0 := cleared.inside page.toNat page.toNat_lt

theorem TableMemory.Sound.afterLink (sound : tables.Sound low spaces) (member : space ∈ spaces)
    (vacant : space.entry tables.memory (.ofAddress start) = .fault)
    (decoded : Descriptor.decode? .coarse pointer.word = some pointer)
    (leads : pointer.table = tables.nextTable .coarse)
    (fits : TableLevel.coarse.Fits tables.cursor tables.limit) :
    (tables.afterLink space start pointer).Sound low spaces ∧
      Linked (tables.afterLink space start pointer).memory spaces space (.ofAddress start)
        pointer ∧
      ∀ other ∈ spaces, ∀ address,
        other.target (tables.afterLink space start pointer).memory address =
          other.target tables.memory address := by
  have bounds := nextTable_bounds fits
  have positive := TableLevel.coarse.bytes_pos
  have above := sound.above
  have sameSource : (tables.afterLink space start pointer).source =
      (tables.afterTable .coarse).source := rfl
  have cursorAfter : (tables.afterLink space start pointer).cursor =
      (tables.nextTable .coarse).toNat + TableLevel.coarse.bytes := by
    rw [cursor_of_source sameSource, cursor_afterTable fits]
  have limitAfter : (tables.afterLink space start pointer).limit = tables.limit := by
    rw [limit_of_source sameSource, limit_afterTable]
  have agree := agree_clear leads fits
  have cleared := sound.forest.of_agree agree
  have written : (tables.afterLink space start pointer).memory.Overwrites
      (pointer.coarseTable.clear tables.memory) (space.firstLevel.place (.ofAddress start)) 1
      pointer.word :=
    PhysicalMemory.overwrites_store _ _ _
  have emptied := tables.memory.overwrites_fill pointer.table.toNat TableLevel.coarse.entries 0
  have sameExtent : (tables.afterLink space start pointer).memory.extent = tables.memory.extent :=
    written.extent.trans emptied.extent
  have points : (⟨pointer.word⟩ : Slot .first).firstLevelEntry = .coarse pointer :=
    (Slot.firstLevelEntry_eq_coarse_iff _ _).mpr decoded
  have empty : ∀ page,
      (pointer.coarseTable.slot (tables.afterLink space start pointer).memory page).word = 0 :=
    afterLink_empty sound member leads fits
  have vacantCleared : space.entry (pointer.coarseTable.clear tables.memory) (.ofAddress start) =
      .fault := by
    rw [AddressSpace.entry, sound.forest.firstSlot_of_agree agree member]
    exact vacant
  refine ⟨?_, ⟨member, ?_⟩, ?_⟩
  · have grown := cleared.set_pointer sound.above member written points (by
      rw [leads]
      exact bounds.1) empty
    constructor
    · rw [limitAfter]
      exact sound.covers.of_extent sameExtent
    · omega
    · omega
    · rw [cursorAfter, ← leads]
      exact grown
  · have entryAfter := cleared.entry_of_overwrites member written member (.ofAddress start)
    rw [if_pos ⟨rfl, rfl⟩, points] at entryAfter
    exact entryAfter
  · intro other otherMember address
    calc
      _ = other.target (pointer.coarseTable.clear tables.memory) address :=
        cleared.target_of_pointer member vacantCleared written points empty otherMember address
      _ = other.target tables.memory address :=
        sound.forest.target_of_agree agree otherMember address

end Link

end CoarseTables

end Armv6Kernel
