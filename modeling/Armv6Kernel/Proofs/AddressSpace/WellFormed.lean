import Mathlib.Data.Set.Card
import Armv6Kernel.Proofs.AddressSpace.Acceptance
import Armv6Kernel.Proofs.AddressSpace.Persistence

/-!
# Well-formed trees

The processor reads a large page through any of the sixteen slots that hold its descriptor, so that
these slots have to agree.  They always do: a large page is written to all slots of its group at
once, and a group that has a large page is full.  Together with the slots being proper and the
tables furnished, this makes every tree well formed.
-/

namespace Armv6Kernel

/-- The slots of a coarse table fall into groups of sixteen, one for each large page. -/
def SecondLevelIndex.group (index : SecondLevelIndex) : Nat :=
  index.toNat / AddressSpace.largePageCopies

/-- Where a slot of a linked table is a large page, all slots of its group hold the same word. -/
def Replicated (memory : PhysicalMemory) (spaces : Set AddressSpace) : Prop :=
  ∀ ⦃space index pointer⦄, Linked memory spaces space index pointer →
    ∀ ⦃page other : SecondLevelIndex⦄ ⦃descriptor : LargePageDescriptor⦄,
      pointer.coarseTable.entry memory page = .page64K descriptor → other.group = page.group →
        pointer.coarseTable.slot memory other = pointer.coarseTable.slot memory page

/-- A tree holds nothing but what the map operations put there. -/
structure AddressSpace.WellFormed (space : AddressSpace) (memory : PhysicalMemory) : Prop where
  firstProper : ∀ index, (space.firstLevel.slot memory index).FirstLevelProper
  secondProper : ∀ index pointer, space.entry memory index = .coarse pointer →
    ∀ page, (pointer.coarseTable.slot memory page).SecondLevelProper
  replicated : ∀ index pointer, space.entry memory index = .coarse pointer → ∀ group,
    (∀ (page : SecondLevelIndex) descriptor, page.group = group →
      pointer.coarseTable.entry memory page ≠ .page64K descriptor) ∨
    ∃ descriptor, ∀ page : SecondLevelIndex, page.group = group →
      pointer.coarseTable.slot memory page = ⟨descriptor.word⟩ ∧
        pointer.coarseTable.entry memory page = .page64K descriptor
  /-- Reading the slots of a large page never panics. -/
  copies : ∀ address, ∃ slots, space.largePageSlots memory address = .ok slots ∧
    ∀ (descriptor : LargePageDescriptor) domain, space.Finds memory address descriptor domain →
      slots = some (List.replicate largePageCopies ⟨descriptor.word⟩)
  furnished : ∀ index pointer, space.entry memory index = .coarse pointer →
    ∃ address target, FirstLevelIndex.ofAddress address = index ∧
      space.translate memory address = .ok (some target)
  /-- Each MiB in which some address is translated counts once. -/
  counted : space.firstLevelMapped memory = .ok (Set.ncard {number | ∃ address target,
    address.toNat / 0x100000 = number ∧ space.translate memory address = .ok (some target)})

/-! ## Groups -/

namespace SecondLevelIndex

theorem group_eq_of_aligned {start index : SecondLevelIndex}
    (aligned : start.toNat % AddressSpace.largePageCopies = 0) :
    index.group = start.group ↔
      start.toNat ≤ index.toNat ∧ index.toNat < start.toNat + AddressSpace.largePageCopies := by
  simp only [group, AddressSpace.largePageCopies] at aligned ⊢
  omega

theorem ofAddress_mod_of_aligned {start : VirtualAddress}
    (aligned : start.isAligned .page64K = true) :
    (ofAddress start).toNat % AddressSpace.largePageCopies = 0 := by
  rw [Address.isAligned_iff] at aligned
  rw [toNat_ofAddress]
  simp only [Granule.bytes, AddressSpace.largePageCopies] at aligned ⊢
  omega

/-- The group of an address starts with the slot of the large page around it. -/
theorem ofAddress_alignDown (address : VirtualAddress) :
    (ofAddress (address.alignDown .page64K)).toNat =
      (ofAddress address).group * AddressSpace.largePageCopies := by
  rw [group, toNat_ofAddress, toNat_ofAddress, Address.toNat_alignDown]
  simp only [Granule.bytes, AddressSpace.largePageCopies]
  omega

theorem group_lt (index : SecondLevelIndex) : index.group < 16 := by
  have bound := index.toNat_lt
  simp only [group, AddressSpace.largePageCopies]
  omega

end SecondLevelIndex

/-! ## Large pages stay replicated -/

section Words

variable {memory after : PhysicalMemory} {spaces : Set AddressSpace}

/-- A large page leaves no slot of its group empty. -/
theorem Replicated.isFault (replicated : Replicated memory spaces) {space : AddressSpace}
    {index : FirstLevelIndex} {pointer : CoarseTableDescriptor}
    (linked : Linked memory spaces space index pointer) {page other : SecondLevelIndex}
    {descriptor : LargePageDescriptor}
    (large : pointer.coarseTable.entry memory page = .page64K descriptor)
    (sameGroup : other.group = page.group) :
    (pointer.coarseTable.slot memory other).isFault = false := by
  rw [replicated linked large sameGroup, Bool.eq_false_iff]
  intro empty
  rw [CoarseTable.entry, (Slot.secondLevelEntry_eq_fault_iff _).mpr empty] at large
  cases large

/-- A large page from before keeps its word in all slots of its group, as taken slots do. -/
theorem Replicated.of_keeps (replicated : Replicated memory spaces)
    (keeps : Keeps after memory spaces)
    {space : AddressSpace} {index : FirstLevelIndex} {pointer : CoarseTableDescriptor}
    (linked : Linked memory spaces space index pointer) {page other : SecondLevelIndex}
    {descriptor : LargePageDescriptor}
    (large : pointer.coarseTable.entry memory page = .page64K descriptor)
    (sameGroup : other.group = page.group) :
    pointer.coarseTable.slot after other = pointer.coarseTable.slot after page := by
  rw [keeps.second linked _ (replicated.isFault linked large sameGroup),
    keeps.second linked _ (replicated.isFault linked large rfl)]
  exact replicated linked large sameGroup

end Words

namespace Replicated

variable {A : Type} [TableSource A] [CursorSource A] {tables after : TableMemory A} {low : Nat}
  {spaces : Set AddressSpace} {space : AddressSpace} {granule : Granule}
  {start : VirtualAddress} {physical : PhysicalAddress} {domain : Domain} {flags : MapFlags}
  {descriptor : Descriptor (.mapping granule)}

/-- A new tree has no coarse tables. -/
theorem afterRoot (replicated : Replicated tables.memory spaces) (sound : tables.Sound low spaces)
    (room : TableLevel.first.Fits tables.cursor tables.limit) :
    Replicated tables.afterRoot.memory (insert tables.nextSpace spaces) := by
  intro owner index pointer linked page other found large sameGroup
  have agree := TableMemory.agree_afterRoot room
  rcases linked.member with rfl | old
  · have blank := Forest.entry_of_empty (tables.nextSpace_empty index)
    rw [linked.entry] at blank
    cases blank
  · have linkedBefore := (sound.forest.linked_of_agree agree).mp ⟨old, linked.entry⟩
    have same := sound.forest.secondSlot_of_agree agree linkedBefore
    rw [CoarseTable.entry, same] at large
    rw [same, same]
    exact replicated linkedBefore large sameGroup

/-- The slots of a page are a single one, or they are a whole group. -/
theorem of_writesPage (replicated : Replicated tables.memory spaces)
    (sound : tables.Sound low spaces) {pointer : CoarseTableDescriptor}
    (linked : Linked tables.memory spaces space (.ofAddress start) pointer)
    (writes : WritesPage tables granule start physical flags pointer descriptor after) :
    Replicated after.memory spaces := by
  have fills := writes.fillsOnly sound linked
  intro owner index below linkedAfter page other found large sameGroup
  have linkedBefore := sound.forest.linked_of_pageOverwrites linked writes.fits writes.written
    linkedAfter
  have slotAfter := sound.forest.secondSlot_of_pageOverwrites linked writes.fits writes.written
    linkedBefore
  have written := slotAfter page
  split at written
  · next covered =>
      have stored := large
      rw [CoarseTable.entry, written] at stored
      cases granule with
      | page4K =>
          rw [(Slot.secondLevelEntry_eq_page4K_iff _ _).mpr writes.decoded] at stored
          cases stored
      | page64K =>
          have aligned := SecondLevelIndex.ofAddress_mod_of_aligned writes.aligned
          have inGroup := (SecondLevelIndex.group_eq_of_aligned aligned).mpr covered.2
          have otherCovered :=
            (SecondLevelIndex.group_eq_of_aligned aligned).mp (sameGroup.trans inGroup)
          rw [written, slotAfter other, if_pos ⟨covered.1, otherCovered⟩]
      | section1M => exact absurd rfl writes.page
  · rw [CoarseTable.entry, written] at large
    exact replicated.of_keeps fills.keeps linkedBefore large sameGroup

/-- A new table is empty, so that no slot of it is a large page. -/
theorem afterLink (replicated : Replicated tables.memory spaces) (sound : tables.Sound low spaces)
    (member : space ∈ spaces)
    (vacant : space.entry tables.memory (.ofAddress start) = .fault)
    (room : TableLevel.coarse.Fits tables.cursor tables.limit) {pointer : CoarseTableDescriptor}
    (made : Descriptor.forTable (tables.nextTable .coarse) domain = .ok pointer) :
    Replicated (tables.afterLink space start pointer).memory spaces := by
  obtain ⟨-, leads⟩ := TableMemory.forTable_nextTable room made
  obtain ⟨-, linked, fills⟩ := sound.newTable member vacant room made
  intro owner index below linkedAfter page other found large sameGroup
  by_cases here : owner = space ∧ index = .ofAddress start
  · obtain ⟨rfl, rfl⟩ := here
    have same := linkedAfter.pointer_unique linked
    subst same
    have blank : (below.coarseTable.slot (tables.afterLink owner start below).memory page).word =
        0 := afterLink_empty sound member leads room page
    rw [CoarseTable.entry, (Slot.secondLevelEntry_eq_fault_iff _).mpr
      (Slot.isFault_of_word_zero blank)] at large
    cases large
  · have linkedBefore : Linked tables.memory spaces owner index below :=
      ⟨linkedAfter.member, (fills.entry_eq linkedAfter.member here).symm.trans linkedAfter.entry⟩
    have same : ∀ slot, below.coarseTable.slot (tables.afterLink space start pointer).memory slot =
        below.coarseTable.slot tables.memory slot := fun slot =>
      (fills.second linkedBefore slot).resolve_right fun filled => here filled.1
    rw [CoarseTable.entry, same] at large
    rw [same, same]
    exact replicated linkedBefore large sameGroup

theorem of_installs (replicated : Replicated tables.memory spaces) (sound : tables.Sound low spaces)
    (member : space ∈ spaces)
    (installs : Installs tables space start physical domain flags descriptor after) :
    Replicated after.memory spaces := by
  cases installs with
  | @inSlot section1M aligned made decoded vacant =>
      intro owner index pointer linked page other found large sameGroup
      have written : (tables.withEntry space start section1M.word).memory.Overwrites tables.memory
          (space.firstLevel.place (.ofAddress start)) 1 section1M.word :=
        PhysicalMemory.overwrites_store _ _ _
      have maps := (Slot.firstLevelEntry_eq_section1M_iff ⟨section1M.word⟩ _).mpr decoded
      have linkedBefore := sound.forest.linked_of_section member written maps linked
      have same := sound.forest.secondSlot_of_firstOverwrites member written linkedBefore
      rw [CoarseTable.entry, same] at large
      rw [same, same]
      exact replicated linkedBefore large sameGroup
  | inTable linked writes => exact replicated.of_writesPage sound ⟨member, linked⟩ writes
  | inNewTable vacant room made writes =>
      obtain ⟨soundLink, linked, -⟩ := sound.newTable member vacant room made
      have replicatedLink : Replicated (tables.afterLink space start _).memory spaces :=
        replicated.afterLink sound member vacant room made
      exact replicatedLink.of_writesPage soundLink linked writes

end Replicated

/-! ## Reading the copies of a large page -/

namespace CoarseTable

variable {memory : PhysicalMemory}

/-- The slots from the first of a group on are those of the group, and they lie in the table. -/
theorem slots_group (table : CoarseTable) (memory : PhysicalMemory) (address : VirtualAddress) :
    table.slots memory (.ofAddress (address.alignDown .page64K)) AddressSpace.largePageCopies =
      .ok (table.run memory (.ofAddress (address.alignDown .page64K))
        AddressSpace.largePageCopies) := by
  have first := SecondLevelIndex.ofAddress_alignDown address
  have bound := (SecondLevelIndex.ofAddress address).group_lt
  have inside : checkRun (.ofAddress (address.alignDown .page64K)) AddressSpace.largePageCopies =
      .ok () := by
    simp only [AddressSpace.largePageCopies] at first
    have small : ¬ countLimit ≤ (SecondLevelIndex.ofAddress (address.alignDown .page64K)).toNat +
        AddressSpace.largePageCopies := by
      simp only [AddressSpace.largePageCopies, countLimit]
      omega
    have fits : ¬ TableLevel.coarse.entries <
        (SecondLevelIndex.ofAddress (address.alignDown .page64K)).toNat +
          AddressSpace.largePageCopies := by
      simp only [AddressSpace.largePageCopies, TableLevel.entries]
      omega
    exact (if_neg small).trans (if_neg fits)
  rw [slots, inside]
  rfl

theorem mem_run_group {table : CoarseTable} {address : VirtualAddress} {slot : Slot .coarse}
    (member : slot ∈ table.run memory (.ofAddress (address.alignDown .page64K))
      AddressSpace.largePageCopies) :
    ∃ page : SecondLevelIndex, page.group = (SecondLevelIndex.ofAddress address).group ∧
      slot = table.slot memory page := by
  obtain ⟨step, below, rfl⟩ := List.mem_map.mp member
  have stepBound : step < AddressSpace.largePageCopies := List.mem_range.mp below
  have first := SecondLevelIndex.ofAddress_alignDown address
  have bound := (SecondLevelIndex.ofAddress address).group_lt
  refine ⟨⟨BitVec.ofNat 8 ((SecondLevelIndex.ofAddress address).group *
    AddressSpace.largePageCopies + step)⟩, ?_, ?_⟩
  · simp only [AddressSpace.largePageCopies] at stepBound
    simp only [SecondLevelIndex.group, SecondLevelIndex.toNat, BitVec.toNat_ofNat,
      AddressSpace.largePageCopies] at bound ⊢
    omega
  · simp only [AddressSpace.largePageCopies] at stepBound first
    simp only [slot, place, first, AddressSpace.largePageCopies]
    congr 2
    simp only [SecondLevelIndex.toNat, BitVec.toNat_ofNat]
    omega

end CoarseTable

namespace TableMemory.Sound

variable {A : Type} [TableSource A] [CursorSource A] {tables : TableMemory A} {low : Nat}
  {spaces : Set AddressSpace} {space : AddressSpace}

/-- The slots of the large page around an address are read without a panic, and they are equal if
there is a large page. -/
theorem largePageSlots_eq (sound : tables.Sound low spaces)
    (replicated : Replicated tables.memory spaces) (member : space ∈ spaces)
    (address : VirtualAddress) :
    ∃ slots, space.largePageSlots tables.memory address = .ok slots ∧
      ∀ (descriptor : LargePageDescriptor) domain,
        space.Finds tables.memory address descriptor domain →
          slots = some (List.replicate AddressSpace.largePageCopies ⟨descriptor.word⟩) := by
  have first := sound.firstLevelSlot_eq member address
  rcases entry : space.entry tables.memory (.ofAddress address) with
    _ | pointer | mapped | word
  case coarse =>
    have linked : Linked tables.memory spaces space (.ofAddress address) pointer :=
      ⟨member, entry⟩
    have reached := AddressSpace.reachCoarse_eq (sound.table_inMemory linked)
    refine ⟨some (pointer.coarseTable.run tables.memory (.ofAddress (address.alignDown .page64K))
      AddressSpace.largePageCopies), ?_, ?_⟩
    · rw [AddressSpace.entry] at entry
      simp only [AddressSpace.largePageSlots, first, bind, Except.bind, entry, reached,
        CoarseTable.slots_group]
      rfl
    · intro descriptor domain finds
      cases finds with
      | @page64K _ slot pointing below firstFound points second found =>
          rw [first] at firstFound
          cases firstFound
          have same := entry.symm.trans points
          cases same
          rw [sound.secondLevelSlot_eq linked] at second
          cases second
          have word : pointer.coarseTable.slot tables.memory (.ofAddress address) =
              ⟨descriptor.word⟩ := by
            have decoded := (Slot.secondLevelEntry_eq_page64K_iff _ _).mp found
            exact congrArg Slot.mk (Descriptor.decode?_eq_some_iff.mp decoded).1
          refine congrArg some (List.eq_replicate_iff.mpr ⟨?_, fun slot held => ?_⟩)
          · rw [CoarseTable.run, List.length_map, List.length_range]
          · obtain ⟨page, sameGroup, rfl⟩ := CoarseTable.mem_run_group held
            rw [replicated linked found sameGroup, word]
  all_goals
    refine ⟨none, ?_, ?_⟩
    · rw [AddressSpace.entry] at entry
      simp only [AddressSpace.largePageSlots, first, bind, Except.bind, entry]
    · intro descriptor domain finds
      cases finds with
      | page64K firstFound points second found =>
          rw [first] at firstFound
          cases firstFound
          cases entry.symm.trans points

/-! ## Counting the first-level slots that are taken -/

/-- A first-level slot is taken exactly if an address of its MiB is translated. -/
theorem exists_target_iff (sound : tables.Sound low spaces)
    (furnished : Furnished tables.memory spaces) (member : space ∈ spaces)
    (index : FirstLevelIndex) :
    (∃ address target, FirstLevelIndex.ofAddress address = index ∧
      space.target tables.memory address = some target) ↔
      (space.firstLevel.slot tables.memory index).isFault = false := by
  constructor
  · rintro ⟨address, target, rfl, translated⟩
    rw [Bool.eq_false_iff]
    intro empty
    rw [AddressSpace.target, AddressSpace.entry,
      (Slot.firstLevelEntry_eq_fault_iff _).mpr empty] at translated
    cases translated
  · intro taken
    rcases found : space.entry tables.memory index with _ | pointer | descriptor | word
    · have empty := (Slot.firstLevelEntry_eq_fault_iff _).mp found
      rw [taken] at empty
      cases empty
    · obtain ⟨page, held⟩ := furnished ⟨member, found⟩
      obtain ⟨address, rfl, rfl⟩ := exists_address index page
      rcases translated : space.target tables.memory address with _ | target
      · rw [(sound.target_eq_none_iff ⟨member, found⟩).mp translated] at held
        cases held
      · exact ⟨address, target, rfl, translated⟩
    · obtain ⟨address, rfl, -⟩ := exists_address index ⟨0⟩
      refine ⟨address, descriptor.target address, rfl, ?_⟩
      rw [AddressSpace.target, found]
    · exact absurd found ((sound.forest.firstProper member index).entry_ne_unsupported word)

theorem firstLevelMapped_eq (sound : tables.Sound low spaces)
    (furnished : Furnished tables.memory spaces) (member : space ∈ spaces) :
    space.firstLevelMapped tables.memory = .ok (Set.ncard {number | ∃ address target,
      address.toNat / 0x100000 = number ∧
        space.translate tables.memory address = .ok (some target)}) := by
  have reached := AddressSpace.reachFirstLevel_eq (sound.root_inMemory member)
  simp only [AddressSpace.firstLevelMapped, reached, bind, Except.bind, sound.translate_eq member,
    Except.ok.injEq, FirstLevelTable.mappedCount]
  rw [List.countP_eq_length_filter, ← List.toFinset_card_of_nodup (List.nodup_range.filter _),
    ← Set.ncard_coe_finset]
  congr 1
  ext number
  simp only [List.coe_toFinset, List.mem_filter, List.mem_range, Set.mem_ofPred_eq]
  constructor
  · rintro ⟨inTable, taken⟩
    have numbered : (⟨BitVec.ofNat 12 number⟩ : FirstLevelIndex).toNat = number :=
      Nat.mod_eq_of_lt inTable
    have held := (sound.exists_target_iff furnished member ⟨BitVec.ofNat 12 number⟩).mpr (by
      rw [FirstLevelTable.slot, FirstLevelTable.place, numbered]
      simpa using taken)
    obtain ⟨address, target, here, translated⟩ := held
    refine ⟨address, target, ?_, translated⟩
    rw [← FirstLevelIndex.toNat_ofAddress, here, numbered]
  · rintro ⟨address, target, rfl, translated⟩
    have taken := (sound.exists_target_iff furnished member _).mp ⟨address, target, rfl, translated⟩
    rw [← FirstLevelIndex.toNat_ofAddress]
    refine ⟨FirstLevelIndex.toNat_lt _, ?_⟩
    rw [FirstLevelTable.slot, FirstLevelTable.place] at taken
    simp [taken]

/-! ## Runs -/

theorem wellFormed (sound : tables.Sound low spaces) (replicated : Replicated tables.memory spaces)
    (furnished : Furnished tables.memory spaces) (member : space ∈ spaces) :
    space.WellFormed tables.memory where
  firstProper := sound.forest.firstProper member
  secondProper _ _ found := sound.forest.secondProper ⟨member, found⟩
  replicated index pointer found group := by
    by_cases large : ∃ (page : SecondLevelIndex) (descriptor : LargePageDescriptor),
        page.group = group ∧ pointer.coarseTable.entry tables.memory page = .page64K descriptor
    · right
      obtain ⟨page, descriptor, rfl, held⟩ := large
      refine ⟨descriptor, fun other sameGroup => ?_⟩
      have same := replicated ⟨member, found⟩ held sameGroup
      have decoded := (Slot.secondLevelEntry_eq_page64K_iff _ _).mp held
      rw [CoarseTable.entry, same]
      exact ⟨congrArg Slot.mk (Descriptor.decode?_eq_some_iff.mp decoded).1, held⟩
    · exact .inl fun page descriptor sameGroup held => large ⟨page, descriptor, sameGroup, held⟩
  copies := sound.largePageSlots_eq replicated member
  furnished index pointer found := by
    have linked : Linked tables.memory spaces space index pointer := ⟨member, found⟩
    obtain ⟨address, target, here, translated⟩ :=
      (sound.exists_target_iff furnished member index).mpr linked.isFault
    refine ⟨address, target, here, ?_⟩
    rw [sound.translate_eq member, translated]
  counted := sound.firstLevelMapped_eq furnished member

end TableMemory.Sound

namespace SpaceSession

variable {A : Type} [TableSource A] [CursorSource A] {low : Nat} {memory : PhysicalMemory}
  {source : A}

theorem replicated_transcript (settled : Settled low (start memory source))
    (requests : List SpaceRequest) :
    Replicated ((start memory source).transcript requests).session.memory
      {space | space ∈ ((start memory source).transcript requests).session.spaces} := by
  refine (Settled.nextAll (motive := fun transcript =>
    Replicated transcript.session.memory {space | space ∈ transcript.session.spaces}) settled ?_ ?_
    requests).2
  · exact fun _ _ _ linked => absurd linked.member List.not_mem_nil
  · intro session exchanges exchange after settled settledAfter effect replicated
    cases effect with
    | made room =>
        intro owner index pointer linked
        apply replicated.afterRoot settled.sound room
        refine ⟨?_, linked.entry⟩
        rcases List.mem_append.mp linked.member with old | new
        · exact .inr old
        · exact .inl (List.mem_singleton.mp new)
    | mapped found installs =>
        exact replicated.of_installs settled.sound (mem_of_space? found) installs
    | _ => exact replicated

theorem wellFormed_of_begins (begins : Begins low memory source) (requests : List SpaceRequest)
    {space : AddressSpace}
    (member : space ∈ ((start memory source).transcript requests).session.spaces) :
    space.WellFormed ((start memory source).transcript requests).session.memory := by
  rcases begins with settled | unreachable
  · obtain ⟨reached, furnished⟩ := furnished_transcript settled requests
    exact reached.sound.wellFormed (replicated_transcript settled requests) furnished member
  · rw [(barren_transcript source unreachable requests).1] at member
    cases member

/-- In every session, whatever its memory held at first, all trees are well formed, whether their
tables come from an arena or from a heap whose range belongs to memory. -/
theorem wellFormed_transcript {memory : PhysicalMemory} :
    (∀ base length arena, Arena.ofRange base length = .ok arena →
      memory.Spans base.toNat (base.toNat + length.toNat) → ∀ requests,
        let session := ((start memory arena).transcript requests).session
        ∀ space ∈ session.spaces, space.WellFormed session.memory) ∧
    ∀ first last heap, BumpHeap.create first last = .ok heap →
      memory.Spans first.toNat last.toNat → ∀ requests,
        let session := ((start memory heap).transcript requests).session
        ∀ space ∈ session.spaces, space.WellFormed session.memory := by
  constructor
  · intro base length arena ranged spans requests session space member
    exact wellFormed_of_begins (begins_of_arena ranged spans) requests member
  · intro first last heap created spans requests session space member
    exact wellFormed_of_begins (begins_of_heap created spans) requests member

/-- A large page, a page that is refused since it lies in the large page, and a section, over memory
that was not empty before. -/
theorem wellFormed_transcript_largePage :
    let memory : PhysicalMemory := ⟨.window 0x8000 0x10000, fun _ => 0xffffffff⟩
    let arena : Arena := ⟨⟨0x8000⟩, 0x8000, 0x18000⟩
    let heap : BumpHeap := ⟨⟨0x9008⟩, ⟨0x9008⟩, ⟨0x9008⟩, ⟨0x18000⟩⟩
    let requests : List SpaceRequest :=
      [.makeSpace, .map .page64K 0 ⟨0x2e0000⟩ ⟨0x10000⟩ ⟨0⟩ .none,
        .map .page4K 0 ⟨0x2e5000⟩ ⟨0x1000⟩ ⟨0⟩ .none,
        .map .section1M 0 ⟨0x300000⟩ ⟨0x300000⟩ ⟨0⟩ .none]
    let inArena := ((start memory arena).transcript requests).session
    let inHeap := ((start memory heap).transcript requests).session
    (Arena.ofRange 0x8000 0x10000 = .ok arena ∧ memory.Spans 0x8000 0x18000 ∧
      BumpHeap.create ⟨0x9008⟩ ⟨0x18000⟩ = .ok heap ∧ memory.Spans 0x9008 0x18000) ∧
    (inArena.spaces = [⟨⟨0x8000⟩⟩] ∧
      (⟨⟨0x8000⟩⟩ : AddressSpace).firstLevelMapped inArena.memory = .ok 2 ∧
      (⟨⟨0x8000⟩⟩ : AddressSpace).WellFormed inArena.memory) ∧
    inHeap.spaces = [⟨⟨0xc000⟩⟩] ∧ (⟨⟨0xc000⟩⟩ : AddressSpace).WellFormed inHeap.memory := by
  intro memory arena heap requests inArena inHeap
  have spans : memory.Spans 0x8000 0x18000 := ⟨by decide, by decide⟩
  have spansHeap : memory.Spans 0x9008 0x18000 := ⟨by decide, by decide⟩
  have inArenaSpaces : inArena.spaces = [⟨⟨0x8000⟩⟩] := by decide +kernel
  have inHeapSpaces : inHeap.spaces = [⟨⟨0xc000⟩⟩] := by decide +kernel
  have follows := @wellFormed_transcript memory
  refine ⟨⟨rfl, spans, rfl, spansHeap⟩, ⟨inArenaSpaces, by decide +kernel, ?_⟩, inHeapSpaces, ?_⟩
  · refine follows.1 0x8000 0x10000 arena rfl spans requests _ ?_
    exact List.mem_of_mem_head? (congrArg List.head? inArenaSpaces)
  · refine follows.2 ⟨0x9008⟩ ⟨0x18000⟩ heap rfl spansHeap requests _ ?_
    exact List.mem_of_mem_head? (congrArg List.head? inHeapSpaces)

end SpaceSession

end Armv6Kernel
