import Armv6Kernel.Proofs.AddressSpace.Paging
import Armv6Kernel.Proofs.Descriptor.Attributes

/-!
# What a mapping writes

A map operation that succeeds fills an empty first-level slot with a section, or it fills empty
slots of a coarse table with copies of a page descriptor.  The coarse table is the one below the
slot of the page or, if that slot is empty, a new one.  `Installs` lists these cases with the words
that are written.
-/

namespace Armv6Kernel

variable {A : Type} [TableSource A] [CursorSource A]

/-- The slots of a page in a coarse table were empty and have been filled with its descriptor. -/
structure WritesPage (before : TableMemory A) (granule : Granule) (start : VirtualAddress)
    (physical : PhysicalAddress) (flags : MapFlags) (pointer : CoarseTableDescriptor)
    (descriptor : Descriptor (.mapping granule)) (after : TableMemory A) : Prop where
  page : granule ≠ .section1M
  aligned : start.isAligned granule = true
  made : Descriptor.forMapping granule physical flags = .ok descriptor
  decoded : Descriptor.decode? (.mapping granule) descriptor.word = some descriptor
  fits : (SecondLevelIndex.ofAddress start).toNat + granule.copies ≤ TableLevel.coarse.entries
  empty : PageSlotsEmpty before.memory pointer granule start
  written : after.memory.Overwrites before.memory (pointer.coarseTable.place (.ofAddress start))
    granule.copies descriptor.word
  source : after.source = before.source

/-- What has been written by a map operation that succeeded. -/
inductive Installs (before : TableMemory A) (space : AddressSpace) (start : VirtualAddress)
    (physical : PhysicalAddress) (domain : Domain) (flags : MapFlags) :
    {granule : Granule} → Descriptor (.mapping granule) → TableMemory A → Prop
  | inSlot {descriptor : SectionDescriptor} (aligned : start.isAligned .section1M = true)
      (made : Descriptor.forSection physical domain flags = .ok descriptor)
      (decoded : Descriptor.decode? (.mapping .section1M) descriptor.word = some descriptor)
      (vacant : space.entry before.memory (.ofAddress start) = .fault) :
      Installs before space start physical domain flags descriptor
        (before.withEntry space start descriptor.word)
  | inTable {granule : Granule} {descriptor : Descriptor (.mapping granule)}
      {pointer : CoarseTableDescriptor} {after : TableMemory A}
      (linked : space.entry before.memory (.ofAddress start) = .coarse pointer)
      (writes : WritesPage before granule start physical flags pointer descriptor after) :
      Installs before space start physical domain flags descriptor after
  | inNewTable {granule : Granule} {descriptor : Descriptor (.mapping granule)}
      {pointer : CoarseTableDescriptor} {after : TableMemory A}
      (vacant : space.entry before.memory (.ofAddress start) = .fault)
      (room : TableLevel.coarse.Fits before.cursor before.limit)
      (made : Descriptor.forTable (before.nextTable .coarse) domain = .ok pointer)
      (writes : WritesPage (before.afterLink space start pointer) granule start physical flags
        pointer descriptor after) :
      Installs before space start physical domain flags descriptor after

variable {tables after : TableMemory A} {low : Nat} {spaces : Set AddressSpace}
  {space : AddressSpace} {granule : Granule} {start : VirtualAddress}
  {physical : PhysicalAddress} {domain : Domain} {flags : MapFlags}
  {descriptor : Descriptor (.mapping granule)}

/-! ## Operations that succeed -/

omit [TableSource A] [CursorSource A] in
theorem effect_setMemory_eq_value {ε : Type} {memory : PhysicalMemory} {result : Unit}
    (ended : (TableMemory.setMemory memory : Action (TableMemory A) ε Unit).effect tables =
      (.value result, after)) :
    after = { tables with memory := memory } := by
  cases ended
  rfl

theorem AddressSpace.reachFirstLevel_eq_ok {memory : PhysicalMemory} {table : FirstLevelTable}
    (reached : space.reachFirstLevel memory = .ok table) :
    memory.checkRange TableLevel.first.bytes space.root = .ok () ∧ table = space.firstLevel := by
  unfold reachFirstLevel at reached
  rcases checked : memory.checkRange TableLevel.first.bytes space.root with cause | passed
  · rw [checked] at reached
    cases reached
  · rw [checked] at reached
    cases reached
    exact ⟨rfl, rfl⟩

theorem AddressSpace.reachCoarse_eq_ok {memory : PhysicalMemory}
    {pointer : CoarseTableDescriptor} {table : CoarseTable}
    (reached : reachCoarse memory pointer = .ok table) :
    memory.checkRange TableLevel.coarse.bytes pointer.table = .ok () ∧
      table = pointer.coarseTable := by
  unfold reachCoarse at reached
  rcases checked : memory.checkRange TableLevel.coarse.bytes pointer.table with cause | passed
  · rw [checked] at reached
    cases reached
  · rw [checked] at reached
    cases reached
    exact ⟨rfl, rfl⟩

theorem TableMemory.forTable_nextTable (room : TableLevel.coarse.Fits tables.cursor tables.limit)
    {pointer : CoarseTableDescriptor}
    (made : Descriptor.forTable (tables.nextTable .coarse) domain = .ok pointer) :
    Descriptor.decode? .coarse pointer.word = some pointer ∧
      pointer.table = tables.nextTable .coarse := by
  obtain ⟨same, madeSame, decoded, leads⟩ :=
    Descriptor.forTable_of_aligned domain (nextTable_aligned room)
  rw [made] at madeSame
  cases madeSame
  exact ⟨decoded, leads⟩

/-- A page goes to the table below its slot, or else to a new one, and the root lies in memory. -/
theorem ensureCoarse_eq_value {pointer : CoarseTableDescriptor}
    (ensured : (space.ensureCoarse start domain).effect tables = (.value pointer, after)) :
    tables.memory.checkRange TableLevel.first.bytes space.root = .ok () ∧
      ((space.entry tables.memory (.ofAddress start) = .coarse pointer ∧ after = tables) ∨
        (space.entry tables.memory (.ofAddress start) = .fault ∧
          TableLevel.coarse.Fits tables.cursor tables.limit ∧
          Descriptor.forTable (tables.nextTable .coarse) domain = .ok pointer ∧
          after = tables.afterLink space start pointer)) := by
  unfold AddressSpace.ensureCoarse at ensured
  rw [Action.effect_bind, Action.effect_get] at ensured
  dsimp only at ensured
  obtain ⟨table, middle, rootFound, entryAhead⟩ := Action.effect_bind_eq_value ensured
  obtain ⟨reached, unchanged⟩ := Action.effect_ofExcept_eq_value rootFound
  rw [unchanged] at entryAhead
  obtain ⟨inMemory, rfl⟩ := AddressSpace.reachFirstLevel_eq_ok reached
  refine ⟨inMemory, ?_⟩
  rcases found : (space.firstLevel.slot tables.memory (.ofAddress start)).firstLevelEntry with
    _ | linked | section1M | word
  · rw [found] at entryAhead
    obtain ⟨address, _, taken, pointerAhead⟩ := Action.effect_bind_eq_value entryAhead
    rw [TableMemory.effect_takeTable] at taken
    by_cases room : TableLevel.coarse.Fits tables.cursor tables.limit
    · rw [if_pos room] at taken
      cases taken
      obtain ⟨_, _, pointerMade, coarseAhead⟩ := Action.effect_bind_eq_value pointerAhead
      obtain ⟨made, rfl⟩ := Action.effect_ofExcept_eq_value pointerMade
      obtain ⟨_, _, tableFound, clearAhead⟩ := Action.effect_bind_eq_value coarseAhead
      obtain ⟨coarseReached, rfl⟩ := Action.effect_ofExcept_eq_value tableFound
      obtain ⟨-, rfl⟩ := AddressSpace.reachCoarse_eq_ok coarseReached
      obtain ⟨_, _, cleared, wordAhead⟩ := Action.effect_bind_eq_value clearAhead
      cases effect_setMemory_eq_value cleared
      obtain ⟨_, _, wordMade, linkAhead⟩ := Action.effect_bind_eq_value wordAhead
      obtain ⟨encoded, rfl⟩ := Action.effect_ofExcept_eq_value wordMade
      obtain ⟨-, rfl⟩ := (Descriptor.encode_eq_ok_iff _ _).mp encoded
      obtain ⟨_, _, wordWritten, logAhead⟩ := Action.effect_bind_eq_value linkAhead
      cases effect_setMemory_eq_value wordWritten
      cases logAhead
      exact .inr ⟨found, room, made, rfl⟩
    · rw [if_neg room] at taken
      cases taken
  · rw [found] at entryAhead
    cases entryAhead
    exact .inl ⟨found, rfl⟩
  · rw [found] at entryAhead
    cases entryAhead
  · rw [found] at entryAhead
    cases entryAhead

theorem installs_page {pointer : CoarseTableDescriptor} {middle : TableMemory A}
    (ensured : (space.ensureCoarse start domain).effect tables = (.value pointer, middle))
    (writes : WritesPage middle granule start physical flags pointer descriptor after) :
    Installs tables space start physical domain flags descriptor after := by
  obtain ⟨-, ⟨linked, rfl⟩ | ⟨vacant, room, made, rfl⟩⟩ := ensureCoarse_eq_value ensured
  · exact .inTable linked writes
  · exact .inNewTable vacant room made writes

omit [CursorSource A] in
/-- A small page is written to a table that lies in memory. -/
theorem mapSmallPage_eq_value {descriptor : SmallPageDescriptor}
    (ended : (space.mapSmallPage start physical domain flags).effect tables =
      (.value descriptor, after)) :
    ∃ pointer middle, (space.ensureCoarse start domain).effect tables = (.value pointer, middle) ∧
      middle.memory.checkRange TableLevel.coarse.bytes pointer.table = .ok () ∧
      WritesPage middle .page4K start physical flags pointer descriptor after := by
  unfold AddressSpace.mapSmallPage at ended
  obtain ⟨_, _, startChecked, physicalAhead⟩ := Action.effect_bind_eq_value ended
  obtain ⟨startAligned, rfl⟩ := Action.effect_assert_eq_value startChecked
  obtain ⟨_, _, physicalChecked, tableAhead⟩ := Action.effect_bind_eq_value physicalAhead
  obtain ⟨physicalAligned, rfl⟩ := Action.effect_assert_eq_value physicalChecked
  obtain ⟨pointer, _, ensured, getAhead⟩ := Action.effect_bind_eq_value tableAhead
  rw [Action.effect_bind, Action.effect_get] at getAhead
  dsimp only at getAhead
  obtain ⟨table, _, tableFound, slotAhead⟩ := Action.effect_bind_eq_value getAhead
  obtain ⟨reached, rfl⟩ := Action.effect_ofExcept_eq_value tableFound
  obtain ⟨inMemory, rfl⟩ := AddressSpace.reachCoarse_eq_ok reached
  obtain ⟨_, _, slotChecked, descriptorAhead⟩ := Action.effect_bind_eq_value slotAhead
  obtain ⟨vacant, rfl⟩ := Action.effect_assert_eq_value slotChecked
  obtain ⟨_, _, descriptorMade, wordAhead⟩ := Action.effect_bind_eq_value descriptorAhead
  obtain ⟨made, rfl⟩ := Action.effect_ofExcept_eq_value descriptorMade
  obtain ⟨_, _, wordMade, writeAhead⟩ := Action.effect_bind_eq_value wordAhead
  obtain ⟨encoded, rfl⟩ := Action.effect_ofExcept_eq_value wordMade
  obtain ⟨decoded, rfl⟩ := (Descriptor.encode_eq_ok_iff _ _).mp encoded
  obtain ⟨_, _, wordWritten, logAhead⟩ := Action.effect_bind_eq_value writeAhead
  cases effect_setMemory_eq_value wordWritten
  cases logAhead
  refine ⟨pointer, _, ensured, inMemory,
    { page := by decide
      aligned := startAligned
      made := made
      decoded := decoded
      fits := Granule.copies_fit (by decide) fun impossible => (by cases impossible)
      empty := ?_
      written := PhysicalMemory.overwrites_store _ _ _
      source := rfl }⟩
  intro step below
  have first : step = 0 := Nat.lt_one_iff.mp below
  rw [first]
  exact vacant

theorem installs_smallPage {descriptor : SmallPageDescriptor}
    (ended : (space.mapSmallPage start physical domain flags).effect tables =
      (.value descriptor, after)) :
    Installs tables space start physical domain flags descriptor after := by
  obtain ⟨_, _, ensured, -, writes⟩ := mapSmallPage_eq_value ended
  exact installs_page ensured writes

theorem installs_largePage {descriptor : LargePageDescriptor}
    (ended : (space.mapLargePage start physical domain flags).effect tables =
      (.value descriptor, after)) :
    Installs tables space start physical domain flags descriptor after := by
  unfold AddressSpace.mapLargePage at ended
  obtain ⟨_, _, startChecked, physicalAhead⟩ := Action.effect_bind_eq_value ended
  obtain ⟨startAligned, rfl⟩ := Action.effect_assert_eq_value startChecked
  obtain ⟨_, _, physicalChecked, placeAhead⟩ := Action.effect_bind_eq_value physicalAhead
  obtain ⟨physicalAligned, rfl⟩ := Action.effect_assert_eq_value physicalChecked
  obtain ⟨_, _, placeChecked, tableAhead⟩ := Action.effect_bind_eq_value placeAhead
  obtain ⟨lowEnough, rfl⟩ := Action.effect_assert_eq_value placeChecked
  have placed := of_decide_eq_true lowEnough
  obtain ⟨pointer, _, ensured, getAhead⟩ := Action.effect_bind_eq_value tableAhead
  rw [Action.effect_bind, Action.effect_get] at getAhead
  dsimp only at getAhead
  obtain ⟨table, middle, tableFound, slotsAhead⟩ := Action.effect_bind_eq_value getAhead
  obtain ⟨reached, rfl⟩ := Action.effect_ofExcept_eq_value tableFound
  obtain ⟨-, rfl⟩ := AddressSpace.reachCoarse_eq_ok reached
  rw [pointer.coarseTable.slots_of_placed _ placed, Action.effect_bind,
    Action.effect_ofExcept_ok] at slotsAhead
  dsimp only at slotsAhead
  obtain ⟨_, _, slotsChecked, descriptorAhead⟩ := Action.effect_bind_eq_value slotsAhead
  rcases effect_checkEmpty start (SecondLevelIndex.ofAddress start).toNat
      (pointer.coarseTable.run middle.memory (.ofAddress start) AddressSpace.largePageCopies)
      middle with
    ⟨empty, passed⟩ | ⟨_, _, -, -, -, stopped⟩
  · rw [passed] at slotsChecked
    cases slotsChecked
    obtain ⟨_, _, descriptorMade, wordAhead⟩ := Action.effect_bind_eq_value descriptorAhead
    obtain ⟨made, rfl⟩ := Action.effect_ofExcept_eq_value descriptorMade
    obtain ⟨_, _, wordMade, fillAhead⟩ := Action.effect_bind_eq_value wordAhead
    obtain ⟨encoded, rfl⟩ := Action.effect_ofExcept_eq_value wordMade
    obtain ⟨decoded, rfl⟩ := (Descriptor.encode_eq_ok_iff _ _).mp encoded
    rw [pointer.coarseTable.fillSlots_of_placed _ placed, Action.effect_bind,
      Action.effect_ofExcept_ok] at fillAhead
    dsimp only at fillAhead
    obtain ⟨_, _, slotsFilled, logAhead⟩ := Action.effect_bind_eq_value fillAhead
    cases effect_setMemory_eq_value slotsFilled
    cases logAhead
    refine installs_page ensured
      { page := by decide
        aligned := startAligned
        made := made
        decoded := decoded
        fits := Granule.copies_fit (by decide) fun _ => placed
        empty := ?_
        written := PhysicalMemory.overwrites_fill _ _ _ _
        source := rfl }
    intro step below
    exact empty _ (List.mem_map.mpr ⟨step, List.mem_range.mpr below, rfl⟩)
  · rw [stopped] at slotsChecked
    cases slotsChecked

theorem installs_section (sound : tables.Sound low spaces) (member : space ∈ spaces)
    {descriptor : SectionDescriptor}
    (ended : (space.mapSection start physical domain flags :
      Action (TableMemory A) MapError _).effect tables = (.value descriptor, after)) :
    Installs tables space start physical domain flags descriptor after := by
  rcases effect_mapSection (ε := MapError) sound member start physical domain flags with
    ⟨startAligned, physicalAligned, vacant, same, made, effect⟩ | ⟨-, cause, effect⟩
  · rw [effect] at ended
    cases ended
    obtain ⟨_, madeAgain, decoded, -⟩ :=
      Descriptor.forSection_of_isAligned domain flags physicalAligned
    rw [made] at madeAgain
    cases madeAgain
    exact .inSlot startAligned made decoded vacant
  · rw [effect] at ended
    cases ended

/-- A map operation that succeeds has written what `Installs` says. -/
theorem installs_mapGranule (sound : tables.Sound low spaces) (member : space ∈ spaces)
    (ended : (space.mapGranule granule start physical domain flags).effect tables =
      (.value descriptor, after)) :
    Installs tables space start physical domain flags descriptor after := by
  cases granule with
  | page4K => exact installs_smallPage ended
  | page64K => exact installs_largePage ended
  | section1M => exact installs_section sound member ended

end Armv6Kernel
