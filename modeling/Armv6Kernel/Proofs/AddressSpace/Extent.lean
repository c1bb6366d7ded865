import Armv6Kernel.Proofs.AddressSpace.Filling

/-!
# Tables in memory that ends

A source of tables may reach beyond memory.  An operation then panics as soon as it comes to a table
that does not lie in memory, before it has written a word, and it may have moved the cursor of the
source.  As long as it comes to no such table, it does what it would do in memory without bounds.
-/

namespace Armv6Kernel

/-- The same words, all of which can be reached. -/
def PhysicalMemory.unbounded (memory : PhysicalMemory) : PhysicalMemory :=
  { memory with extent := .everywhere }

theorem PhysicalMemory.covers_unbounded (memory : PhysicalMemory) (low high : Nat) :
    memory.unbounded.Covers low high :=
  fun _ _ _ _ _ => rfl

/-- Whether slots are empty is told from the slots alone. -/
theorem effect_checkEmpty_eq (σ : Type) (virtual : VirtualAddress) (first : Nat)
    (slots : List (Slot .coarse)) :
    ∃ verdict, ∀ state : σ, (AddressSpace.checkEmpty virtual first slots :
      Action σ MapError Unit).effect state = (verdict, state) := by
  unfold AddressSpace.checkEmpty
  split
  · exact ⟨_, fun _ => rfl⟩
  · exact ⟨_, fun _ => rfl⟩

variable {A : Type}

namespace TableMemory

def unbounded (tables : TableMemory A) : TableMemory A :=
  { tables with memory := tables.memory.unbounded }

/-- The same words in memory of another extent. -/
def inExtent (tables : TableMemory A) (extent : MemoryExtent) : TableMemory A :=
  { tables with memory := { tables.memory with extent := extent } }

variable [TableSource A] [CursorSource A]

/-- The source is as before, or one table has been taken from it. -/
def MovesTo (tables : TableMemory A) (source : A) : Prop :=
  source = tables.source ∨ ∃ level : TableLevel, level.Fits tables.cursor tables.limit ∧
    source = (tables.afterTable level).source

theorem movesTo_source (tables : TableMemory A) : tables.MovesTo tables.source :=
  .inl rfl

/-- How an operation ends, given how it ends in memory without bounds: in the same way, or with a
panic before it has written anything. -/
inductive Follows {ε α : Type} (tables : TableMemory A) (free : Outcome ε α × TableMemory A) :
    Outcome ε α × TableMemory A → Prop
  | ended : Follows tables free (free.1, free.2.inExtent tables.memory.extent)
  | stopped {cause : Panic} {source : A} (moved : tables.MovesTo source) :
      Follows tables free (.panic cause, { tables with source := source })

variable {ε α : Type} {tables : TableMemory A}

theorem Follows.of_eq {free bound : Outcome ε α × TableMemory A}
    (same : bound = (free.1, free.2.inExtent tables.memory.extent)) :
    Follows tables free bound := by
  rw [same]
  exact .ended

/-- A panic before anything has been done. -/
theorem Follows.refused {free : Outcome ε α × TableMemory A} (cause : Panic) :
    Follows tables free (.panic cause, tables) :=
  .stopped tables.movesTo_source

theorem follows_assert (condition : Bool) (cause : Panic)
    {next : Unit → Action (TableMemory A) ε α}
    (passed : Follows tables ((next ()).effect tables.unbounded) ((next ()).effect tables)) :
    Follows tables ((Action.assert condition cause >>= next).effect tables.unbounded)
      ((Action.assert condition cause >>= next).effect tables) := by
  rw [Action.effect_bind, Action.effect_bind, Action.effect_assert, Action.effect_assert]
  cases condition with
  | true => exact passed
  | false => exact .ended

end TableMemory

open TableMemory

variable [TableSource A] [CursorSource A] {tables : TableMemory A} {space : AddressSpace}

omit [TableSource A] [CursorSource A] in
theorem AddressSpace.reachFirstLevel_unbounded (space : AddressSpace) (tables : TableMemory A) :
    space.reachFirstLevel tables.unbounded.memory = .ok space.firstLevel :=
  rfl

omit [TableSource A] [CursorSource A] in
theorem AddressSpace.reachCoarse_unbounded (tables : TableMemory A)
    (pointer : CoarseTableDescriptor) :
    reachCoarse tables.unbounded.memory pointer = .ok pointer.coarseTable :=
  rfl

theorem AddressSpace.reachFirstLevel_eq_error {memory : PhysicalMemory} {cause : Panic}
    (outside : memory.checkRange TableLevel.first.bytes space.root = .error cause) :
    space.reachFirstLevel memory = .error cause := by
  rw [reachFirstLevel, outside]
  rfl

theorem AddressSpace.reachCoarse_eq_error {memory : PhysicalMemory}
    {pointer : CoarseTableDescriptor} {cause : Panic}
    (outside : memory.checkRange TableLevel.coarse.bytes pointer.table = .error cause) :
    reachCoarse memory pointer = .error cause := by
  rw [reachCoarse, outside]
  rfl

/-! ## The operations -/

theorem follows_mapSection {ε : Type} (tables : TableMemory A) (space : AddressSpace)
    (start : VirtualAddress) (physical : PhysicalAddress) (domain : Domain) (flags : MapFlags) :
    Follows tables
      ((space.mapSection start physical domain flags : Action (TableMemory A) ε _).effect
        tables.unbounded)
      ((space.mapSection start physical domain flags : Action (TableMemory A) ε _).effect
        tables) := by
  unfold AddressSpace.mapSection
  refine follows_assert _ _ (follows_assert _ _ ?_)
  simp only [Action.effect_bind, Action.effect_get, AddressSpace.reachFirstLevel_unbounded,
    Action.effect_ofExcept_ok]
  rcases checked : tables.memory.checkRange TableLevel.first.bytes space.root with cause | passed
  · rw [AddressSpace.reachFirstLevel_eq_error checked]
    exact .refused cause
  · have sameSlot : space.firstLevel.slot tables.unbounded.memory (.ofAddress start) =
        space.firstLevel.slot tables.memory (.ofAddress start) := rfl
    rw [AddressSpace.reachFirstLevel_eq checked]
    simp only [Action.effect_ofExcept_ok, Action.effect_assert, sameSlot]
    rcases (space.firstLevel.slot tables.memory (.ofAddress start)).isFault with _ | _
    · exact .ended
    · rcases Descriptor.forSection physical domain flags with cause | descriptor
      · exact .ended
      · simp only [if_true, Action.effect_ofExcept_ok]
        rcases descriptor.encode with cause | word
        · exact .ended
        · exact .ended

/-- The part of a page operation that uses the coarse table does the same in all memory that the
table lies in. -/
structure UsesTable {α : Type}
    (install : CoarseTableDescriptor → Action (TableMemory A) MapError α) :
    Prop where
  inside : ∀ (pointer : CoarseTableDescriptor) (tables : TableMemory A),
    tables.memory.checkRange TableLevel.coarse.bytes pointer.table = .ok () →
      (install pointer).effect tables =
        (((install pointer).effect tables.unbounded).1,
          ((install pointer).effect tables.unbounded).2.inExtent tables.memory.extent)
  outside : ∀ (pointer : CoarseTableDescriptor) (tables : TableMemory A) (cause : Panic),
    tables.memory.checkRange TableLevel.coarse.bytes pointer.table = .error cause →
      (install pointer).effect tables = (.panic cause, tables)

theorem TableMemory.extent_afterLink (tables : TableMemory A) (space : AddressSpace)
    (start : VirtualAddress) (pointer : CoarseTableDescriptor) :
    (tables.afterLink space start pointer).memory.extent = tables.memory.extent := by
  rw [afterLink, FirstLevelTable.set, PhysicalMemory.extent_store, CoarseTable.clear,
    PhysicalMemory.extent_fill]

theorem follows_ensureCoarse {α : Type} (tables : TableMemory A) (space : AddressSpace)
    (start : VirtualAddress) (domain : Domain)
    {install : CoarseTableDescriptor → Action (TableMemory A) MapError α}
    (uses : UsesTable install) :
    Follows tables ((space.ensureCoarse start domain >>= install).effect tables.unbounded)
      ((space.ensureCoarse start domain >>= install).effect tables) := by
  unfold AddressSpace.ensureCoarse
  have sameSlot : space.firstLevel.slot tables.unbounded.memory (.ofAddress start) =
      space.firstLevel.slot tables.memory (.ofAddress start) := rfl
  rw [Action.effect_bind, Action.effect_bind]
  simp only [Action.effect_bind, Action.effect_get, AddressSpace.reachFirstLevel_unbounded,
    Action.effect_ofExcept_ok]
  rcases checked : tables.memory.checkRange TableLevel.first.bytes space.root with cause | passed
  · rw [AddressSpace.reachFirstLevel_eq_error checked]
    exact .refused cause
  · rw [AddressSpace.reachFirstLevel_eq checked]
    simp only [Action.effect_ofExcept_ok, sameSlot]
    rcases (space.firstLevel.slot tables.memory (.ofAddress start)).firstLevelEntry with
      _ | pointer | descriptor | word
    · simp only [Action.effect_bind, effect_takeTable]
      by_cases fits : TableLevel.coarse.Fits tables.cursor tables.limit
      · have fitsFree :
            TableLevel.coarse.Fits tables.unbounded.cursor tables.unbounded.limit := fits
        have sameTable : tables.unbounded.nextTable .coarse = tables.nextTable .coarse := rfl
        -- The source aligns its tables, so the descriptor of the new one can be made and encoded.
        obtain ⟨pointer, made, decoded, -⟩ :=
          Descriptor.forTable_of_aligned domain (nextTable_aligned fits)
        have encoded := Descriptor.encode_of_decode? decoded
        rw [if_pos fits, if_pos fitsFree, sameTable]
        dsimp only
        rw [made]
        simp only [Action.effect_ofExcept_ok, AddressSpace.reachCoarse_unbounded]
        rcases inMemory : tables.memory.checkRange TableLevel.coarse.bytes pointer.table with
          cause | passed
        · rw [AddressSpace.reachCoarse_eq_error inMemory]
          exact .stopped (.inr ⟨.coarse, fits, rfl⟩)
        · rw [AddressSpace.reachCoarse_eq inMemory, encoded]
          simp only [setMemory, Action.effect_ofExcept_ok, Action.effect_modify, Action.effect_log,
            Action.effect_pure]
          change Follows tables
            ((install pointer).effect (tables.afterLink space start pointer).unbounded)
            ((install pointer).effect (tables.afterLink space start pointer))
          -- The check on the new table passes again, as a write does not change the extent.
          have sameExtent := tables.extent_afterLink space start pointer
          rw [← PhysicalMemory.checkRange_eq_of_extent sameExtent] at inMemory
          have same := uses.inside pointer (tables.afterLink space start pointer) inMemory
          rw [sameExtent] at same
          exact .of_eq same
      · have fullFree : ¬ TableLevel.coarse.Fits tables.unbounded.cursor tables.unbounded.limit :=
          fits
        rw [if_neg fits, if_neg fullFree]
        exact .ended
    · rcases inMemory : tables.memory.checkRange TableLevel.coarse.bytes pointer.table with
        cause | passed
      · simp only [Action.effect_pure, uses.outside pointer tables cause inMemory]
        exact .refused cause
      · exact .of_eq (uses.inside pointer tables inMemory)
    · exact .ended
    · exact .ended

theorem follows_mapSmallPage (tables : TableMemory A) (space : AddressSpace)
    (start : VirtualAddress) (physical : PhysicalAddress) (domain : Domain) (flags : MapFlags) :
    Follows tables ((space.mapSmallPage start physical domain flags).effect tables.unbounded)
      ((space.mapSmallPage start physical domain flags).effect tables) := by
  unfold AddressSpace.mapSmallPage
  refine follows_assert _ _ (follows_assert _ _ (follows_ensureCoarse tables space start domain ?_))
  constructor
  · intro pointer tables inMemory
    have sameSlot : pointer.coarseTable.slot tables.unbounded.memory (.ofAddress start) =
        pointer.coarseTable.slot tables.memory (.ofAddress start) := rfl
    simp only [Action.effect_bind, Action.effect_get, AddressSpace.reachCoarse_eq inMemory,
      AddressSpace.reachCoarse_unbounded, Action.effect_ofExcept_ok, Action.effect_assert, sameSlot]
    rcases (pointer.coarseTable.slot tables.memory (.ofAddress start)).isFault with _ | _
    · rfl
    · rcases Descriptor.forMapping .page4K physical flags with cause | descriptor
      · rfl
      · simp only [if_true, Action.effect_ofExcept_ok]
        rcases descriptor.encode with cause | word <;> rfl
  · intro pointer tables cause outside
    simp only [Action.effect_bind, Action.effect_get, AddressSpace.reachCoarse_eq_error outside,
      Action.effect_ofExcept_error]

theorem follows_mapLargePage (tables : TableMemory A) (space : AddressSpace)
    (start : VirtualAddress) (physical : PhysicalAddress) (domain : Domain) (flags : MapFlags) :
    Follows tables ((space.mapLargePage start physical domain flags).effect tables.unbounded)
      ((space.mapLargePage start physical domain flags).effect tables) := by
  unfold AddressSpace.mapLargePage
  refine follows_assert _ _ (follows_assert _ _ (follows_assert _ _
    (follows_ensureCoarse tables space start domain ?_)))
  constructor
  · intro pointer tables inMemory
    have sameSlots : pointer.coarseTable.slots tables.unbounded.memory (.ofAddress start)
        AddressSpace.largePageCopies = pointer.coarseTable.slots tables.memory (.ofAddress start)
          AddressSpace.largePageCopies := rfl
    simp only [Action.effect_bind, Action.effect_get, AddressSpace.reachCoarse_eq inMemory,
      AddressSpace.reachCoarse_unbounded, Action.effect_ofExcept_ok, sameSlots]
    rcases pointer.coarseTable.slots tables.memory (.ofAddress start)
      AddressSpace.largePageCopies with cause | slots
    · rfl
    · obtain ⟨verdict, checked⟩ := effect_checkEmpty_eq (TableMemory A) start
        (SecondLevelIndex.ofAddress start).toNat slots
      simp only [Action.effect_ofExcept_ok, checked]
      rcases verdict with passed | cause | cause
      · rcases Descriptor.forMapping .page64K physical flags with cause | descriptor
        · rfl
        · simp only [Action.effect_ofExcept_ok]
          rcases descriptor.encode with cause | word
          · rfl
          · simp only [Action.effect_ofExcept_ok, CoarseTable.fillSlots]
            rcases CoarseTable.checkRun (.ofAddress start) AddressSpace.largePageCopies with
              cause | passed <;> rfl
      · rfl
      · rfl
  · intro pointer tables cause outside
    simp only [Action.effect_bind, Action.effect_get, AddressSpace.reachCoarse_eq_error outside,
      Action.effect_ofExcept_error]

/-- A map operation does what it would do in memory without bounds, or it panics before it has
written anything. -/
theorem follows_mapGranule (tables : TableMemory A) (space : AddressSpace) (granule : Granule)
    (start : VirtualAddress) (physical : PhysicalAddress) (domain : Domain) (flags : MapFlags) :
    Follows tables ((space.mapGranule granule start physical domain flags).effect tables.unbounded)
      ((space.mapGranule granule start physical domain flags).effect tables) := by
  cases granule with
  | page4K => exact follows_mapSmallPage tables space start physical domain flags
  | page64K => exact follows_mapLargePage tables space start physical domain flags
  | section1M => exact follows_mapSection tables space start physical domain flags

/-! ## Trees that need not lie in memory -/

namespace TableMemory

variable {spaces : Set AddressSpace}

omit [TableSource A] [CursorSource A] in
theorem unbounded_of_everywhere (reachable : tables.memory.extent = .everywhere) :
    tables.unbounded = tables := by
  rcases tables with ⟨⟨extent, word⟩, source⟩
  cases reachable
  rfl

/-- The trees of the spaces lie apart below the cursor of the source. -/
structure Planted (tables : TableMemory A) (spaces : Set AddressSpace) : Prop where
  forest : Forest tables.memory 0 tables.cursor spaces
  below : spaces.Nonempty → tables.cursor ≤ tables.limit

namespace Planted

theorem empty (tables : TableMemory A) : tables.Planted ∅ :=
  ⟨.empty _ _ _, fun nonempty => absurd nonempty Set.not_nonempty_empty⟩

theorem of_sound (sound : tables.unbounded.Sound 0 spaces) : tables.Planted spaces :=
  ⟨sound.forest.of_agree fun _ _ => rfl, fun _ => sound.below⟩

theorem sound (planted : tables.Planted spaces) (below : tables.cursor ≤ tables.limit) :
    tables.unbounded.Sound 0 spaces where
  covers := tables.memory.covers_unbounded _ _
  above := Nat.zero_le _
  below := below
  forest := planted.forest.of_agree fun _ _ => rfl

theorem sound_of_mem (planted : tables.Planted spaces) (member : space ∈ spaces) :
    tables.unbounded.Sound 0 spaces :=
  planted.sound (planted.below ⟨space, member⟩)

theorem restrict (planted : tables.Planted spaces) {fewer : Set AddressSpace}
    (subset : fewer ⊆ spaces) : tables.Planted fewer :=
  ⟨planted.forest.restrict subset, fun nonempty => planted.below (nonempty.mono subset)⟩

theorem of_moved (planted : tables.Planted spaces) {source : A} (moved : tables.MovesTo source) :
    ({ tables with source := source } : TableMemory A).Planted spaces := by
  rcases moved with rfl | ⟨level, fits, rfl⟩
  · exact planted
  · have bounds := nextTable_bounds fits
    have cursorAfter := cursor_afterTable fits
    constructor
    · refine planted.forest.mono ?_
      change _ ≤ (tables.afterTable level).cursor
      omega
    · intro _
      change (tables.afterTable level).cursor ≤ (tables.afterTable level).limit
      rw [limit_afterTable]
      omega

theorem afterRoot (planted : tables.Planted spaces)
    (room : TableLevel.first.Fits tables.cursor tables.limit) :
    tables.afterRoot.Planted (insert tables.nextSpace spaces) := by
  have bounds := nextTable_bounds room
  have sound := planted.sound (by omega)
  have roomFree : TableLevel.first.Fits tables.unbounded.cursor tables.unbounded.limit := room
  exact .of_sound (sound.afterRoot roomFree)

theorem nextSpace_not_mem (planted : tables.Planted spaces)
    (room : TableLevel.first.Fits tables.cursor tables.limit) : tables.nextSpace ∉ spaces := by
  have bounds := nextTable_bounds room
  have roomFree : TableLevel.first.Fits tables.unbounded.cursor tables.unbounded.limit := room
  exact (planted.sound (by omega)).nextSpace_not_mem roomFree

end Planted

/-! ## What the operations do to the trees -/

/-- What making a root does, whatever the memory. -/
inductive RootSteps (tables : TableMemory A) : Outcome MapError AddressSpace × TableMemory A → Prop
  | made (room : TableLevel.first.Fits tables.cursor tables.limit) :
      RootSteps tables (.value tables.nextSpace, tables.afterRoot)
  | idle {outcome : Outcome MapError AddressSpace} {source : A} (failed : outcome.isValue = false)
      (moved : tables.MovesTo source) : RootSteps tables (outcome, { tables with source := source })

theorem rootSteps (tables : TableMemory A) :
    RootSteps tables (AddressSpace.allocateRoot.effect tables) := by
  unfold AddressSpace.allocateRoot
  rw [Action.effect_bind, effect_takeTable]
  by_cases fits : TableLevel.first.Fits tables.cursor tables.limit
  · have made : AddressSpace.ofRoot (tables.nextTable .first) = .ok tables.nextSpace :=
      if_pos (nextTable_aligned fits)
    simp only [if_pos fits, made, Action.effect_bind, Action.effect_ofExcept_ok, Action.effect_get]
    rcases checked : (tables.afterTable .first).memory.checkRange TableLevel.first.bytes
      tables.nextSpace.root with cause | passed
    · rw [AddressSpace.reachFirstLevel_eq_error checked]
      exact .idle rfl (.inr ⟨.first, fits, rfl⟩)
    · rw [AddressSpace.reachFirstLevel_eq checked]
      exact .made fits
  · simp only [if_neg fits]
    exact .idle rfl tables.movesTo_source

/-- What a map operation does, whatever the memory: it installs the mapping, or it leaves all words
as they are. -/
inductive MapSteps (tables : TableMemory A) (spaces : Set AddressSpace) (space : AddressSpace)
    {granule : Granule} (start : VirtualAddress) (physical : PhysicalAddress) (domain : Domain)
    (flags : MapFlags) : Outcome MapError (Descriptor (.mapping granule)) × TableMemory A → Prop
  | installed {descriptor : Descriptor (.mapping granule)} {after : TableMemory A}
      (installs : Installs tables.unbounded space start physical domain flags descriptor
        after.unbounded)
      (maps : after.unbounded.Maps tables.unbounded spaces space granule start physical)
      (extent : after.memory.extent = tables.memory.extent) (planted : after.Planted spaces) :
      MapSteps tables spaces space start physical domain flags (.value descriptor, after)
  | idle {outcome : Outcome MapError (Descriptor (.mapping granule))} {source : A}
      (failed : outcome.isValue = false) (moved : tables.MovesTo source) :
      MapSteps tables spaces space start physical domain flags
        (outcome, { tables with source := source })

theorem extent_of_installs {granule : Granule} {start : VirtualAddress} {physical : PhysicalAddress}
    {domain : Domain} {flags : MapFlags} {descriptor : Descriptor (.mapping granule)}
    {after : TableMemory A}
    (installs : Installs tables space start physical domain flags descriptor after) :
    after.memory.extent = tables.memory.extent := by
  cases installs with
  | inSlot aligned made decoded vacant => rfl
  | inTable linked writes => exact writes.written.extent
  | inNewTable vacant room made writes =>
      exact writes.written.extent.trans (tables.extent_afterLink space start _)

theorem Planted.mapSteps (planted : tables.Planted spaces) (member : space ∈ spaces)
    (granule : Granule) (start : VirtualAddress) (physical : PhysicalAddress) (domain : Domain)
    (flags : MapFlags) :
    MapSteps tables spaces space start physical domain flags
      ((space.mapGranule granule start physical domain flags).effect tables) := by
  have sound := planted.sound_of_mem member
  have ending := mapEffect_mapGranule sound member granule start physical domain flags
  have follows := follows_mapGranule tables space granule start physical domain flags
  generalize (space.mapGranule granule start physical domain flags).effect tables = bound at follows
  rcases ended : (space.mapGranule granule start physical domain flags).effect tables.unbounded
    with ⟨outcome, final⟩
  rw [ended] at ending follows
  cases follows with
  | ended =>
      cases ending with
      | installed accepts room source soundAfter maps =>
          have installs := installs_mapGranule sound member ended
          have reachable : final.memory.extent = .everywhere := extent_of_installs installs
          have sameFinal : (final.inExtent tables.memory.extent).unbounded = final :=
            unbounded_of_everywhere reachable
          refine .installed ?_ ?_ rfl (.of_sound ?_)
          · rw [sameFinal]
            exact installs
          · rw [sameFinal]
            exact maps
          · rw [sameFinal]
            exact soundAfter
      | outOfMemory accepts needed full => exact .idle rfl tables.movesTo_source
      | refused rejects => exact .idle rfl tables.movesTo_source
  | stopped moved => exact .idle rfl moved

/-- Where a small page has been mapped, the walk stays in memory. -/
theorem Planted.walk_inMemory (planted : tables.Planted spaces) (member : space ∈ spaces)
    {start : VirtualAddress} {physical : PhysicalAddress} {domain : Domain} {flags : MapFlags}
    {descriptor : SmallPageDescriptor} {after : TableMemory A}
    (ended : (space.mapSmallPage start physical domain flags).effect tables =
      (.value descriptor, after)) :
    after.memory.checkRange TableLevel.first.bytes space.root = .ok () ∧
      ∃ pointer, space.entry after.memory (.ofAddress start) = .coarse pointer ∧
        after.memory.checkRange TableLevel.coarse.bytes pointer.table = .ok () := by
  have sound := planted.sound_of_mem member
  have steps := planted.mapSteps member .page4K start physical domain flags
  have same : (space.mapGranule .page4K start physical domain flags).effect tables =
      (.value descriptor, after) := ended
  rw [same] at steps
  obtain ⟨pointer, middle, ensured, coarseInMemory, writes⟩ := mapSmallPage_eq_value ended
  obtain ⟨rootInMemory, ends⟩ := ensureCoarse_eq_value ensured
  cases steps with
  | idle failed moved => cases failed
  | installed installs maps extent plantedAfter =>
      have sameExtent : after.memory.extent = middle.memory.extent := writes.written.extent
      refine ⟨?_, pointer, ?_, ?_⟩
      · rw [PhysicalMemory.checkRange_eq_of_extent extent]
        exact rootInMemory
      · rcases installs.entry_cases sound member with
          ⟨impossible, -⟩ | ⟨-, ⟨other, linked, kept⟩, -⟩ |
          ⟨-, vacant, -, ⟨other, made, linked⟩, -⟩
        · cases impossible
        · rcases ends with ⟨found, -⟩ | ⟨empty, -⟩
          · have alike : FirstLevelEntry.coarse pointer = .coarse other := found.symm.trans linked
            rw [alike]
            exact kept
          · cases empty.symm.trans linked
        · rcases ends with ⟨found, -⟩ | ⟨-, -, madeToo, -⟩
          · cases found.symm.trans vacant
          · have alike : pointer = other := Except.ok.inj (madeToo.symm.trans made)
            rw [alike]
            exact linked
      · rw [PhysicalMemory.checkRange_eq_of_extent sameExtent]
        exact coarseInMemory

end TableMemory

end Armv6Kernel
