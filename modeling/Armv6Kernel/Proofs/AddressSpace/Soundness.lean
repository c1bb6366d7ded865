import Armv6Kernel.AddressSpace.Map
import Armv6Kernel.Proofs.AddressSpace.Growth
import Armv6Kernel.Proofs.Heap.Cursor
import Armv6Kernel.Proofs.Memory.Coverage

/-!
# Sound table memory

Table memory is sound for a set of trees if the trees form a forest below the cursor of the source
and the range of the source lies in memory.  Then no table access leaves memory, the walk of every
tree finds its target, and making a root adds one empty tree to the forest and changes no other.
-/

namespace Armv6Kernel

variable {A : Type} [TableSource A] [CursorSource A]

namespace TableMemory

/-- The first byte that has not been handed out. -/
def cursor (tables : TableMemory A) : Nat :=
  (CursorSource.cursor tables.source).toNat

/-- One past the last byte that may be handed out. -/
def limit (tables : TableMemory A) : Nat :=
  (CursorSource.limit tables.source).toNat

/-- Where the next table of a level lies. -/
def nextTable (tables : TableMemory A) (level : TableLevel) : PhysicalAddress :=
  .ofNat (roundUp tables.cursor level.bytes)

/-- The tables after the next table of a level has been taken. -/
def afterTable (tables : TableMemory A) (level : TableLevel) : TableMemory A :=
  { tables with
    source := CursorSource.moveTo
      (BitVec.ofNat 32 (roundUp tables.cursor level.bytes + level.bytes)) tables.source }

theorem cursor_of_source {first second : TableMemory A} (same : first.source = second.source) :
    first.cursor = second.cursor := by
  rw [cursor, same, cursor]

theorem limit_of_source {first second : TableMemory A} (same : first.source = second.source) :
    first.limit = second.limit := by
  rw [limit, same, limit]

theorem effect_takeTable (level : TableLevel) (tables : TableMemory A) :
    (takeTable level).effect tables =
      if level.Fits tables.cursor tables.limit then
        (.value (tables.nextTable level), tables.afterTable level)
      else (.error (.outOfMemory level), tables) := by
  unfold takeTable
  simp only [Action.effect_bind, Action.effect_widen, Action.effect_onPart,
    CursorSource.allocate_table]
  change _ = if level.Fits (CursorSource.cursor tables.source).toNat
    (CursorSource.limit tables.source).toNat then _ else _
  by_cases fits : level.Fits (CursorSource.cursor tables.source).toNat
      (CursorSource.limit tables.source).toNat
  · rw [if_pos fits, if_pos fits]
    rfl
  · rw [if_neg fits, if_neg fits]
    rfl

/-- What the source of tables answers to a request for 1 KiB at a multiple of 1 KiB. -/
theorem effect_allocate_coarse (tables : TableMemory A) :
    (TableSource.allocate 0x400 0x400).effect tables.source =
      if TableLevel.coarse.Fits tables.cursor tables.limit then
        (.value (some (tables.nextTable .coarse)), (tables.afterTable .coarse).source)
      else (.value none, tables.source) :=
  CursorSource.allocate_table .coarse tables.source

section Fits

variable {tables : TableMemory A} {level : TableLevel}

theorem toNat_nextTable (fits : level.Fits tables.cursor tables.limit) :
    (tables.nextTable level).toNat = roundUp tables.cursor level.bytes := by
  have bound : tables.limit < 0x100000000 := (CursorSource.limit tables.source).isLt
  have positive := level.bytes_pos
  unfold TableLevel.Fits at fits
  rw [nextTable, Address.toNat_ofNat]
  omega

theorem cursor_afterTable (fits : level.Fits tables.cursor tables.limit) :
    (tables.afterTable level).cursor = (tables.nextTable level).toNat + level.bytes := by
  have bound : tables.limit < 0x100000000 := (CursorSource.limit tables.source).isLt
  rw [toNat_nextTable fits]
  unfold TableLevel.Fits at fits
  rw [cursor, afterTable, CursorSource.cursor_moveTo, BitVec.toNat_ofNat]
  omega

theorem limit_afterTable : (tables.afterTable level).limit = tables.limit := by
  rw [limit, afterTable, CursorSource.limit_moveTo, limit]

theorem nextTable_bounds (fits : level.Fits tables.cursor tables.limit) :
    tables.cursor ≤ (tables.nextTable level).toNat ∧
      (tables.nextTable level).toNat + level.bytes ≤ tables.limit := by
  rw [toNat_nextTable fits]
  exact ⟨level.le_roundUp tables.cursor, fits⟩

theorem nextTable_aligned (fits : level.Fits tables.cursor tables.limit) :
    (tables.nextTable level).toNat % level.bytes = 0 := by
  rw [toNat_nextTable fits]
  exact level.dvd_roundUp tables.cursor

end Fits

/-- The trees of the spaces are a forest below the cursor of a source that lies in memory. -/
structure Sound (tables : TableMemory A) (low : Nat) (spaces : Set AddressSpace) : Prop where
  covers : tables.memory.Covers low tables.limit
  above : low ≤ tables.cursor
  below : tables.cursor ≤ tables.limit
  forest : Forest tables.memory low tables.cursor spaces

namespace Sound

variable {tables : TableMemory A} {low : Nat} {spaces : Set AddressSpace}

theorem root_inMemory (sound : tables.Sound low spaces) {space : AddressSpace}
    (member : space ∈ spaces) :
    tables.memory.checkRange TableLevel.first.bytes space.root = .ok () := by
  have inside := sound.forest.rootInside member
  have below := sound.below
  exact sound.covers _ _ (by decide) inside.1 (by omega)

theorem table_inMemory (sound : tables.Sound low spaces) {space : AddressSpace}
    {index : FirstLevelIndex} {pointer : CoarseTableDescriptor}
    (linked : Linked tables.memory spaces space index pointer) :
    tables.memory.checkRange TableLevel.coarse.bytes pointer.table = .ok () := by
  have inside := sound.forest.tableInside linked
  have below := sound.below
  exact sound.covers _ _ (by decide) inside.1 (by omega)

theorem nextTable_inMemory (sound : tables.Sound low spaces) {level : TableLevel}
    (fits : level.Fits tables.cursor tables.limit) :
    tables.memory.checkRange level.bytes (tables.nextTable level) = .ok () := by
  have bounds := nextTable_bounds fits
  have above := sound.above
  exact sound.covers _ _ level.bytes_pos (by omega) bounds.2

/-- In sound memory every walk ends, at the target of its tree. -/
theorem translate_eq (sound : tables.Sound low spaces) {space : AddressSpace}
    (member : space ∈ spaces) (address : VirtualAddress) :
    space.translate tables.memory address = .ok (space.target tables.memory address) :=
  AddressSpace.translate_eq_target (sound.root_inMemory member)
    fun _ found => sound.table_inMemory ⟨member, found⟩

theorem firstLevelSlot_eq (sound : tables.Sound low spaces) {space : AddressSpace}
    (member : space ∈ spaces) (address : VirtualAddress) :
    space.firstLevelSlot tables.memory address =
      .ok (space.firstLevel.slot tables.memory (.ofAddress address)) := by
  rw [AddressSpace.firstLevelSlot, AddressSpace.reachFirstLevel_eq (sound.root_inMemory member)]
  rfl

theorem secondLevelSlot_eq (sound : tables.Sound low spaces) {space : AddressSpace}
    {index : FirstLevelIndex} {pointer : CoarseTableDescriptor}
    (linked : Linked tables.memory spaces space index pointer) (address : VirtualAddress) :
    AddressSpace.secondLevelSlot tables.memory pointer address =
      .ok (pointer.coarseTable.slot tables.memory (.ofAddress address)) := by
  rw [AddressSpace.secondLevelSlot, AddressSpace.reachCoarse_eq (sound.table_inMemory linked)]
  rfl

theorem restrict (sound : tables.Sound low spaces) {fewer : Set AddressSpace}
    (subset : fewer ⊆ spaces) : tables.Sound low fewer where
  covers := sound.covers
  above := sound.above
  below := sound.below
  forest := sound.forest.restrict subset

/-- A source whose cursor has moved on without changing its limit leaves the tables sound. -/
theorem of_source (sound : tables.Sound low spaces) {source : A}
    (sameLimit : CursorSource.limit source = CursorSource.limit tables.source)
    (forward : tables.cursor ≤ (CursorSource.cursor source).toNat)
    (inside : (CursorSource.cursor source).toNat ≤ tables.limit) :
    ({ tables with source := source } : TableMemory A).Sound low spaces where
  covers := by
    rw [limit, sameLimit]
    exact sound.covers
  above := Nat.le_trans sound.above forward
  below := by
    rw [limit, sameLimit]
    exact inside
  forest := sound.forest.mono forward

end Sound

/-! ## Making a root -/

/-- The tables after the next first-level table has been taken and emptied. -/
def afterRoot (tables : TableMemory A) : TableMemory A :=
  { tables.afterTable .first with
    memory := tables.memory.fill (tables.nextTable .first).toNat TableLevel.first.entries 0 }

/-- The tree whose first-level table is the next one. -/
def nextSpace (tables : TableMemory A) : AddressSpace :=
  ⟨tables.nextTable .first⟩

section Root

variable {tables : TableMemory A} {low : Nat} {spaces : Set AddressSpace}

/-- A root is made exactly if there is room for a first-level table. -/
theorem effect_allocateRoot (sound : tables.Sound low spaces) :
    (AddressSpace.allocateRoot : Action (TableMemory A) MapError AddressSpace).effect tables =
      if TableLevel.first.Fits tables.cursor tables.limit then
        (.value tables.nextSpace, tables.afterRoot)
      else (.error (.outOfMemory .first), tables) := by
  unfold AddressSpace.allocateRoot
  rw [Action.effect_bind, effect_takeTable]
  by_cases fits : TableLevel.first.Fits tables.cursor tables.limit
  · have made : AddressSpace.ofRoot (tables.nextTable .first) = .ok tables.nextSpace :=
      if_pos (nextTable_aligned fits)
    have reached : tables.nextSpace.reachFirstLevel (tables.afterTable .first).memory =
        .ok tables.nextSpace.firstLevel :=
      AddressSpace.reachFirstLevel_eq (sound.nextTable_inMemory fits)
    simp only [if_pos fits, made, Action.effect_bind, Action.effect_ofExcept_ok,
      Action.effect_get, reached]
    rfl
  · simp only [if_neg fits]

theorem overwrites_afterRoot (tables : TableMemory A) :
    tables.afterRoot.memory.Overwrites tables.memory (tables.nextTable .first).toNat
      TableLevel.first.entries 0 :=
  tables.memory.overwrites_fill _ _ _

theorem agree_afterRoot (fits : TableLevel.first.Fits tables.cursor tables.limit) :
    ∀ place < tables.cursor, tables.afterRoot.memory.word place = tables.memory.word place := by
  intro place below
  have bounds := nextTable_bounds fits
  exact (overwrites_afterRoot tables).outside place (.inl (by omega))

theorem nextSpace_empty (tables : TableMemory A) (index : FirstLevelIndex) :
    (tables.nextSpace.firstLevel.slot tables.afterRoot.memory index).word = 0 :=
  (overwrites_afterRoot tables).inside index.toNat index.toNat_lt

theorem Sound.nextSpace_not_mem (sound : tables.Sound low spaces)
    (fits : TableLevel.first.Fits tables.cursor tables.limit) : tables.nextSpace ∉ spaces := by
  intro member
  have inside := sound.forest.rootInside member
  have bounds := nextTable_bounds fits
  have positive := TableLevel.first.bytes_pos
  simp only [nextSpace] at inside
  omega

theorem Sound.afterRoot (sound : tables.Sound low spaces)
    (fits : TableLevel.first.Fits tables.cursor tables.limit) :
    tables.afterRoot.Sound low (insert tables.nextSpace spaces) := by
  have bounds := nextTable_bounds fits
  have positive := TableLevel.first.bytes_pos
  have above := sound.above
  have sameSource : tables.afterRoot.source = (tables.afterTable .first).source := rfl
  have cursorAfter : tables.afterRoot.cursor =
      (tables.nextTable .first).toNat + TableLevel.first.bytes := by
    rw [cursor_of_source sameSource, cursor_afterTable fits]
  have limitAfter : tables.afterRoot.limit = tables.limit := by
    rw [limit_of_source sameSource, limit_afterTable]
  have aligned : tables.nextSpace.root.toNat % TableLevel.first.bytes = 0 := nextTable_aligned fits
  have agreed := sound.forest.of_agree (agree_afterRoot fits)
  have grown := agreed.insert sound.above aligned bounds.1 (nextSpace_empty tables)
  constructor
  · rw [limitAfter]
    exact sound.covers.of_extent (overwrites_afterRoot tables).extent
  · omega
  · omega
  · rw [cursorAfter]
    exact grown

theorem Sound.target_afterRoot (sound : tables.Sound low spaces)
    (fits : TableLevel.first.Fits tables.cursor tables.limit) {space : AddressSpace}
    (member : space ∈ spaces) (address : VirtualAddress) :
    space.target tables.afterRoot.memory address = space.target tables.memory address :=
  sound.forest.target_of_agree (agree_afterRoot fits) member address

theorem target_nextSpace (tables : TableMemory A) (address : VirtualAddress) :
    tables.nextSpace.target tables.afterRoot.memory address = none :=
  Forest.target_of_empty (nextSpace_empty tables) address

end Root

end TableMemory

end Armv6Kernel
