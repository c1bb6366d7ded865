import Mathlib.Data.Set.Insert
import Armv6Kernel.Proofs.AddressSpace.Target

/-!
# Trees side by side in one memory

All trees that share a source of tables lie interleaved in the range that the source has handed out.
`Forest` is the invariant that keeps them apart: roots and coarse tables are aligned blocks of that
range, no two of them overlap, a coarse table hangs below one slot of one tree only, and every slot
is empty or holds a supported descriptor.
-/

namespace Armv6Kernel

theorem TableLevel.bytes_first : TableLevel.first.bytes = 16384 := rfl

theorem TableLevel.bytes_coarse : TableLevel.coarse.bytes = 1024 := rfl

/-- A first-level slot is empty, maps a section or points to a coarse table. -/
def Slot.FirstLevelProper (slot : Slot .first) : Prop :=
  slot.word = 0 ∨ (∃ descriptor, slot.firstLevelEntry = .section1M descriptor) ∨
    ∃ pointer, slot.firstLevelEntry = .coarse pointer

/-- A second-level slot is empty or maps a page. -/
def Slot.SecondLevelProper (slot : Slot .coarse) : Prop :=
  slot.word = 0 ∨ (∃ descriptor, slot.secondLevelEntry = .page4K descriptor) ∨
    ∃ descriptor, slot.secondLevelEntry = .page64K descriptor

/-- A coarse table hangs below a slot of one of the trees. -/
structure Linked (memory : PhysicalMemory) (spaces : Set AddressSpace) (space : AddressSpace)
    (index : FirstLevelIndex) (pointer : CoarseTableDescriptor) : Prop where
  member : space ∈ spaces
  entry : space.entry memory index = .coarse pointer

/-- The trees of the given spaces lie apart from each other between `low` and `high`. -/
structure Forest (memory : PhysicalMemory) (low high : Nat) (spaces : Set AddressSpace) :
    Prop where
  rootAligned : ∀ {space}, space ∈ spaces → space.root.toNat % TableLevel.first.bytes = 0
  rootInside : ∀ {space}, space ∈ spaces →
    low ≤ space.root.toNat ∧ space.root.toNat + TableLevel.first.bytes ≤ high
  firstProper : ∀ {space}, space ∈ spaces → ∀ index,
    (space.firstLevel.slot memory index).FirstLevelProper
  tableInside : ∀ {space index pointer}, Linked memory spaces space index pointer →
    low ≤ pointer.table.toNat ∧ pointer.table.toNat + TableLevel.coarse.bytes ≤ high
  tableApart : ∀ {space index pointer}, Linked memory spaces space index pointer →
    ∀ {other}, other ∈ spaces →
      pointer.table.toNat + TableLevel.coarse.bytes ≤ other.root.toNat ∨
        other.root.toNat + TableLevel.first.bytes ≤ pointer.table.toNat
  tableUnshared : ∀ {space index pointer other otherIndex otherPointer},
    Linked memory spaces space index pointer →
    Linked memory spaces other otherIndex otherPointer →
    pointer.table = otherPointer.table → space = other ∧ index = otherIndex
  secondProper : ∀ {space index pointer}, Linked memory spaces space index pointer →
    ∀ page, (pointer.coarseTable.slot memory page).SecondLevelProper

theorem FirstLevelTable.place_bounds (table : FirstLevelTable) (index : FirstLevelIndex) :
    table.base.toNat ≤ table.place index ∧
      table.place index + 4 ≤ table.base.toNat + TableLevel.first.bytes := by
  have bound := index.toNat_lt
  rw [TableLevel.bytes_first]
  unfold FirstLevelTable.place
  omega

theorem CoarseTable.place_bounds (table : CoarseTable) (index : SecondLevelIndex) :
    table.base.toNat ≤ table.place index ∧
      table.place index + 4 ≤ table.base.toNat + TableLevel.coarse.bytes := by
  have bound := index.toNat_lt
  rw [TableLevel.bytes_coarse]
  unfold CoarseTable.place
  omega

namespace Forest

variable {memory after : PhysicalMemory} {low high : Nat} {spaces : Set AddressSpace}

/-! ## Memories that agree on the range of the forest -/

theorem firstSlot_of_agree (forest : Forest memory low high spaces)
    (agree : ∀ place < high, after.word place = memory.word place) {space : AddressSpace}
    (member : space ∈ spaces) (index : FirstLevelIndex) :
    space.firstLevel.slot after index = space.firstLevel.slot memory index := by
  have inside := forest.rootInside member
  have bounds := space.firstLevel.place_bounds index
  change space.root.toNat ≤ _ ∧ _ ≤ space.root.toNat + _ at bounds
  simp only [FirstLevelTable.slot]
  rw [agree _ (by omega)]

theorem secondSlot_of_agree (forest : Forest memory low high spaces)
    (agree : ∀ place < high, after.word place = memory.word place) {space : AddressSpace}
    {index : FirstLevelIndex} {pointer : CoarseTableDescriptor}
    (linked : Linked memory spaces space index pointer) (page : SecondLevelIndex) :
    pointer.coarseTable.slot after page = pointer.coarseTable.slot memory page := by
  have inside := forest.tableInside linked
  have bounds := pointer.coarseTable.place_bounds page
  change pointer.table.toNat ≤ _ ∧ _ ≤ pointer.table.toNat + _ at bounds
  simp only [CoarseTable.slot]
  rw [agree _ (by omega)]

theorem linked_of_agree (forest : Forest memory low high spaces)
    (agree : ∀ place < high, after.word place = memory.word place) {space : AddressSpace}
    {index : FirstLevelIndex} {pointer : CoarseTableDescriptor} :
    Linked after spaces space index pointer ↔ Linked memory spaces space index pointer := by
  constructor
  · rintro ⟨member, found⟩
    rw [AddressSpace.entry, forest.firstSlot_of_agree agree member] at found
    exact ⟨member, found⟩
  · rintro ⟨member, found⟩
    rw [AddressSpace.entry, ← forest.firstSlot_of_agree agree member] at found
    exact ⟨member, found⟩

theorem of_agree (forest : Forest memory low high spaces)
    (agree : ∀ place < high, after.word place = memory.word place) :
    Forest after low high spaces where
  rootAligned := forest.rootAligned
  rootInside := forest.rootInside
  firstProper member index := by
    rw [forest.firstSlot_of_agree agree member]
    exact forest.firstProper member index
  tableInside linked := forest.tableInside ((forest.linked_of_agree agree).mp linked)
  tableApart linked := forest.tableApart ((forest.linked_of_agree agree).mp linked)
  tableUnshared linked otherLinked :=
    forest.tableUnshared ((forest.linked_of_agree agree).mp linked)
      ((forest.linked_of_agree agree).mp otherLinked)
  secondProper linked page := by
    have linkedBefore := (forest.linked_of_agree agree).mp linked
    rw [forest.secondSlot_of_agree agree linkedBefore]
    exact forest.secondProper linkedBefore page

theorem target_of_agree (forest : Forest memory low high spaces)
    (agree : ∀ place < high, after.word place = memory.word place) {space : AddressSpace}
    (member : space ∈ spaces) (address : VirtualAddress) :
    space.target after address = space.target memory address := by
  have sameEntry : space.entry after (.ofAddress address) =
      space.entry memory (.ofAddress address) := by
    rw [AddressSpace.entry, forest.firstSlot_of_agree agree member, AddressSpace.entry]
  apply AddressSpace.target_congr sameEntry
  intro pointer found
  exact forest.secondSlot_of_agree agree ⟨member, found⟩ _

theorem mono (forest : Forest memory low high spaces) {higher : Nat} (rises : high ≤ higher) :
    Forest memory low higher spaces where
  rootAligned := forest.rootAligned
  rootInside member := by
    have inside := forest.rootInside member
    exact ⟨inside.1, by omega⟩
  firstProper := forest.firstProper
  tableInside linked := by
    have inside := forest.tableInside linked
    exact ⟨inside.1, by omega⟩
  tableApart := forest.tableApart
  tableUnshared := forest.tableUnshared
  secondProper := forest.secondProper

theorem restrict (forest : Forest memory low high spaces) {fewer : Set AddressSpace}
    (subset : fewer ⊆ spaces) : Forest memory low high fewer where
  rootAligned member := forest.rootAligned (subset member)
  rootInside member := forest.rootInside (subset member)
  firstProper member := forest.firstProper (subset member)
  tableInside linked := forest.tableInside ⟨subset linked.member, linked.entry⟩
  tableApart linked _ member :=
    forest.tableApart ⟨subset linked.member, linked.entry⟩ (subset member)
  tableUnshared linked otherLinked :=
    forest.tableUnshared ⟨subset linked.member, linked.entry⟩
      ⟨subset otherLinked.member, otherLinked.entry⟩
  secondProper linked := forest.secondProper ⟨subset linked.member, linked.entry⟩

/-! ## A new tree -/

theorem empty (memory : PhysicalMemory) (low high : Nat) : Forest memory low high ∅ where
  rootAligned member := absurd member (Set.notMem_empty _)
  rootInside member := absurd member (Set.notMem_empty _)
  firstProper member := absurd member (Set.notMem_empty _)
  tableInside linked := absurd linked.member (Set.notMem_empty _)
  tableApart linked := absurd linked.member (Set.notMem_empty _)
  tableUnshared linked := absurd linked.member (Set.notMem_empty _)
  secondProper linked := absurd linked.member (Set.notMem_empty _)

theorem entry_of_empty {space : AddressSpace} {index : FirstLevelIndex}
    (empty : (space.firstLevel.slot memory index).word = 0) :
    space.entry memory index = .fault :=
  Slot.firstLevelEntry_of_word_zero empty

/-- An empty first-level table above the forest is one more tree. -/
theorem insert (forest : Forest memory low high spaces) (ordered : low ≤ high)
    {space : AddressSpace} (aligned : space.root.toNat % TableLevel.first.bytes = 0)
    (fresh : high ≤ space.root.toNat)
    (empty : ∀ index, (space.firstLevel.slot memory index).word = 0) :
    Forest memory low (space.root.toNat + TableLevel.first.bytes) (insert space spaces) := by
  have linkedBefore : ∀ {owner index pointer},
      Linked memory (Insert.insert space spaces) owner index pointer →
        Linked memory spaces owner index pointer := by
    rintro owner index pointer ⟨member, found⟩
    rcases Set.mem_insert_iff.mp member with rfl | old
    · rw [entry_of_empty (empty index)] at found
      cases found
    · exact ⟨old, found⟩
  refine
    { rootAligned := ?_, rootInside := ?_, firstProper := ?_, tableInside := ?_, tableApart := ?_,
      tableUnshared := ?_, secondProper := ?_ }
  · intro other member
    rcases Set.mem_insert_iff.mp member with rfl | old
    · exact aligned
    · exact forest.rootAligned old
  · intro other member
    rcases Set.mem_insert_iff.mp member with rfl | old
    · exact ⟨by omega, Nat.le_refl _⟩
    · have inside := forest.rootInside old
      exact ⟨inside.1, by omega⟩
  · intro other member index
    rcases Set.mem_insert_iff.mp member with rfl | old
    · exact .inl (empty index)
    · exact forest.firstProper old index
  · intro owner index pointer linked
    have inside := forest.tableInside (linkedBefore linked)
    exact ⟨inside.1, by omega⟩
  · intro owner index pointer linked other member
    have inside := forest.tableInside (linkedBefore linked)
    rcases Set.mem_insert_iff.mp member with rfl | old
    · exact .inl (by omega)
    · exact forest.tableApart (linkedBefore linked) old
  · intro owner index pointer other otherIndex otherPointer linked otherLinked
    exact forest.tableUnshared (linkedBefore linked) (linkedBefore otherLinked)
  · intro owner index pointer linked
    exact forest.secondProper (linkedBefore linked)

theorem target_of_empty {space : AddressSpace}
    (empty : ∀ index, (space.firstLevel.slot memory index).word = 0) (address : VirtualAddress) :
    space.target memory address = none := by
  unfold AddressSpace.target
  rw [entry_of_empty (empty _)]

end Forest

end Armv6Kernel
