import Armv6Kernel.Proofs.AddressSpace.Filling

/-!
# The memory of the tables

Every tree has a table at its root and one below each coarse pointer.  The trees of a forest own the
blocks of these tables: no two of them share a byte, so that each coarse table hangs below one slot
only.
-/

namespace Armv6Kernel

/-- The coarse table below a first-level slot, if there is one. -/
def AddressSpace.table? (space : AddressSpace) (memory : PhysicalMemory)
    (index : FirstLevelIndex) : Option PhysicalAddress :=
  match space.entry memory index with
  | .coarse pointer => some pointer.table
  | _ => none

/-- Where a tree can have a table. -/
inductive TableSeat where
  | root (space : AddressSpace)
  | below (space : AddressSpace) (index : FirstLevelIndex)
  deriving DecidableEq, Repr

namespace TableSeat

def space : TableSeat → AddressSpace
  | root space => space
  | below space _ => space

/-- The block of the table that a tree has there. -/
def block? (memory : PhysicalMemory) : TableSeat → Option Block
  | root space => some ⟨space.root.toNat, TableLevel.first.bytes⟩
  | below space index => (space.table? memory index).map fun table =>
      ⟨table.toNat, TableLevel.coarse.bytes⟩

end TableSeat

/-- The tables of the trees are aligned blocks between `low` and `high`, each of them in one place
of one tree, and no two of them overlap. -/
structure OwnsBlocks (memory : PhysicalMemory) (low high : Nat) (spaces : Set AddressSpace) :
    Prop where
  placed : ∀ (seat : TableSeat) (block : Block), seat.space ∈ spaces →
    seat.block? memory = some block →
      block.start % block.bytes = 0 ∧ low ≤ block.start ∧ block.start + block.bytes ≤ high
  apart : ∀ (seat other : TableSeat) (block otherBlock : Block), seat.space ∈ spaces →
    other.space ∈ spaces → seat.block? memory = some block →
      other.block? memory = some otherBlock → seat ≠ other → block.Apart otherBlock
  single : ∀ (seat other : TableSeat) (block : Block), seat.space ∈ spaces →
    other.space ∈ spaces → seat.block? memory = some block →
      other.block? memory = some block → seat = other

section Tables

variable {memory after : PhysicalMemory} {low high : Nat} {spaces : Set AddressSpace}
  {space : AddressSpace} {index : FirstLevelIndex} {table : PhysicalAddress}

theorem AddressSpace.table?_of_coarse {pointer : CoarseTableDescriptor}
    (found : space.entry memory index = .coarse pointer) :
    space.table? memory index = some pointer.table := by
  rw [table?, found]

theorem AddressSpace.table?_of_fault (found : space.entry memory index = .fault) :
    space.table? memory index = none := by
  rw [table?, found]

theorem AddressSpace.table?_of_section {descriptor : SectionDescriptor}
    (found : space.entry memory index = .section1M descriptor) :
    space.table? memory index = none := by
  rw [table?, found]

theorem AddressSpace.table?_of_entry_eq
    (same : space.entry after index = space.entry memory index) :
    space.table? after index = space.table? memory index := by
  rw [table?, same, table?]

theorem AddressSpace.linked_of_table? (member : space ∈ spaces)
    (found : space.table? memory index = some table) :
    ∃ pointer, Linked memory spaces space index pointer ∧ pointer.table = table := by
  unfold table? at found
  rcases entry : space.entry memory index with _ | pointer | descriptor | word
  · rw [entry] at found
    cases found
  · rw [entry] at found
    cases found
    exact ⟨pointer, ⟨member, entry⟩, rfl⟩
  · rw [entry] at found
    cases found
  · rw [entry] at found
    cases found

/-- A table lies at the root of a tree, or a coarse pointer of the tree leads to it. -/
theorem TableSeat.block?_cases {seat : TableSeat} {block : Block} (member : seat.space ∈ spaces)
    (found : seat.block? memory = some block) :
    (∃ space ∈ spaces, seat = .root space ∧
      block = ⟨space.root.toNat, TableLevel.first.bytes⟩) ∨
    ∃ space index pointer, Linked memory spaces space index pointer ∧
      seat = .below space index ∧ block = ⟨pointer.table.toNat, TableLevel.coarse.bytes⟩ := by
  cases seat with
  | root space =>
      cases found
      exact .inl ⟨space, member, rfl, rfl⟩
  | below space index =>
      obtain ⟨table, below, rfl⟩ := Option.map_eq_some_iff.mp found
      obtain ⟨pointer, linked, rfl⟩ := AddressSpace.linked_of_table? member below
      exact .inr ⟨space, index, pointer, linked, rfl, rfl⟩

theorem TableSeat.block?_of_linked {pointer : CoarseTableDescriptor}
    (linked : Linked memory spaces space index pointer) :
    (below space index).block? memory =
      some ⟨pointer.table.toNat, TableLevel.coarse.bytes⟩ := by
  rw [block?, AddressSpace.table?_of_coarse linked.entry]
  rfl

/-- A table stays where it is. -/
theorem Keeps.block?_eq (keeps : Keeps after memory spaces) {seat : TableSeat}
    (member : seat.space ∈ spaces) {block : Block} (found : seat.block? memory = some block) :
    seat.block? after = some block := by
  rcases TableSeat.block?_cases member found with
    ⟨space, -, rfl, rfl⟩ | ⟨space, index, pointer, linked, rfl, rfl⟩
  · rfl
  · exact TableSeat.block?_of_linked (keeps.linked linked)

/-! ## Forests -/

namespace Forest

theorem block_placed (forest : Forest memory low high spaces) {seat : TableSeat} {block : Block}
    (member : seat.space ∈ spaces) (found : seat.block? memory = some block) :
    block.start % block.bytes = 0 ∧ low ≤ block.start ∧ block.start + block.bytes ≤ high := by
  rcases TableSeat.block?_cases member found with
    ⟨space, root, -, rfl⟩ | ⟨space, index, pointer, linked, -, rfl⟩
  · exact ⟨forest.rootAligned root, forest.rootInside root⟩
  · exact ⟨pointer.table_mod_bytes, forest.tableInside linked⟩

theorem rootsApart (forest : Forest memory low high spaces) {first second : AddressSpace}
    (member : first ∈ spaces) (otherMember : second ∈ spaces) (different : first ≠ second) :
    Block.Apart ⟨first.root.toNat, TableLevel.first.bytes⟩
      ⟨second.root.toNat, TableLevel.first.bytes⟩ := by
  have aligned := forest.rootAligned member
  have otherAligned := forest.rootAligned otherMember
  have differentRoot : first.root.toNat ≠ second.root.toNat := fun equal =>
    different (AddressSpace.eq_of_root_eq (Address.eq_of_toNat_eq equal))
  simp only [TableLevel.bytes_first, Block.Apart] at aligned otherAligned ⊢
  omega

theorem tablesApart (forest : Forest memory low high spaces) {first second : AddressSpace}
    {firstIndex secondIndex : FirstLevelIndex} {pointer otherPointer : CoarseTableDescriptor}
    (linked : Linked memory spaces first firstIndex pointer)
    (otherLinked : Linked memory spaces second secondIndex otherPointer)
    (different : ¬ (first = second ∧ firstIndex = secondIndex)) :
    Block.Apart ⟨pointer.table.toNat, TableLevel.coarse.bytes⟩
      ⟨otherPointer.table.toNat, TableLevel.coarse.bytes⟩ := by
  have aligned := pointer.table_mod_bytes
  have otherAligned := otherPointer.table_mod_bytes
  have differentTable : pointer.table.toNat ≠ otherPointer.table.toNat := fun equal =>
    different (forest.tableUnshared linked otherLinked (Address.eq_of_toNat_eq equal))
  simp only [TableLevel.bytes_coarse, Block.Apart] at aligned otherAligned ⊢
  omega

theorem blocksApart (forest : Forest memory low high spaces) {seat other : TableSeat}
    {block otherBlock : Block} (member : seat.space ∈ spaces) (otherMember : other.space ∈ spaces)
    (found : seat.block? memory = some block) (otherFound : other.block? memory = some otherBlock)
    (different : seat ≠ other) : block.Apart otherBlock := by
  rcases TableSeat.block?_cases member found with
    ⟨space, root, rfl, rfl⟩ | ⟨space, index, pointer, linked, rfl, rfl⟩
  · rcases TableSeat.block?_cases otherMember otherFound with
      ⟨other, otherRoot, rfl, rfl⟩ | ⟨other, otherIndex, otherPointer, otherLinked, rfl, rfl⟩
    · exact forest.rootsApart root otherRoot fun same => different (congrArg _ same)
    · exact Block.Apart.symm (forest.tableApart otherLinked root)
  · rcases TableSeat.block?_cases otherMember otherFound with
      ⟨other, otherRoot, rfl, rfl⟩ | ⟨other, otherIndex, otherPointer, otherLinked, rfl, rfl⟩
    · exact forest.tableApart linked otherRoot
    · refine forest.tablesApart linked otherLinked ?_
      rintro ⟨rfl, rfl⟩
      exact different rfl

theorem ownsBlocks (forest : Forest memory low high spaces) :
    OwnsBlocks memory low high spaces := by
  constructor
  · exact fun seat block member found => forest.block_placed member found
  · exact fun seat other block otherBlock member otherMember found otherFound different =>
      forest.blocksApart member otherMember found otherFound different
  · intro seat other block member otherMember found otherFound
    by_contra different
    have apart := forest.blocksApart member otherMember found otherFound different
    have positive : 0 < block.bytes := by
      rcases TableSeat.block?_cases member found with
        ⟨space, root, -, rfl⟩ | ⟨space, index, pointer, linked, -, rfl⟩
      · exact TableLevel.first.bytes_pos
      · exact TableLevel.coarse.bytes_pos
    unfold Block.Apart at apart
    omega

end Forest

end Tables

end Armv6Kernel
