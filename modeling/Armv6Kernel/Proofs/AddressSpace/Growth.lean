import Armv6Kernel.Proofs.AddressSpace.Forest

/-!
# How a forest grows

Three changes of memory keep a forest a forest: a section descriptor goes to an empty first-level
slot, a pointer to a fresh coarse table does, or copies of a page descriptor go to slots of a linked
coarse table.  Each of them changes where the trees send addresses exactly in the addresses of the
new descriptor.
-/

namespace Armv6Kernel

/-- `after` is `before` with `count` words from a place on replaced by one word. -/
structure PhysicalMemory.Overwrites (after before : PhysicalMemory) (place count : Nat)
    (word : Word) : Prop where
  extent : after.extent = before.extent
  inside : ∀ step < count, after.word (place + 4 * step) = word
  outside : ∀ other, other < place ∨ place + 4 * count ≤ other →
    after.word other = before.word other

theorem PhysicalMemory.overwrites_store (memory : PhysicalMemory) (place : Nat) (word : Word) :
    (memory.store place word).Overwrites memory place 1 word where
  extent := rfl
  inside step below := by
    have first : step = 0 := by omega
    rw [first]
    exact memory.word_store_self place word
  outside other apart := memory.word_store_of_ne (by omega) word

theorem PhysicalMemory.overwrites_fill (memory : PhysicalMemory) (place count : Nat)
    (word : Word) : (memory.fill place count word).Overwrites memory place count word where
  extent := rfl
  inside step below := memory.word_fill_of_mem (by omega) (by omega) word
  outside other apart := memory.word_fill_of_not_mem apart word

theorem Linked.pointer_unique {memory : PhysicalMemory} {spaces : Set AddressSpace}
    {space : AddressSpace} {index : FirstLevelIndex} {first second : CoarseTableDescriptor}
    (linked : Linked memory spaces space index first)
    (again : Linked memory spaces space index second) : first = second := by
  have same := linked.entry.symm.trans again.entry
  injection same

namespace Forest

variable {memory after : PhysicalMemory} {low high : Nat} {spaces : Set AddressSpace}

/-! ## Filling a first-level slot -/

section FirstLevel

variable {space : AddressSpace} {index : FirstLevelIndex} {word : Word}

/-- Only the overwritten slot of the one tree changes. -/
theorem firstSlot_of_overwrites (forest : Forest memory low high spaces) (member : space ∈ spaces)
    (written : after.Overwrites memory (space.firstLevel.place index) 1 word)
    {other : AddressSpace} (otherMember : other ∈ spaces) (otherIndex : FirstLevelIndex) :
    other.firstLevel.slot after otherIndex =
      if other = space ∧ otherIndex = index then ⟨word⟩
      else other.firstLevel.slot memory otherIndex := by
  by_cases same : other = space ∧ otherIndex = index
  · rw [if_pos same]
    obtain ⟨rfl, rfl⟩ := same
    have placed := written.inside 0 Nat.one_pos
    exact congrArg Slot.mk placed
  · rw [if_neg same]
    refine congrArg Slot.mk (written.outside _ ?_)
    have indexBound := index.toNat_lt
    have otherBound := otherIndex.toNat_lt
    simp only [FirstLevelTable.place, AddressSpace.firstLevel]
    by_cases sameSpace : other = space
    · have differentIndex : otherIndex.toNat ≠ index.toNat := fun equal =>
        same ⟨sameSpace, FirstLevelIndex.eq_of_toNat_eq equal⟩
      rw [sameSpace]
      omega
    · have differentRoot : other.root.toNat ≠ space.root.toNat := fun equal =>
        sameSpace (AddressSpace.eq_of_root_eq (Address.eq_of_toNat_eq equal))
      have aligned := forest.rootAligned member
      have otherAligned := forest.rootAligned otherMember
      rw [TableLevel.bytes_first] at aligned otherAligned
      omega

theorem secondSlot_of_firstOverwrites (forest : Forest memory low high spaces)
    (member : space ∈ spaces)
    (written : after.Overwrites memory (space.firstLevel.place index) 1 word)
    {owner : AddressSpace} {ownerIndex : FirstLevelIndex} {pointer : CoarseTableDescriptor}
    (linked : Linked memory spaces owner ownerIndex pointer) (page : SecondLevelIndex) :
    pointer.coarseTable.slot after page = pointer.coarseTable.slot memory page := by
  refine congrArg Slot.mk (written.outside _ ?_)
  have apart := forest.tableApart linked member
  have pageBounds := pointer.coarseTable.place_bounds page
  have slotBounds := space.firstLevel.place_bounds index
  simp only [Descriptor.coarseTable, AddressSpace.firstLevel] at pageBounds slotBounds ⊢
  omega

theorem entry_of_overwrites (forest : Forest memory low high spaces) (member : space ∈ spaces)
    (written : after.Overwrites memory (space.firstLevel.place index) 1 word)
    {other : AddressSpace} (otherMember : other ∈ spaces) (otherIndex : FirstLevelIndex) :
    other.entry after otherIndex =
      if other = space ∧ otherIndex = index then (⟨word⟩ : Slot .first).firstLevelEntry
      else other.entry memory otherIndex := by
  unfold AddressSpace.entry
  rw [forest.firstSlot_of_overwrites member written otherMember]
  split <;> rfl

/-! ## A new section -/

theorem linked_of_section (forest : Forest memory low high spaces) (member : space ∈ spaces)
    (written : after.Overwrites memory (space.firstLevel.place index) 1 word)
    {descriptor : SectionDescriptor}
    (maps : (⟨word⟩ : Slot .first).firstLevelEntry = .section1M descriptor)
    {owner : AddressSpace} {ownerIndex : FirstLevelIndex} {pointer : CoarseTableDescriptor}
    (linked : Linked after spaces owner ownerIndex pointer) :
    Linked memory spaces owner ownerIndex pointer := by
  have found := linked.entry
  rw [forest.entry_of_overwrites member written linked.member] at found
  split at found
  · rw [maps] at found
    cases found
  · exact ⟨linked.member, found⟩

theorem set_section (forest : Forest memory low high spaces) (member : space ∈ spaces)
    (written : after.Overwrites memory (space.firstLevel.place index) 1 word)
    {descriptor : SectionDescriptor}
    (maps : (⟨word⟩ : Slot .first).firstLevelEntry = .section1M descriptor) :
    Forest after low high spaces where
  rootAligned := forest.rootAligned
  rootInside := forest.rootInside
  firstProper otherMember otherIndex := by
    rw [forest.firstSlot_of_overwrites member written otherMember]
    split
    · exact .inr (.inl ⟨descriptor, maps⟩)
    · exact forest.firstProper otherMember otherIndex
  tableInside linked := forest.tableInside (forest.linked_of_section member written maps linked)
  tableApart linked := forest.tableApart (forest.linked_of_section member written maps linked)
  tableUnshared linked otherLinked :=
    forest.tableUnshared (forest.linked_of_section member written maps linked)
      (forest.linked_of_section member written maps otherLinked)
  secondProper linked page := by
    have linkedBefore := forest.linked_of_section member written maps linked
    rw [forest.secondSlot_of_firstOverwrites member written linkedBefore]
    exact forest.secondProper linkedBefore page

theorem target_of_firstOverwrites (forest : Forest memory low high spaces)
    (member : space ∈ spaces)
    (written : after.Overwrites memory (space.firstLevel.place index) 1 word)
    {other : AddressSpace} (otherMember : other ∈ spaces) {address : VirtualAddress}
    (elsewhere : ¬ (other = space ∧ FirstLevelIndex.ofAddress address = index)) :
    other.target after address = other.target memory address := by
  have sameEntry := forest.entry_of_overwrites member written otherMember (.ofAddress address)
  rw [if_neg elsewhere] at sameEntry
  apply AddressSpace.target_congr sameEntry
  intro pointer found
  exact forest.secondSlot_of_firstOverwrites member written ⟨otherMember, found⟩ _

theorem target_of_section (forest : Forest memory low high spaces) (member : space ∈ spaces)
    (written : after.Overwrites memory (space.firstLevel.place index) 1 word)
    {descriptor : SectionDescriptor}
    (maps : (⟨word⟩ : Slot .first).firstLevelEntry = .section1M descriptor)
    {address : VirtualAddress} (covered : FirstLevelIndex.ofAddress address = index) :
    space.target after address = some (descriptor.target address) := by
  unfold AddressSpace.target
  rw [forest.entry_of_overwrites member written member, if_pos ⟨rfl, covered⟩, maps]

/-! ## A new coarse table -/

/-- Below the new pointer hangs the new table; all other tables hang where they did. -/
theorem linked_of_pointer (forest : Forest memory low high spaces) (member : space ∈ spaces)
    (written : after.Overwrites memory (space.firstLevel.place index) 1 word)
    {pointer : CoarseTableDescriptor}
    (points : (⟨word⟩ : Slot .first).firstLevelEntry = .coarse pointer)
    {owner : AddressSpace} {ownerIndex : FirstLevelIndex} {found : CoarseTableDescriptor}
    (linked : Linked after spaces owner ownerIndex found) :
    (owner = space ∧ ownerIndex = index ∧ found = pointer) ∨
      Linked memory spaces owner ownerIndex found := by
  have entry := linked.entry
  rw [forest.entry_of_overwrites member written linked.member] at entry
  split at entry
  · next same =>
      rw [points] at entry
      injection entry with equal
      exact .inl ⟨same.1, same.2, equal.symm⟩
  · exact .inr ⟨linked.member, entry⟩

theorem set_pointer (forest : Forest memory low high spaces) (ordered : low ≤ high)
    (member : space ∈ spaces)
    (written : after.Overwrites memory (space.firstLevel.place index) 1 word)
    {pointer : CoarseTableDescriptor}
    (points : (⟨word⟩ : Slot .first).firstLevelEntry = .coarse pointer)
    (fresh : high ≤ pointer.table.toNat)
    (empty : ∀ page, (pointer.coarseTable.slot after page).word = 0) :
    Forest after low (pointer.table.toNat + TableLevel.coarse.bytes) spaces := by
  refine
    { rootAligned := forest.rootAligned, rootInside := ?_, firstProper := ?_, tableInside := ?_,
      tableApart := ?_, tableUnshared := ?_, secondProper := ?_ }
  · intro other otherMember
    have inside := forest.rootInside otherMember
    exact ⟨inside.1, by omega⟩
  · intro other otherMember otherIndex
    rw [forest.firstSlot_of_overwrites member written otherMember]
    split
    · exact .inr (.inr ⟨pointer, points⟩)
    · exact forest.firstProper otherMember otherIndex
  · intro owner ownerIndex found linked
    rcases forest.linked_of_pointer member written points linked with ⟨-, -, rfl⟩ | before
    · exact ⟨by omega, Nat.le_refl _⟩
    · have inside := forest.tableInside before
      exact ⟨inside.1, by omega⟩
  · intro owner ownerIndex found linked other otherMember
    rcases forest.linked_of_pointer member written points linked with ⟨-, -, rfl⟩ | before
    · have inside := forest.rootInside otherMember
      exact .inr (by omega)
    · exact forest.tableApart before otherMember
  · intro owner ownerIndex found other otherIndex otherFound linked otherLinked equal
    have positive : 0 < TableLevel.coarse.bytes := by decide
    rcases forest.linked_of_pointer member written points linked with ⟨rfl, rfl, rfl⟩ | before
    · rcases forest.linked_of_pointer member written points otherLinked with
        ⟨rfl, rfl, -⟩ | otherBefore
      · exact ⟨rfl, rfl⟩
      · have inside := forest.tableInside otherBefore
        rw [← equal] at inside
        omega
    · rcases forest.linked_of_pointer member written points otherLinked with
        ⟨-, -, rfl⟩ | otherBefore
      · have inside := forest.tableInside before
        rw [equal] at inside
        omega
      · exact forest.tableUnshared before otherBefore equal
  · intro owner ownerIndex found linked page
    rcases forest.linked_of_pointer member written points linked with ⟨-, -, rfl⟩ | before
    · exact .inl (empty page)
    · rw [forest.secondSlot_of_firstOverwrites member written before]
      exact forest.secondProper before page

/-- An empty coarse table in place of an empty slot changes no target. -/
theorem target_of_pointer (forest : Forest memory low high spaces) (member : space ∈ spaces)
    (vacant : space.entry memory index = .fault)
    (written : after.Overwrites memory (space.firstLevel.place index) 1 word)
    {pointer : CoarseTableDescriptor}
    (points : (⟨word⟩ : Slot .first).firstLevelEntry = .coarse pointer)
    (empty : ∀ page, (pointer.coarseTable.slot after page).word = 0)
    {other : AddressSpace} (otherMember : other ∈ spaces) (address : VirtualAddress) :
    other.target after address = other.target memory address := by
  by_cases here : other = space ∧ FirstLevelIndex.ofAddress address = index
  · obtain ⟨rfl, rfl⟩ := here
    have blank : pointer.coarseTable.entry after (.ofAddress address) = .fault :=
      (Slot.secondLevelEntry_eq_fault_iff _).mpr (Slot.isFault_of_word_zero (empty _))
    unfold AddressSpace.target
    rw [vacant, forest.entry_of_overwrites member written member, if_pos ⟨rfl, rfl⟩, points]
    simp only [blank, SecondLevelEntry.target]
  · exact forest.target_of_firstOverwrites member written otherMember here

end FirstLevel

/-! ## New pages -/

section Pages

variable {space : AddressSpace} {index : FirstLevelIndex} {pointer : CoarseTableDescriptor}
  {first : SecondLevelIndex} {count : Nat} {word : Word}

theorem firstSlot_of_pageOverwrites (forest : Forest memory low high spaces)
    (linked : Linked memory spaces space index pointer)
    (fits : first.toNat + count ≤ TableLevel.coarse.entries)
    (written : after.Overwrites memory (pointer.coarseTable.place first) count word)
    {other : AddressSpace} (otherMember : other ∈ spaces) (otherIndex : FirstLevelIndex) :
    other.firstLevel.slot after otherIndex = other.firstLevel.slot memory otherIndex := by
  refine congrArg Slot.mk (written.outside _ ?_)
  have apart := forest.tableApart linked otherMember
  have slotBounds := other.firstLevel.place_bounds otherIndex
  rw [TableLevel.bytes_coarse] at apart
  simp only [CoarseTable.place, Descriptor.coarseTable, AddressSpace.firstLevel,
    TableLevel.entries] at slotBounds fits ⊢
  omega

theorem linked_of_pageOverwrites (forest : Forest memory low high spaces)
    (linked : Linked memory spaces space index pointer)
    (fits : first.toNat + count ≤ TableLevel.coarse.entries)
    (written : after.Overwrites memory (pointer.coarseTable.place first) count word)
    {owner : AddressSpace} {ownerIndex : FirstLevelIndex} {found : CoarseTableDescriptor}
    (linkedAfter : Linked after spaces owner ownerIndex found) :
    Linked memory spaces owner ownerIndex found := by
  have entry := linkedAfter.entry
  rw [AddressSpace.entry,
    forest.firstSlot_of_pageOverwrites linked fits written linkedAfter.member] at entry
  exact ⟨linkedAfter.member, entry⟩

/-- Only the overwritten slots of the one table change. -/
theorem secondSlot_of_pageOverwrites (forest : Forest memory low high spaces)
    (linked : Linked memory spaces space index pointer)
    (fits : first.toNat + count ≤ TableLevel.coarse.entries)
    (written : after.Overwrites memory (pointer.coarseTable.place first) count word)
    {owner : AddressSpace} {ownerIndex : FirstLevelIndex} {found : CoarseTableDescriptor}
    (foundLinked : Linked memory spaces owner ownerIndex found) (page : SecondLevelIndex) :
    found.coarseTable.slot after page =
      if (owner = space ∧ ownerIndex = index) ∧ first.toNat ≤ page.toNat ∧
          page.toNat < first.toNat + count then ⟨word⟩
      else found.coarseTable.slot memory page := by
  by_cases same : owner = space ∧ ownerIndex = index
  · obtain ⟨rfl, rfl⟩ := same
    have samePointer := foundLinked.pointer_unique linked
    subst samePointer
    by_cases covered : first.toNat ≤ page.toNat ∧ page.toNat < first.toNat + count
    · rw [if_pos ⟨⟨rfl, rfl⟩, covered⟩]
      have placed := written.inside (page.toNat - first.toNat) (by omega)
      have samePlace : found.coarseTable.place first + 4 * (page.toNat - first.toNat) =
          found.coarseTable.place page := by
        simp only [CoarseTable.place]
        omega
      rw [samePlace] at placed
      exact congrArg Slot.mk placed
    · rw [if_neg fun both => covered both.2]
      refine congrArg Slot.mk (written.outside _ ?_)
      simp only [CoarseTable.place]
      omega
  · rw [if_neg fun both => same both.1]
    refine congrArg Slot.mk (written.outside _ ?_)
    have differentTable : found.table.toNat ≠ pointer.table.toNat := fun equal =>
      same (forest.tableUnshared foundLinked linked (Address.eq_of_toNat_eq equal))
    have aligned := pointer.table_mod_bytes
    have foundAligned := found.table_mod_bytes
    have pageBound := page.toNat_lt
    rw [TableLevel.bytes_coarse] at aligned foundAligned
    simp only [CoarseTable.place, Descriptor.coarseTable, TableLevel.entries] at fits ⊢
    omega

theorem set_pages (forest : Forest memory low high spaces)
    (linked : Linked memory spaces space index pointer)
    (fits : first.toNat + count ≤ TableLevel.coarse.entries)
    (written : after.Overwrites memory (pointer.coarseTable.place first) count word)
    (proper : (⟨word⟩ : Slot .coarse).SecondLevelProper) :
    Forest after low high spaces where
  rootAligned := forest.rootAligned
  rootInside := forest.rootInside
  firstProper otherMember otherIndex := by
    rw [forest.firstSlot_of_pageOverwrites linked fits written otherMember]
    exact forest.firstProper otherMember otherIndex
  tableInside found :=
    forest.tableInside (forest.linked_of_pageOverwrites linked fits written found)
  tableApart found :=
    forest.tableApart (forest.linked_of_pageOverwrites linked fits written found)
  tableUnshared found otherFound :=
    forest.tableUnshared (forest.linked_of_pageOverwrites linked fits written found)
      (forest.linked_of_pageOverwrites linked fits written otherFound)
  secondProper found page := by
    have foundBefore := forest.linked_of_pageOverwrites linked fits written found
    rw [forest.secondSlot_of_pageOverwrites linked fits written foundBefore]
    split
    · exact proper
    · exact forest.secondProper foundBefore page

/-- Where the trees send addresses once the pages are written. -/
theorem target_of_pages (forest : Forest memory low high spaces)
    (linked : Linked memory spaces space index pointer)
    (fits : first.toNat + count ≤ TableLevel.coarse.entries)
    (written : after.Overwrites memory (pointer.coarseTable.place first) count word)
    {other : AddressSpace} (otherMember : other ∈ spaces) (address : VirtualAddress) :
    other.target after address =
      if (other = space ∧ FirstLevelIndex.ofAddress address = index) ∧
          first.toNat ≤ (SecondLevelIndex.ofAddress address).toNat ∧
          (SecondLevelIndex.ofAddress address).toNat < first.toNat + count then
        (⟨word⟩ : Slot .coarse).secondLevelEntry.target address
      else other.target memory address := by
  have sameEntry : other.entry after (.ofAddress address) =
      other.entry memory (.ofAddress address) := by
    rw [AddressSpace.entry, forest.firstSlot_of_pageOverwrites linked fits written otherMember,
      AddressSpace.entry]
  by_cases here : other = space ∧ FirstLevelIndex.ofAddress address = index
  · have pointed : other.entry memory (.ofAddress address) = .coarse pointer := by
      rw [here.1, here.2]
      exact linked.entry
    unfold AddressSpace.target
    rw [sameEntry, pointed]
    simp only [CoarseTable.entry,
      forest.secondSlot_of_pageOverwrites linked fits written ⟨otherMember, pointed⟩]
    split <;> rfl
  · rw [if_neg fun both => here both.1]
    apply AddressSpace.target_congr sameEntry
    intro own found
    rw [forest.secondSlot_of_pageOverwrites linked fits written ⟨otherMember, found⟩,
      if_neg fun both => here both.1]

end Pages

end Forest

end Armv6Kernel
