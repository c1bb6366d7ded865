import Armv6Kernel.Proofs.AddressSpace.Installing

/-!
# Slots are filled once

Whatever a session does to its tables, it writes to empty slots only, and a mapping writes to slots
of one tree and one MiB only.  A slot that is taken therefore keeps its word, a tree that is not the
one mapped in keeps all of its words, and a descriptor that was installed is found there ever after.
-/

namespace Armv6Kernel

/-- Taken slots of the trees hold the words that they held before. -/
structure Keeps (after before : PhysicalMemory) (spaces : Set AddressSpace) : Prop where
  first : ∀ {space}, space ∈ spaces → ∀ index,
    (space.firstLevel.slot before index).isFault = false →
      space.firstLevel.slot after index = space.firstLevel.slot before index
  second : ∀ {space index pointer}, Linked before spaces space index pointer → ∀ page,
    (pointer.coarseTable.slot before page).isFault = false →
      pointer.coarseTable.slot after page = pointer.coarseTable.slot before page

/-- The tables of a tree hold the words that they held before. -/
structure AddressSpace.Untouched (space : AddressSpace) (after before : PhysicalMemory) :
    Prop where
  first : ∀ index, space.firstLevel.slot after index = space.firstLevel.slot before index
  second : ∀ index pointer, space.entry before index = .coarse pointer → ∀ page,
    pointer.coarseTable.slot after page = pointer.coarseTable.slot before page

/-- Only empty slots of one tree, and of these only such as belong to one first-level index, have
been written. -/
structure FillsOnly (after before : PhysicalMemory) (spaces : Set AddressSpace)
    (space : AddressSpace) (index : FirstLevelIndex) : Prop where
  first : ∀ {other}, other ∈ spaces → ∀ otherIndex,
    other.firstLevel.slot after otherIndex = other.firstLevel.slot before otherIndex ∨
      (other = space ∧ otherIndex = index) ∧
        (other.firstLevel.slot before otherIndex).isFault = true
  second : ∀ {other otherIndex pointer}, Linked before spaces other otherIndex pointer → ∀ page,
    pointer.coarseTable.slot after page = pointer.coarseTable.slot before page ∨
      (other = space ∧ otherIndex = index) ∧
        (pointer.coarseTable.slot before page).isFault = true

section Words

variable {memory middle after : PhysicalMemory} {low high : Nat} {spaces : Set AddressSpace}
  {space : AddressSpace} {index : FirstLevelIndex}

theorem Linked.isFault {pointer : CoarseTableDescriptor}
    (linked : Linked memory spaces space index pointer) :
    (space.firstLevel.slot memory index).isFault = false := by
  have found := linked.entry
  rw [Bool.eq_false_iff]
  intro empty
  rw [AddressSpace.entry, (Slot.firstLevelEntry_eq_fault_iff _).mpr empty] at found
  cases found

/-! ## What is kept -/

theorem Keeps.linked (keeps : Keeps after memory spaces) {pointer : CoarseTableDescriptor}
    (linked : Linked memory spaces space index pointer) :
    Linked after spaces space index pointer := by
  refine ⟨linked.member, ?_⟩
  rw [AddressSpace.entry, keeps.first linked.member index linked.isFault]
  exact linked.entry

theorem Keeps.refl (memory : PhysicalMemory) (spaces : Set AddressSpace) :
    Keeps memory memory spaces :=
  ⟨fun _ _ _ => rfl, fun _ _ _ => rfl⟩

theorem Keeps.trans (later : Keeps after middle spaces) (earlier : Keeps middle memory spaces) :
    Keeps after memory spaces := by
  constructor
  · intro space member index taken
    have same := earlier.first member index taken
    rw [← same] at taken ⊢
    exact later.first member index taken
  · intro space index pointer linked page taken
    have same := earlier.second linked page taken
    rw [← same] at taken ⊢
    exact later.second (earlier.linked linked) page taken

/-- An address that is translated keeps its target. -/
theorem Keeps.target_eq (keeps : Keeps after memory spaces) (member : space ∈ spaces)
    {address : VirtualAddress} {target : PhysicalAddress}
    (translated : space.target memory address = some target) :
    space.target after address = some target := by
  rw [← translated]
  unfold AddressSpace.target at translated
  apply AddressSpace.target_congr
  · apply congrArg Slot.firstLevelEntry
    apply keeps.first member
    rw [Bool.eq_false_iff]
    intro empty
    rw [AddressSpace.entry, (Slot.firstLevelEntry_eq_fault_iff _).mpr empty] at translated
    cases translated
  · intro pointer found
    apply keeps.second ⟨member, found⟩
    rw [Bool.eq_false_iff]
    intro empty
    rw [found] at translated
    simp only [CoarseTable.entry, (Slot.secondLevelEntry_eq_fault_iff _).mpr empty,
      SecondLevelEntry.target] at translated
    cases translated

theorem Keeps.restrict (keeps : Keeps after memory spaces) {fewer : Set AddressSpace}
    (subset : fewer ⊆ spaces) : Keeps after memory fewer where
  first member := keeps.first (subset member)
  second linked := keeps.second ⟨subset linked.member, linked.entry⟩

theorem AddressSpace.Untouched.target_eq (untouched : space.Untouched after memory)
    (address : VirtualAddress) : space.target after address = space.target memory address := by
  apply AddressSpace.target_congr
  · exact congrArg Slot.firstLevelEntry (untouched.first _)
  · intro pointer found
    exact untouched.second _ pointer found _

theorem AddressSpace.Untouched.trans (later : space.Untouched after middle)
    (earlier : space.Untouched middle memory) : space.Untouched after memory where
  first index := (later.first index).trans (earlier.first index)
  second index pointer found page := by
    have linked : space.entry middle index = .coarse pointer :=
      (congrArg Slot.firstLevelEntry (earlier.first index)).trans found
    exact (later.second index pointer linked page).trans (earlier.second index pointer found page)

theorem Forest.untouched_of_agree (forest : Forest memory low high spaces)
    (agree : ∀ place < high, after.word place = memory.word place) (member : space ∈ spaces) :
    space.Untouched after memory where
  first := forest.firstSlot_of_agree agree member
  second _ _ found := forest.secondSlot_of_agree agree ⟨member, found⟩

theorem keeps_of_untouched (untouched : ∀ space ∈ spaces, space.Untouched after memory) :
    Keeps after memory spaces where
  first member index _ := (untouched _ member).first index
  second linked page _ := (untouched _ linked.member).second _ _ linked.entry page

theorem FillsOnly.keeps (fills : FillsOnly after memory spaces space index) :
    Keeps after memory spaces := by
  constructor
  · intro other member otherIndex taken
    rcases fills.first member otherIndex with same | ⟨-, empty⟩
    · exact same
    · rw [empty] at taken
      cases taken
  · intro other otherIndex pointer linked page taken
    rcases fills.second linked page with same | ⟨-, empty⟩
    · exact same
    · rw [empty] at taken
      cases taken

theorem FillsOnly.untouched (fills : FillsOnly after memory spaces space index)
    {other : AddressSpace} (member : other ∈ spaces) (different : other ≠ space) :
    other.Untouched after memory := by
  constructor
  · intro otherIndex
    rcases fills.first member otherIndex with same | ⟨⟨here, -⟩, -⟩
    · exact same
    · exact absurd here different
  · intro otherIndex pointer found page
    rcases fills.second ⟨member, found⟩ page with same | ⟨⟨here, -⟩, -⟩
    · exact same
    · exact absurd here different

/-- A slot that a filling does not concern keeps its meaning. -/
theorem FillsOnly.entry_eq (fills : FillsOnly after memory spaces space index)
    {other : AddressSpace} (member : other ∈ spaces) {otherIndex : FirstLevelIndex}
    (elsewhere : ¬ (other = space ∧ otherIndex = index)) :
    other.entry after otherIndex = other.entry memory otherIndex := by
  rcases fills.first member otherIndex with same | ⟨here, -⟩
  · exact congrArg Slot.firstLevelEntry same
  · exact absurd here elsewhere

theorem FillsOnly.trans (later : FillsOnly after middle spaces space index)
    (earlier : FillsOnly middle memory spaces space index) :
    FillsOnly after memory spaces space index := by
  constructor
  · intro other member otherIndex
    rcases earlier.first member otherIndex with same | filled
    · have next := later.first member otherIndex
      rw [same] at next
      exact next
    · exact .inr filled
  · intro other otherIndex pointer linked page
    rcases earlier.second linked page with same | filled
    · have next := later.second (earlier.keeps.linked linked) page
      rw [same] at next
      exact next
    · exact .inr filled

/-! ## What is filled -/

theorem Forest.fillsOnly_of_agree (forest : Forest memory low high spaces)
    (agree : ∀ place < high, after.word place = memory.word place) :
    FillsOnly after memory spaces space index where
  first member otherIndex := .inl (forest.firstSlot_of_agree agree member otherIndex)
  second linked page := .inl (forest.secondSlot_of_agree agree linked page)

theorem Forest.fillsOnly_of_firstOverwrites (forest : Forest memory low high spaces)
    (member : space ∈ spaces) (vacant : space.entry memory index = .fault) {word : Word}
    (written : after.Overwrites memory (space.firstLevel.place index) 1 word) :
    FillsOnly after memory spaces space index := by
  constructor
  · intro other otherMember otherIndex
    rw [forest.firstSlot_of_overwrites member written otherMember]
    by_cases here : other = space ∧ otherIndex = index
    · right
      obtain ⟨rfl, rfl⟩ := here
      exact ⟨⟨rfl, rfl⟩, (Slot.firstLevelEntry_eq_fault_iff _).mp vacant⟩
    · left
      rw [if_neg here]
  · intro other otherIndex pointer linked page
    exact .inl (forest.secondSlot_of_firstOverwrites member written linked page)

theorem PageSlotsEmpty.isFault {pointer : CoarseTableDescriptor} {granule : Granule}
    {start : VirtualAddress} (empty : PageSlotsEmpty memory pointer granule start)
    {page : SecondLevelIndex} (above : (SecondLevelIndex.ofAddress start).toNat ≤ page.toNat)
    (below : page.toNat < (SecondLevelIndex.ofAddress start).toNat + granule.copies) :
    (pointer.coarseTable.slot memory page).isFault = true := by
  have reached := empty (page.toNat - (SecondLevelIndex.ofAddress start).toNat) (by omega)
  have samePlace : pointer.coarseTable.place (.ofAddress start) +
      4 * (page.toNat - (SecondLevelIndex.ofAddress start).toNat) =
        pointer.coarseTable.place page := by
    simp only [CoarseTable.place]
    omega
  rw [samePlace] at reached
  exact reached

theorem Forest.fillsOnly_of_pageOverwrites (forest : Forest memory low high spaces)
    {pointer : CoarseTableDescriptor} (linked : Linked memory spaces space index pointer)
    {granule : Granule} {start : VirtualAddress} {word : Word}
    (fits : (SecondLevelIndex.ofAddress start).toNat + granule.copies ≤ TableLevel.coarse.entries)
    (empty : PageSlotsEmpty memory pointer granule start)
    (written : after.Overwrites memory (pointer.coarseTable.place (.ofAddress start))
      granule.copies word) :
    FillsOnly after memory spaces space index := by
  constructor
  · intro other otherMember otherIndex
    exact .inl (forest.firstSlot_of_pageOverwrites linked fits written otherMember otherIndex)
  · intro other otherIndex found otherLinked page
    rw [forest.secondSlot_of_pageOverwrites linked fits written otherLinked]
    split
    · next covered =>
        right
        obtain ⟨⟨rfl, rfl⟩, above, below⟩ := covered
        have samePointer := otherLinked.pointer_unique linked
        subst samePointer
        exact ⟨⟨rfl, rfl⟩, empty.isFault above below⟩
    · exact .inl rfl

end Words

/-! ## Map operations -/

section Mapping

variable {A : Type} [TableSource A] [CursorSource A] {tables after : TableMemory A} {low : Nat}
  {spaces : Set AddressSpace} {space : AddressSpace} {granule : Granule}
  {start : VirtualAddress} {physical : PhysicalAddress} {domain : Domain} {flags : MapFlags}
  {descriptor : Descriptor (.mapping granule)}

theorem WritesPage.fillsOnly {pointer : CoarseTableDescriptor}
    (writes : WritesPage tables granule start physical flags pointer descriptor after)
    (sound : tables.Sound low spaces)
    (linked : Linked tables.memory spaces space (.ofAddress start) pointer) :
    FillsOnly after.memory tables.memory spaces space (.ofAddress start) :=
  sound.forest.fillsOnly_of_pageOverwrites linked writes.fits writes.empty writes.written

theorem fillsOnly_afterLink (sound : tables.Sound low spaces) (member : space ∈ spaces)
    (vacant : space.entry tables.memory (.ofAddress start) = .fault)
    (room : TableLevel.coarse.Fits tables.cursor tables.limit) {pointer : CoarseTableDescriptor}
    (leads : pointer.table = tables.nextTable .coarse) :
    FillsOnly (tables.afterLink space start pointer).memory tables.memory spaces space
      (.ofAddress start) := by
  have agree := agree_clear leads room
  have cleared := sound.forest.of_agree agree
  have vacantCleared : space.entry (pointer.coarseTable.clear tables.memory) (.ofAddress start) =
      .fault := by
    rw [AddressSpace.entry, sound.forest.firstSlot_of_agree agree member]
    exact vacant
  have linking : FillsOnly (tables.afterLink space start pointer).memory
      (pointer.coarseTable.clear tables.memory) spaces space (.ofAddress start) :=
    cleared.fillsOnly_of_firstOverwrites member vacantCleared
      (PhysicalMemory.overwrites_store _ _ pointer.word)
  exact linking.trans (sound.forest.fillsOnly_of_agree agree)

/-- A new table below the slot of an address. -/
theorem TableMemory.Sound.newTable (sound : tables.Sound low spaces) (member : space ∈ spaces)
    (vacant : space.entry tables.memory (.ofAddress start) = .fault)
    (room : TableLevel.coarse.Fits tables.cursor tables.limit) {pointer : CoarseTableDescriptor}
    (made : Descriptor.forTable (tables.nextTable .coarse) domain = .ok pointer) :
    (tables.afterLink space start pointer).Sound low spaces ∧
      Linked (tables.afterLink space start pointer).memory spaces space (.ofAddress start)
        pointer ∧
      FillsOnly (tables.afterLink space start pointer).memory tables.memory spaces space
        (.ofAddress start) := by
  obtain ⟨decoded, leads⟩ := forTable_nextTable room made
  obtain ⟨soundLink, linked, -⟩ := sound.afterLink member vacant decoded leads room
  exact ⟨soundLink, linked, fillsOnly_afterLink sound member vacant room leads⟩

theorem Installs.fillsOnly
    (installs : Installs tables space start physical domain flags descriptor after)
    (sound : tables.Sound low spaces) (member : space ∈ spaces) :
    FillsOnly after.memory tables.memory spaces space (.ofAddress start) := by
  cases installs with
  | inSlot aligned made decoded vacant =>
      exact sound.forest.fillsOnly_of_firstOverwrites member vacant
        (tables.memory.overwrites_store _ _)
  | inTable linked writes => exact writes.fillsOnly sound ⟨member, linked⟩
  | inNewTable vacant room made writes =>
      obtain ⟨soundLink, linked, linking⟩ := sound.newTable member vacant room made
      exact (writes.fillsOnly soundLink linked).trans linking

/-- What becomes of the first-level slot of a mapping, and whether a table is taken for it. -/
theorem Installs.entry_cases
    (installs : Installs tables space start physical domain flags descriptor after)
    (sound : tables.Sound low spaces) (member : space ∈ spaces) :
    (granule = .section1M ∧ space.entry tables.memory (.ofAddress start) = .fault ∧
      (∃ found, Descriptor.forSection physical domain flags = .ok found ∧
        space.entry after.memory (.ofAddress start) = .section1M found) ∧
      after.source = tables.source) ∨
    (granule ≠ .section1M ∧ (∃ pointer,
        space.entry tables.memory (.ofAddress start) = .coarse pointer ∧
        space.entry after.memory (.ofAddress start) = .coarse pointer) ∧
      after.source = tables.source) ∨
    (granule ≠ .section1M ∧ space.entry tables.memory (.ofAddress start) = .fault ∧
      TableLevel.coarse.Fits tables.cursor tables.limit ∧
      (∃ pointer, Descriptor.forTable (tables.nextTable .coarse) domain = .ok pointer ∧
        space.entry after.memory (.ofAddress start) = .coarse pointer) ∧
      after.source = (tables.afterTable .coarse).source) := by
  have keeps := (installs.fillsOnly sound member).keeps
  cases installs with
  | @inSlot section1M aligned made decoded vacant =>
      have written : (tables.withEntry space start section1M.word).memory.Overwrites tables.memory
          (space.firstLevel.place (.ofAddress start)) 1 section1M.word :=
        PhysicalMemory.overwrites_store _ _ _
      have filled := sound.forest.entry_of_overwrites member written member (.ofAddress start)
      rw [if_pos ⟨rfl, rfl⟩, (Slot.firstLevelEntry_eq_section1M_iff _ _).mpr decoded] at filled
      exact .inl ⟨rfl, vacant, ⟨section1M, made, filled⟩, rfl⟩
  | inTable linked writes =>
      have linkedAfter := keeps.linked ⟨member, linked⟩
      exact .inr (.inl ⟨writes.page, ⟨_, linked, linkedAfter.entry⟩, writes.source⟩)
  | inNewTable vacant room made writes =>
      obtain ⟨soundLink, linked, -⟩ := sound.newTable member vacant room made
      have linkedAfter := (writes.fillsOnly soundLink linked).keeps.linked linked
      exact .inr (.inr ⟨writes.page, vacant, room, ⟨_, made, linkedAfter.entry⟩, writes.source⟩)

end Mapping

/-! ## Descriptors that are found -/

namespace AddressSpace

/-- The last slot on the way to an address holds a descriptor. -/
inductive Holds (space : AddressSpace) (memory : PhysicalMemory) (address : VirtualAddress) :
    {granule : Granule} → Descriptor (.mapping granule) → Prop
  | inSlot {descriptor : SectionDescriptor}
      (slot : space.firstLevel.slot memory (.ofAddress address) = ⟨descriptor.word⟩)
      (decoded : Descriptor.decode? (.mapping .section1M) descriptor.word = some descriptor) :
      Holds space memory address descriptor
  | inTable {granule : Granule} {descriptor : Descriptor (.mapping granule)}
      {pointer : CoarseTableDescriptor} (page : granule ≠ .section1M)
      (linked : space.entry memory (.ofAddress address) = .coarse pointer)
      (slot : pointer.coarseTable.slot memory (.ofAddress address) = ⟨descriptor.word⟩)
      (decoded : Descriptor.decode? (.mapping granule) descriptor.word = some descriptor) :
      Holds space memory address descriptor

end AddressSpace

theorem isFault_of_decode?_section {descriptor : SectionDescriptor}
    (decoded : Descriptor.decode? (.mapping .section1M) descriptor.word = some descriptor) :
    (⟨descriptor.word⟩ : Slot .first).isFault = false := by
  have meaning := (Slot.firstLevelEntry_eq_section1M_iff ⟨descriptor.word⟩ _).mpr decoded
  rw [Bool.eq_false_iff]
  intro empty
  rw [(Slot.firstLevelEntry_eq_fault_iff _).mpr empty] at meaning
  cases meaning

theorem isFault_of_decode?_page {granule : Granule} (page : granule ≠ .section1M)
    {descriptor : Descriptor (.mapping granule)}
    (decoded : Descriptor.decode? (.mapping granule) descriptor.word = some descriptor) :
    (⟨descriptor.word⟩ : Slot .coarse).isFault = false := by
  have leads := (secondLevelEntry_of_decode? page decoded).2 ⟨0⟩
  rw [Bool.eq_false_iff]
  intro empty
  rw [(Slot.secondLevelEntry_eq_fault_iff _).mpr empty] at leads
  cases leads

section Holding

variable {memory after : PhysicalMemory} {spaces : Set AddressSpace} {space : AddressSpace}
  {address : VirtualAddress} {granule : Granule} {descriptor : Descriptor (.mapping granule)}

/-- A descriptor stays where it is. -/
theorem AddressSpace.Holds.of_keeps (holds : space.Holds memory address descriptor)
    (keeps : Keeps after memory spaces) (member : space ∈ spaces) :
    space.Holds after address descriptor := by
  cases holds with
  | inSlot slot decoded =>
      have taken : (space.firstLevel.slot memory (.ofAddress address)).isFault = false := by
        rw [slot]
        exact isFault_of_decode?_section decoded
      exact .inSlot ((keeps.first member _ taken).trans slot) decoded
  | inTable page linked slot decoded =>
      have below : Linked memory spaces space (.ofAddress address) _ := ⟨member, linked⟩
      have taken := isFault_of_decode?_page page decoded
      rw [← slot] at taken
      exact .inTable page (keeps.linked below).entry
        ((keeps.second below _ taken).trans slot) decoded

end Holding

section Installed

variable {A : Type} [TableSource A] [CursorSource A] {tables after : TableMemory A} {low : Nat}
  {spaces : Set AddressSpace} {space : AddressSpace} {granule : Granule}
  {start address : VirtualAddress} {physical : PhysicalAddress} {domain : Domain}
  {flags : MapFlags} {descriptor : Descriptor (.mapping granule)}

theorem WritesPage.holds {pointer : CoarseTableDescriptor}
    (writes : WritesPage tables granule start physical flags pointer descriptor after)
    (sound : tables.Sound low spaces)
    (linked : Linked tables.memory spaces space (.ofAddress start) pointer)
    (covers : granule.Covers start address) : space.Holds after.memory address descriptor := by
  obtain ⟨sameFirst, covered⟩ := (Granule.covers_page_iff writes.page writes.aligned).mp covers
  have linkedAfter := (writes.fillsOnly sound linked).keeps.linked linked
  have linkedThere : space.entry after.memory (.ofAddress address) = .coarse pointer := by
    rw [sameFirst]
    exact linkedAfter.entry
  refine .inTable writes.page linkedThere ?_ writes.decoded
  rw [sound.forest.secondSlot_of_pageOverwrites linked writes.fits writes.written linked,
    if_pos ⟨⟨rfl, rfl⟩, covered⟩]

/-- An installed descriptor lies on the way to every address that it covers. -/
theorem Installs.holds
    (installs : Installs tables space start physical domain flags descriptor after)
    (sound : tables.Sound low spaces) (member : space ∈ spaces)
    (covers : granule.Covers start address) : space.Holds after.memory address descriptor := by
  cases installs with
  | inSlot aligned made decoded vacant =>
      refine .inSlot ?_ decoded
      rw [(Granule.covers_section_iff aligned).mp covers]
      exact congrArg Slot.mk (tables.memory.word_store_self _ _)
  | inTable linked writes => exact writes.holds sound ⟨member, linked⟩ covers
  | inNewTable vacant room made writes =>
      obtain ⟨soundLink, linked, -⟩ := sound.newTable member vacant room made
      exact writes.holds soundLink linked covers

end Installed

end Armv6Kernel
