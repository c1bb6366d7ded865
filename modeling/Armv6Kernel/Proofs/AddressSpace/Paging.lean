import Armv6Kernel.Proofs.AddressSpace.Mapping

/-!
# Mapping pages

Small and large pages differ in the number of slots that they take and in nothing else that matters
here.  Both make sure that there is a coarse table, look at the slots, and fill them.  `MapEffect`
lists the three ways in which any map operation can end.
-/

namespace Armv6Kernel

variable {A : Type} [TableSource A] [CursorSource A]

namespace AddressSpace

/-- The slots that a mapping would take are empty. -/
def Vacant (space : AddressSpace) (memory : PhysicalMemory) (granule : Granule)
    (start : VirtualAddress) : Prop :=
  space.entry memory (.ofAddress start) = .fault ∨
    granule ≠ .section1M ∧ ∃ pointer, space.entry memory (.ofAddress start) = .coarse pointer ∧
      ∀ step < granule.copies,
        (⟨memory.word (pointer.coarseTable.place (.ofAddress start) + 4 * step)⟩ :
          Slot .coarse).isFault = true

/-- A mapping is asked for as it should be: the addresses are aligned, a large page does not start
too near to the end of its table, and the slots are empty. -/
def Accepts (space : AddressSpace) (memory : PhysicalMemory) (granule : Granule)
    (start : VirtualAddress) (physical : PhysicalAddress) : Prop :=
  start.isAligned granule = true ∧ physical.isAligned granule = true ∧
    (granule = .page64K → (SecondLevelIndex.ofAddress start).toNat < largePageLimit) ∧
    space.Vacant memory granule start

/-- A mapping needs a coarse table that is not there yet. -/
def NeedsTable (space : AddressSpace) (memory : PhysicalMemory) (granule : Granule)
    (start : VirtualAddress) : Prop :=
  granule ≠ .section1M ∧ space.entry memory (.ofAddress start) = .fault

end AddressSpace

/-- The ways in which a map operation can end. -/
inductive MapEffect (tables : TableMemory A) (low : Nat) (spaces : Set AddressSpace)
    (space : AddressSpace) (granule : Granule) (start : VirtualAddress)
    (physical : PhysicalAddress) :
    Outcome MapError (Descriptor (.mapping granule)) × TableMemory A → Prop
  | installed {descriptor : Descriptor (.mapping granule)} {after : TableMemory A}
      (accepts : space.Accepts tables.memory granule start physical)
      (room : space.NeedsTable tables.memory granule start →
        TableLevel.coarse.Fits tables.cursor tables.limit)
      (source : (space.NeedsTable tables.memory granule start ∧
          after.source = (tables.afterTable .coarse).source) ∨
        (¬ space.NeedsTable tables.memory granule start ∧ after.source = tables.source))
      (sound : after.Sound low spaces)
      (maps : after.Maps tables spaces space granule start physical) :
      MapEffect tables low spaces space granule start physical (.value descriptor, after)
  | outOfMemory
      (accepts : space.Accepts tables.memory granule start physical)
      (needed : space.NeedsTable tables.memory granule start)
      (full : ¬ TableLevel.coarse.Fits tables.cursor tables.limit) :
      MapEffect tables low spaces space granule start physical
        (.error (.outOfMemory .coarse), tables)
  | refused {cause : Panic}
      (rejects : ¬ space.Accepts tables.memory granule start physical) :
      MapEffect tables low spaces space granule start physical (.panic cause, tables)

variable {tables : TableMemory A} {low : Nat} {spaces : Set AddressSpace} {space : AddressSpace}

theorem mapEffect_section (sound : tables.Sound low spaces) (member : space ∈ spaces)
    (start : VirtualAddress) (physical : PhysicalAddress) (domain : Domain) (flags : MapFlags) :
    MapEffect tables low spaces space .section1M start physical
      ((space.mapSection start physical domain flags).effect tables) := by
  have noTable : ¬ space.NeedsTable tables.memory .section1M start := fun needed =>
    needed.1 rfl
  rcases effect_mapSection (ε := MapError) sound member start physical domain flags with
    ⟨startAligned, physicalAligned, vacant, descriptor, made, effect⟩ | ⟨rejected, cause, effect⟩
  · rw [effect]
    obtain ⟨soundAfter, maps⟩ :=
      sound.mapsSection member startAligned physicalAligned vacant made
    exact .installed
      ⟨startAligned, physicalAligned, fun impossible => (by cases impossible), .inl vacant⟩
      (fun needed => absurd needed noTable) (.inr ⟨noTable, rfl⟩) soundAfter maps
  · rw [effect]
    refine .refused fun accepts => rejected ⟨accepts.1, accepts.2.1, ?_⟩
    rcases accepts.2.2.2 with vacant | paged
    · exact vacant
    · exact absurd rfl paged.1

/-! ## Writing the slots of a page -/

/-- The slots of a page in a linked table. -/
def PageSlotsEmpty (memory : PhysicalMemory) (pointer : CoarseTableDescriptor) (granule : Granule)
    (start : VirtualAddress) : Prop :=
  ∀ step < granule.copies,
    (⟨memory.word (pointer.coarseTable.place (.ofAddress start) + 4 * step)⟩ :
      Slot .coarse).isFault = true

theorem Granule.copies_fit {granule : Granule} (page : granule ≠ .section1M)
    {start : VirtualAddress}
    (low : granule = .page64K →
      (SecondLevelIndex.ofAddress start).toNat < AddressSpace.largePageLimit) :
    (SecondLevelIndex.ofAddress start).toNat + granule.copies ≤ TableLevel.coarse.entries := by
  have bound := (SecondLevelIndex.ofAddress start).toNat_lt
  cases granule with
  | page4K =>
      simp only [copies, TableLevel.entries]
      omega
  | page64K =>
      have below := low rfl
      simp only [AddressSpace.largePageLimit] at below
      simp only [copies, TableLevel.entries]
      omega
  | section1M => exact absurd rfl page

theorem secondLevelEntry_of_decode? {granule : Granule} (page : granule ≠ .section1M)
    {descriptor : Descriptor (.mapping granule)}
    (decoded : Descriptor.decode? (.mapping granule) descriptor.word = some descriptor) :
    (⟨descriptor.word⟩ : Slot .coarse).SecondLevelProper ∧
      ∀ address, (⟨descriptor.word⟩ : Slot .coarse).secondLevelEntry.target address =
        some (descriptor.target address) := by
  cases granule with
  | page4K =>
      have entry := (Slot.secondLevelEntry_eq_page4K_iff ⟨descriptor.word⟩ descriptor).mpr decoded
      refine ⟨.inr (.inl ⟨descriptor, entry⟩), fun address => ?_⟩
      rw [entry]
      rfl
  | page64K =>
      have entry := (Slot.secondLevelEntry_eq_page64K_iff ⟨descriptor.word⟩ descriptor).mpr decoded
      refine ⟨.inr (.inr ⟨descriptor, entry⟩), fun address => ?_⟩
      rw [entry]
      rfl
  | section1M => exact absurd rfl page

/-- Filling the empty slots of a page in a linked table maps the page. -/
theorem TableMemory.Sound.mapsPage (sound : tables.Sound low spaces) {granule : Granule}
    (page : granule ≠ .section1M) {start : VirtualAddress} {physical : PhysicalAddress}
    (startAligned : start.isAligned granule = true)
    (fits : (SecondLevelIndex.ofAddress start).toNat + granule.copies ≤ TableLevel.coarse.entries)
    {pointer : CoarseTableDescriptor}
    (linked : Linked tables.memory spaces space (.ofAddress start) pointer)
    (empty : PageSlotsEmpty tables.memory pointer granule start)
    {descriptor : Descriptor (.mapping granule)}
    (decoded : Descriptor.decode? (.mapping granule) descriptor.word = some descriptor)
    (leads : descriptor.base = physical) {memory : PhysicalMemory}
    (written : memory.Overwrites tables.memory (pointer.coarseTable.place (.ofAddress start))
      granule.copies descriptor.word) :
    ({ tables with memory := memory } : TableMemory A).Sound low spaces ∧
      ({ tables with memory := memory } : TableMemory A).Maps tables spaces space granule start
        physical := by
  obtain ⟨proper, target⟩ := secondLevelEntry_of_decode? page decoded
  constructor
  · exact
      { covers := sound.covers.of_extent written.extent
        above := sound.above
        below := sound.below
        forest := sound.forest.set_pages linked fits written proper }
  · constructor
    · intro address covers
      obtain ⟨sameFirst, above, below⟩ := (Granule.covers_page_iff page startAligned).mp covers
      have blank := empty ((SecondLevelIndex.ofAddress address).toNat -
        (SecondLevelIndex.ofAddress start).toNat) (by omega)
      have samePlace : pointer.coarseTable.place (.ofAddress start) +
          4 * ((SecondLevelIndex.ofAddress address).toNat -
            (SecondLevelIndex.ofAddress start).toNat) =
          pointer.coarseTable.place (.ofAddress address) := by
        simp only [CoarseTable.place]
        omega
      rw [samePlace] at blank
      have entry : pointer.coarseTable.entry tables.memory (.ofAddress address) = .fault :=
        (Slot.secondLevelEntry_eq_fault_iff _).mpr blank
      unfold AddressSpace.target
      rw [sameFirst, linked.entry]
      simp only [entry, SecondLevelEntry.target]
    · intro address covers
      have covered := (Granule.covers_page_iff page startAligned).mp covers
      refine ⟨descriptor.target address, ?_,
        Descriptor.target_of_covers leads startAligned covers⟩
      rw [sound.forest.target_of_pages linked fits written linked.member,
        if_pos ⟨⟨rfl, covered.1⟩, covered.2⟩, target]
    · intro other otherMember address elsewhere
      rw [Granule.covers_page_iff page startAligned] at elsewhere
      rw [sound.forest.target_of_pages linked fits written otherMember, if_neg]
      rintro ⟨⟨same, sameFirst⟩, covered⟩
      exact elsewhere ⟨same, sameFirst, covered⟩

/-! ## The page operations -/

/-- What a page operation does once it has a coarse table. -/
def InstallsPage (granule : Granule) (start : VirtualAddress) (physical : PhysicalAddress)
    (install : CoarseTableDescriptor →
      Action (TableMemory A) MapError (Descriptor (.mapping granule))) : Prop :=
  ∀ (pointer : CoarseTableDescriptor) (tables : TableMemory A),
    tables.memory.checkRange TableLevel.coarse.bytes pointer.table = .ok () →
      (PageSlotsEmpty tables.memory pointer granule start ∧
        ∃ (descriptor : Descriptor (.mapping granule)) (memory : PhysicalMemory),
          Descriptor.decode? (.mapping granule) descriptor.word = some descriptor ∧
          descriptor.base = physical ∧
          memory.Overwrites tables.memory (pointer.coarseTable.place (.ofAddress start))
            granule.copies descriptor.word ∧
          (install pointer).effect tables =
            (.value descriptor, { tables with memory := memory })) ∨
      (¬ PageSlotsEmpty tables.memory pointer granule start ∧
        ∃ cause, (install pointer).effect tables = (.panic cause, tables))

theorem AddressSpace.not_accepts_of_entry {granule : Granule} {start : VirtualAddress}
    {physical : PhysicalAddress} {memory : PhysicalMemory}
    (notFault : space.entry memory (.ofAddress start) ≠ .fault)
    (taken : ∀ pointer, space.entry memory (.ofAddress start) = .coarse pointer →
      ¬ PageSlotsEmpty memory pointer granule start) :
    ¬ space.Accepts memory granule start physical := by
  rintro ⟨-, -, -, vacant | ⟨-, pointer, linked, empty⟩⟩
  · exact notFault vacant
  · exact taken pointer linked empty

theorem pageSlotsEmpty_of_blank {memory : PhysicalMemory} {pointer : CoarseTableDescriptor}
    {granule : Granule} {start : VirtualAddress}
    (fits : (SecondLevelIndex.ofAddress start).toNat + granule.copies ≤ TableLevel.coarse.entries)
    (blank : ∀ page, (pointer.coarseTable.slot memory page).word = 0) :
    PageSlotsEmpty memory pointer granule start := by
  intro step below
  have reached := blank ⟨BitVec.ofNat 8 ((SecondLevelIndex.ofAddress start).toNat + step)⟩
  have samePlace : pointer.coarseTable.place
        ⟨BitVec.ofNat 8 ((SecondLevelIndex.ofAddress start).toNat + step)⟩ =
      pointer.coarseTable.place (.ofAddress start) + 4 * step := by
    simp only [TableLevel.entries] at fits
    simp only [CoarseTable.place, SecondLevelIndex.toNat, BitVec.toNat_ofNat] at fits ⊢
    omega
  rw [CoarseTable.slot, samePlace] at reached
  exact Slot.isFault_of_word_zero reached

omit [TableSource A] [CursorSource A] in
/-- The first part of an operation may change memory as long as it changes no target. -/
theorem TableMemory.Maps.of_same_targets {after middle before : TableMemory A}
    {granule : Granule} {start : VirtualAddress} {physical : PhysicalAddress}
    (maps : after.Maps middle spaces space granule start physical) (member : space ∈ spaces)
    (same : ∀ other ∈ spaces, ∀ address,
      other.target middle.memory address = other.target before.memory address) :
    after.Maps before spaces space granule start physical where
  free address covers := by
    rw [← same space member]
    exact maps.free address covers
  inside := maps.inside
  outside other otherMember address elsewhere := by
    rw [← same other otherMember]
    exact maps.outside other otherMember address elsewhere

theorem Slot.FirstLevelProper.entry_ne_unsupported {slot : Slot .first}
    (proper : slot.FirstLevelProper) (word : Word) :
    slot.firstLevelEntry ≠ .unsupported word := by
  intro found
  rcases proper with zero | ⟨descriptor, maps⟩ | ⟨pointer, points⟩
  · rw [Slot.firstLevelEntry_of_word_zero zero] at found
    cases found
  · rw [maps] at found
    cases found
  · rw [points] at found
    cases found

/-- Making sure of a coarse table and then installing the page ends in one of the three ways. -/
theorem mapEffect_page (sound : tables.Sound low spaces) (member : space ∈ spaces)
    {granule : Granule} (page : granule ≠ .section1M) {start : VirtualAddress}
    {physical : PhysicalAddress} (startAligned : start.isAligned granule = true)
    (physicalAligned : physical.isAligned granule = true)
    (placed : granule = .page64K →
      (SecondLevelIndex.ofAddress start).toNat < AddressSpace.largePageLimit)
    (domain : Domain)
    {install : CoarseTableDescriptor →
      Action (TableMemory A) MapError (Descriptor (.mapping granule))}
    (installs : InstallsPage granule start physical install) :
    MapEffect tables low spaces space granule start physical
      ((space.ensureCoarse start domain >>= install).effect tables) := by
  have copiesFit := Granule.copies_fit page placed
  rw [Action.effect_bind]
  rcases found : space.entry tables.memory (.ofAddress start) with _ | pointer | descriptor | word
  · have needed : space.NeedsTable tables.memory granule start := ⟨page, found⟩
    have accepts : space.Accepts tables.memory granule start physical :=
      ⟨startAligned, physicalAligned, placed, .inl found⟩
    rcases effect_ensureCoarse_of_fault sound member domain found with
      ⟨fits, pointer, -, decoded, leads, ensured⟩ | ⟨full, ensured⟩
    · obtain ⟨soundLink, linked, sameTargets⟩ :=
        sound.afterLink member found decoded leads fits
      have empty : PageSlotsEmpty (tables.afterLink space start pointer).memory pointer granule
          start :=
        pageSlotsEmpty_of_blank copiesFit (afterLink_empty sound member leads fits)
      rw [ensured]
      rcases installs pointer _ (soundLink.table_inMemory linked) with
        ⟨-, descriptor, memory, proper, base, written, effect⟩ | ⟨taken, -⟩
      · obtain ⟨soundAfter, maps⟩ :=
          soundLink.mapsPage page startAligned copiesFit linked empty proper base written
        simp only [effect]
        exact .installed accepts (fun _ => fits) (.inl ⟨needed, rfl⟩) soundAfter
          (maps.of_same_targets member sameTargets)
      · exact absurd empty taken
    · rw [ensured]
      exact .outOfMemory accepts needed full
  · have noTable : ¬ space.NeedsTable tables.memory granule start := by
      rintro ⟨-, vacant⟩
      rw [found] at vacant
      cases vacant
    have linked : Linked tables.memory spaces space (.ofAddress start) pointer := ⟨member, found⟩
    rw [effect_ensureCoarse_of_coarse (sound.root_inMemory member) domain found]
    rcases installs pointer tables (sound.table_inMemory linked) with
      ⟨empty, descriptor, memory, proper, base, written, effect⟩ | ⟨taken, cause, effect⟩
    · obtain ⟨soundAfter, maps⟩ :=
        sound.mapsPage page startAligned copiesFit linked empty proper base written
      simp only [effect]
      exact .installed
        ⟨startAligned, physicalAligned, placed, .inr ⟨page, pointer, found, empty⟩⟩
        (fun needed => absurd needed noTable) (.inr ⟨noTable, rfl⟩) soundAfter maps
    · simp only [effect]
      refine .refused
        (AddressSpace.not_accepts_of_entry (fun vacant => ?_) fun other linkedOther => ?_)
      · rw [found] at vacant
        cases vacant
      · rw [found] at linkedOther
        rw [← FirstLevelEntry.coarse.inj linkedOther]
        exact taken
  · rw [effect_ensureCoarse_of_other (sound.root_inMemory member) domain found nofun nofun]
    refine .refused
      (AddressSpace.not_accepts_of_entry (fun vacant => ?_) fun other linkedOther => ?_)
    · rw [found] at vacant
      cases vacant
    · rw [found] at linkedOther
      cases linkedOther
  · have proper := sound.forest.firstProper member (.ofAddress start)
    exact absurd found (proper.entry_ne_unsupported word)

theorem effect_checkEmpty {σ : Type} (virtual : VirtualAddress) (first : Nat)
    (slots : List (Slot .coarse)) (state : σ) :
    ((∀ slot ∈ slots, slot.isFault = true) ∧
      (AddressSpace.checkEmpty virtual first slots : Action σ MapError Unit).effect state =
        (.value (), state)) ∨
    ∃ step slot, slots[step]? = some slot ∧ slot.isFault = false ∧
      (∀ earlier ∈ slots.take step, earlier.isFault = true) ∧
      (AddressSpace.checkEmpty virtual first slots : Action σ MapError Unit).effect state =
        (.panic (.largePageOccupied virtual (first + step) slot), state) := by
  unfold AddressSpace.checkEmpty
  split
  · next slot step found =>
      right
      obtain ⟨taken, place, below, here, earlier⟩ := List.find?_eq_some_iff_getElem.mp found
      rw [List.getElem_zipIdx, Prod.mk.injEq, Nat.zero_add] at here
      obtain ⟨same, rfl⟩ := here
      rw [List.length_zipIdx] at below
      refine ⟨place, slot, ?_, by simpa using taken, fun other member => ?_, rfl⟩
      · rw [List.getElem?_eq_getElem below, same]
      · obtain ⟨index, bound, rfl⟩ := List.getElem_of_mem member
        rw [List.length_take] at bound
        have checked := earlier index (by omega)
        rw [List.getElem_zipIdx] at checked
        rw [List.getElem_take]
        simpa using checked
  · next found =>
      left
      refine ⟨fun slot member => ?_, rfl⟩
      rw [List.find?_eq_none] at found
      obtain ⟨step, below, same⟩ := List.getElem_of_mem member
      have checked := found (slot, step) (List.mem_zipIdx_iff_getElem?.mpr (by
        rw [List.getElem?_eq_getElem below, same]))
      simpa using checked

namespace CoarseTable

section Placed

variable {index : SecondLevelIndex}

theorem checkRun_of_placed (placed : index.toNat < AddressSpace.largePageLimit) :
    checkRun index AddressSpace.largePageCopies = .ok () := by
  simp only [AddressSpace.largePageLimit] at placed
  have small : ¬ countLimit ≤ index.toNat + AddressSpace.largePageCopies := by
    simp only [AddressSpace.largePageCopies, countLimit]
    omega
  have inside : ¬ TableLevel.coarse.entries < index.toNat + AddressSpace.largePageCopies := by
    simp only [AddressSpace.largePageCopies, TableLevel.entries]
    omega
  exact (if_neg small).trans (if_neg inside)

theorem slots_of_placed (table : CoarseTable) (memory : PhysicalMemory)
    (placed : index.toNat < AddressSpace.largePageLimit) :
    table.slots memory index AddressSpace.largePageCopies =
      .ok (table.run memory index AddressSpace.largePageCopies) := by
  rw [slots, checkRun_of_placed placed]
  rfl

theorem fillSlots_of_placed (table : CoarseTable) (memory : PhysicalMemory)
    (placed : index.toNat < AddressSpace.largePageLimit) (word : Word) :
    table.fillSlots memory index AddressSpace.largePageCopies word =
      .ok (memory.fill (table.place index) AddressSpace.largePageCopies word) := by
  rw [fillSlots, checkRun_of_placed placed]
  rfl

end Placed

end CoarseTable

theorem mapEffect_smallPage (sound : tables.Sound low spaces) (member : space ∈ spaces)
    (start : VirtualAddress) (physical : PhysicalAddress) (domain : Domain) (flags : MapFlags) :
    MapEffect tables low spaces space .page4K start physical
      ((space.mapSmallPage start physical domain flags).effect tables) := by
  have page : Granule.page4K ≠ .section1M := by decide
  unfold AddressSpace.mapSmallPage
  rw [Action.effect_bind, Action.effect_assert]
  by_cases startAligned : start.isAligned .page4K = true
  · rw [if_pos startAligned]
    dsimp only
    rw [Action.effect_bind, Action.effect_assert]
    by_cases physicalAligned : physical.isAligned .page4K = true
    · rw [if_pos physicalAligned]
      have placed : Granule.page4K = .page64K →
          (SecondLevelIndex.ofAddress start).toNat < AddressSpace.largePageLimit := by
        intro impossible
        cases impossible
      refine mapEffect_page sound member page startAligned physicalAligned placed domain ?_
      intro pointer middle inMemory
      obtain ⟨descriptor, made, decoded, leads⟩ :=
        Descriptor.forMapping_of_isAligned flags physicalAligned
      have emptyIff : PageSlotsEmpty middle.memory pointer .page4K start ↔
          (pointer.coarseTable.slot middle.memory (.ofAddress start)).isFault = true := by
        refine ⟨fun empty => empty 0 Nat.one_pos, fun empty step below => ?_⟩
        have first : step = 0 := Nat.lt_one_iff.mp below
        rw [first]
        exact empty
      rw [emptyIff]
      simp only [Action.effect_bind, Action.effect_get, AddressSpace.reachCoarse_eq inMemory,
        Action.effect_ofExcept_ok, Action.effect_assert]
      by_cases empty : (pointer.coarseTable.slot middle.memory (.ofAddress start)).isFault = true
      · left
        refine ⟨empty, descriptor, _, decoded, leads,
          middle.memory.overwrites_store _ descriptor.word, ?_⟩
        simp only [if_pos empty, made, Action.effect_ofExcept_ok,
          Descriptor.encode_of_decode? decoded]
        rfl
      · right
        simp only [if_neg empty]
        exact ⟨empty, _, rfl⟩
    · rw [if_neg physicalAligned]
      exact .refused fun accepts => physicalAligned accepts.2.1
  · rw [if_neg startAligned]
    exact .refused fun accepts => startAligned accepts.1

theorem mapEffect_largePage (sound : tables.Sound low spaces) (member : space ∈ spaces)
    (start : VirtualAddress) (physical : PhysicalAddress) (domain : Domain) (flags : MapFlags) :
    MapEffect tables low spaces space .page64K start physical
      ((space.mapLargePage start physical domain flags).effect tables) := by
  have page : Granule.page64K ≠ .section1M := by decide
  unfold AddressSpace.mapLargePage
  rw [Action.effect_bind, Action.effect_assert]
  by_cases startAligned : start.isAligned .page64K = true
  · rw [if_pos startAligned]
    dsimp only
    rw [Action.effect_bind, Action.effect_assert]
    by_cases physicalAligned : physical.isAligned .page64K = true
    · rw [if_pos physicalAligned]
      dsimp only
      rw [Action.effect_bind, Action.effect_assert]
      by_cases placed : (SecondLevelIndex.ofAddress start).toNat < AddressSpace.largePageLimit
      · rw [if_pos (decide_eq_true placed)]
        refine mapEffect_page sound member page startAligned physicalAligned (fun _ => placed)
          domain ?_
        intro pointer middle inMemory
        obtain ⟨descriptor, made, decoded, leads⟩ :=
          Descriptor.forMapping_of_isAligned flags physicalAligned
        simp only [Action.effect_bind, Action.effect_get, AddressSpace.reachCoarse_eq inMemory,
          Action.effect_ofExcept_ok, pointer.coarseTable.slots_of_placed _ placed]
        rcases effect_checkEmpty start (SecondLevelIndex.ofAddress start).toNat
            (pointer.coarseTable.run middle.memory (.ofAddress start)
              AddressSpace.largePageCopies) middle with
          ⟨empty, checked⟩ | ⟨place, slot, found, notFault, -, checked⟩
        · left
          refine ⟨?_, descriptor, _, decoded, leads,
            middle.memory.overwrites_fill _ _ descriptor.word, ?_⟩
          · intro step below
            exact empty _ (List.mem_map.mpr ⟨step, List.mem_range.mpr below, rfl⟩)
          · simp only [checked, made, Action.effect_ofExcept_ok,
              Descriptor.encode_of_decode? decoded,
              pointer.coarseTable.fillSlots_of_placed _ placed]
            rfl
        · right
          obtain ⟨step, below, rfl⟩ := List.mem_map.mp (List.mem_of_getElem? found)
          refine ⟨fun empty => ?_, ?_⟩
          · have fault := empty step (List.mem_range.mp below)
            rw [fault] at notFault
            cases notFault
          · simp only [checked]
            exact ⟨_, rfl⟩
      · rw [if_neg (by simpa using placed)]
        exact .refused fun accepts => placed (accepts.2.2.1 rfl)
    · rw [if_neg physicalAligned]
      exact .refused fun accepts => physicalAligned accepts.2.1
  · rw [if_neg startAligned]
    exact .refused fun accepts => startAligned accepts.1

namespace AddressSpace

/-- Maps a granule of any size. -/
def mapGranule (space : AddressSpace) : (granule : Granule) → VirtualAddress → PhysicalAddress →
    Domain → MapFlags → Action (TableMemory A) MapError (Descriptor (.mapping granule))
  | .page4K => space.mapSmallPage
  | .page64K => space.mapLargePage
  | .section1M => space.mapSection

end AddressSpace

/-- Every map operation on sound tables ends in one of the ways that `MapEffect` lists. -/
theorem mapEffect_mapGranule (sound : tables.Sound low spaces) (member : space ∈ spaces)
    (granule : Granule) (start : VirtualAddress) (physical : PhysicalAddress) (domain : Domain)
    (flags : MapFlags) :
    MapEffect tables low spaces space granule start physical
      ((space.mapGranule granule start physical domain flags).effect tables) := by
  cases granule with
  | page4K => exact mapEffect_smallPage sound member start physical domain flags
  | page64K => exact mapEffect_largePage sound member start physical domain flags
  | section1M => exact mapEffect_section sound member start physical domain flags

end Armv6Kernel
