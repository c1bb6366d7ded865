import Armv6Kernel.Proofs.AddressSpace.Transcript

/-!
# Which mappings are accepted

A map operation looks at slots, and its caller thinks in addresses.  The two agree because a coarse
table is only made for a page, so that each linked table has a slot that is taken.  Hence the slots
of a mapping are empty exactly if none of its addresses is translated.
-/

namespace Armv6Kernel

/-- A mapping cannot be asked for: its addresses are not multiples of its size, or it is a large
page in the last 64 KiB of a MiB. -/
def Misplaced (granule : Granule) (start : VirtualAddress) (physical : PhysicalAddress) : Prop :=
  start.toNat % granule.bytes ≠ 0 ∨ physical.toNat % granule.bytes ≠ 0 ∨
    granule = .page64K ∧ 0xf0000 ≤ start.toNat % 0x100000

namespace AddressSpace

/-- Some address of a mapping is translated already. -/
def Overlaps (space : AddressSpace) (memory : PhysicalMemory) (granule : Granule)
    (start : VirtualAddress) : Prop :=
  ∃ address target, granule.Covers start address ∧
    space.translate memory address = .ok (some target)

/-- A page needs a coarse table, and the source of tables cannot provide one. -/
def LacksTable {A : Type} [TableSource A] (space : AddressSpace) (tables : TableMemory A)
    (granule : Granule) (start : VirtualAddress) : Prop :=
  granule ≠ .section1M ∧
    (∃ slot, space.firstLevelSlot tables.memory start = .ok slot ∧ slot.isFault = true) ∧
    ∀ block, ((TableSource.allocate 0x400 0x400).effect tables.source).1 ≠ .value (some block)

end AddressSpace

theorem Granule.Covers.sameSection {granule : Granule} {start address : VirtualAddress}
    (covers : granule.Covers start address) (aligned : start.isAligned granule = true) :
    FirstLevelIndex.ofAddress address = FirstLevelIndex.ofAddress start := by
  by_cases page : granule = .section1M
  · subst page
    exact (covers_section_iff aligned).mp covers
  · exact ((covers_page_iff page aligned).mp covers).1

/-- Every pair of indices is the way to some address. -/
theorem exists_address (first : FirstLevelIndex) (second : SecondLevelIndex) :
    ∃ address, FirstLevelIndex.ofAddress address = first ∧
      SecondLevelIndex.ofAddress address = second := by
  have firstBound := first.toNat_lt
  have secondBound := second.toNat_lt
  refine ⟨.ofNat (first.toNat * 0x100000 + second.toNat * 0x1000), ?_, ?_⟩
  · apply FirstLevelIndex.eq_of_toNat_eq
    rw [FirstLevelIndex.toNat_ofAddress, Address.toNat_ofNat]
    omega
  · apply SecondLevelIndex.eq_of_toNat_eq
    rw [SecondLevelIndex.toNat_ofAddress, Address.toNat_ofNat]
    omega

/-- Some address of a page goes through each of its slots. -/
theorem Granule.exists_covers {granule : Granule} (page : granule ≠ .section1M)
    {start : VirtualAddress} (aligned : start.isAligned granule = true) {step : Nat}
    (below : step < granule.copies) :
    ∃ address, granule.Covers start address ∧
      (SecondLevelIndex.ofAddress address).toNat =
        (SecondLevelIndex.ofAddress start).toNat + step := by
  have inTable : (SecondLevelIndex.ofAddress start).toNat + step < 256 := by
    rw [Address.isAligned_iff] at aligned
    rw [SecondLevelIndex.toNat_ofAddress]
    cases granule with
    | page4K =>
        simp only [copies] at below
        omega
    | page64K =>
        simp only [copies, bytes] at below aligned
        omega
    | section1M => exact absurd rfl page
  obtain ⟨address, sameFirst, sameSecond⟩ := exists_address (.ofAddress start)
    ⟨BitVec.ofNat 8 ((SecondLevelIndex.ofAddress start).toNat + step)⟩
  have reached : (SecondLevelIndex.ofAddress address).toNat =
      (SecondLevelIndex.ofAddress start).toNat + step := by
    rw [sameSecond, SecondLevelIndex.toNat, BitVec.toNat_ofNat]
    omega
  exact ⟨address, (covers_page_iff page aligned).mpr ⟨sameFirst, by omega, by omega⟩, reached⟩

theorem misplaced_iff {granule : Granule} {start : VirtualAddress} {physical : PhysicalAddress} :
    ¬ Misplaced granule start physical ↔
      start.isAligned granule = true ∧ physical.isAligned granule = true ∧
        (granule = .page64K →
          (SecondLevelIndex.ofAddress start).toNat < AddressSpace.largePageLimit) := by
  have near : (SecondLevelIndex.ofAddress start).toNat < AddressSpace.largePageLimit ↔
      ¬ 0xf0000 ≤ start.toNat % 0x100000 := by
    rw [SecondLevelIndex.toNat_ofAddress, AddressSpace.largePageLimit]
    omega
  rw [Address.isAligned_iff, Address.isAligned_iff, near]
  simp only [Misplaced, not_or, not_and, ne_eq, not_not]

/-! ## Slots and addresses -/

/-- In each linked table a slot is taken. -/
def Furnished (memory : PhysicalMemory) (spaces : Set AddressSpace) : Prop :=
  ∀ {space index pointer}, Linked memory spaces space index pointer →
    ∃ page, (pointer.coarseTable.slot memory page).isFault = false

section Slots

variable {A : Type} [TableSource A] [CursorSource A] {tables after : TableMemory A} {low : Nat}
  {spaces : Set AddressSpace} {space : AddressSpace} {granule : Granule}
  {start address : VirtualAddress} {physical : PhysicalAddress}

/-- Under a coarse pointer an address is translated exactly if its slot is taken. -/
theorem TableMemory.Sound.target_eq_none_iff (sound : tables.Sound low spaces)
    {pointer : CoarseTableDescriptor}
    (linked : Linked tables.memory spaces space (.ofAddress address) pointer) :
    space.target tables.memory address = none ↔
      (pointer.coarseTable.slot tables.memory (.ofAddress address)).isFault = true := by
  have proper := sound.forest.secondProper linked (.ofAddress address)
  unfold AddressSpace.target
  rw [linked.entry, ← Slot.secondLevelEntry_eq_fault_iff]
  dsimp only [CoarseTable.entry]
  rcases proper with zero | ⟨descriptor, maps⟩ | ⟨descriptor, maps⟩
  · have empty := (Slot.secondLevelEntry_eq_fault_iff _).mpr (Slot.isFault_of_word_zero zero)
    rw [empty]
    exact ⟨fun _ => rfl, fun _ => rfl⟩
  · rw [maps]
    exact ⟨fun impossible => (by cases impossible), fun impossible => (by cases impossible)⟩
  · rw [maps]
    exact ⟨fun impossible => (by cases impossible), fun impossible => (by cases impossible)⟩

theorem TableMemory.Sound.target_of_vacant (sound : tables.Sound low spaces)
    (member : space ∈ spaces) (aligned : start.isAligned granule = true)
    (vacant : space.Vacant tables.memory granule start) (covers : granule.Covers start address) :
    space.target tables.memory address = none := by
  rcases vacant with fault | ⟨page, pointer, linked, empty⟩
  · unfold AddressSpace.target
    rw [covers.sameSection aligned, fault]
  · obtain ⟨sameFirst, above, below⟩ := (Granule.covers_page_iff page aligned).mp covers
    rw [← sameFirst] at linked
    rw [sound.target_eq_none_iff ⟨member, linked⟩]
    exact PageSlotsEmpty.isFault empty above below

theorem TableMemory.Sound.vacant_of_free (sound : tables.Sound low spaces)
    (furnished : Furnished tables.memory spaces) (member : space ∈ spaces)
    (aligned : start.isAligned granule = true)
    (free : ∀ address, granule.Covers start address → space.target tables.memory address = none) :
    space.Vacant tables.memory granule start := by
  have freeStart := free start (granule.covers_self start)
  rcases found : space.entry tables.memory (.ofAddress start) with _ | pointer | descriptor | word
  · exact .inl found
  · have linked : Linked tables.memory spaces space (.ofAddress start) pointer := ⟨member, found⟩
    by_cases page : granule = .section1M
    · -- A whole MiB cannot be free above a table that has a taken slot.
      subst page
      obtain ⟨index, taken⟩ := furnished linked
      obtain ⟨address, sameFirst, sameSecond⟩ := exists_address (.ofAddress start) index
      have freeThere := free address ((Granule.covers_section_iff aligned).mpr sameFirst)
      rw [← sameFirst] at linked
      rw [sound.target_eq_none_iff linked, sameSecond, taken] at freeThere
      cases freeThere
    · refine .inr ⟨page, pointer, found, fun step below => ?_⟩
      obtain ⟨address, covers, reached⟩ := Granule.exists_covers page aligned below
      have freeThere := free address covers
      rw [← covers.sameSection aligned] at linked
      have samePlace : pointer.coarseTable.place (.ofAddress start) + 4 * step =
          pointer.coarseTable.place (.ofAddress address) := by
        simp only [CoarseTable.place]
        omega
      rw [samePlace]
      exact (sound.target_eq_none_iff linked).mp freeThere
  · rw [AddressSpace.target, found] at freeStart
    cases freeStart
  · exact absurd found ((sound.forest.firstProper member _).entry_ne_unsupported word)

theorem AddressSpace.overlaps_iff (sound : tables.Sound low spaces) (member : space ∈ spaces) :
    ¬ space.Overlaps tables.memory granule start ↔
      ∀ address, granule.Covers start address → space.target tables.memory address = none := by
  constructor
  · intro apart address covers
    rcases free : space.target tables.memory address with _ | target
    · rfl
    · refine absurd ⟨address, target, covers, ?_⟩ apart
      rw [sound.translate_eq member, free]
  · rintro free ⟨address, target, covers, translated⟩
    rw [sound.translate_eq member, free address covers] at translated
    cases translated

theorem AddressSpace.accepts_iff (sound : tables.Sound low spaces)
    (furnished : Furnished tables.memory spaces) (member : space ∈ spaces) :
    space.Accepts tables.memory granule start physical ↔
      ¬ (Misplaced granule start physical ∨ space.Overlaps tables.memory granule start) := by
  rw [not_or, misplaced_iff, overlaps_iff sound member]
  constructor
  · rintro ⟨startAligned, physicalAligned, placed, vacant⟩
    refine ⟨⟨startAligned, physicalAligned, placed⟩, fun address covers => ?_⟩
    exact sound.target_of_vacant member startAligned vacant covers
  · rintro ⟨⟨startAligned, physicalAligned, placed⟩, free⟩
    exact ⟨startAligned, physicalAligned, placed,
      sound.vacant_of_free furnished member startAligned free⟩

theorem AddressSpace.lacksTable_iff (sound : tables.Sound low spaces) (member : space ∈ spaces) :
    space.LacksTable tables granule start ↔
      space.NeedsTable tables.memory granule start ∧
        ¬ TableLevel.coarse.Fits tables.cursor tables.limit := by
  have reached := sound.firstLevelSlot_eq member start
  have empty : (∃ slot, space.firstLevelSlot tables.memory start = .ok slot ∧
      slot.isFault = true) ↔ space.entry tables.memory (.ofAddress start) = .fault := by
    rw [AddressSpace.entry, Slot.firstLevelEntry_eq_fault_iff]
    constructor
    · rintro ⟨slot, found, empty⟩
      rw [reached] at found
      cases found
      exact empty
    · exact fun empty => ⟨_, reached, empty⟩
  have full : (∀ block, ((TableSource.allocate 0x400 0x400).effect tables.source).1 ≠
      .value (some block)) ↔ ¬ TableLevel.coarse.Fits tables.cursor tables.limit := by
    rw [TableMemory.effect_allocate_coarse]
    by_cases fits : TableLevel.coarse.Fits tables.cursor tables.limit
    · rw [if_pos fits]
      exact ⟨fun refused => absurd rfl (refused _), fun full => absurd fits full⟩
    · rw [if_neg fits]
      exact ⟨fun _ => fits, fun _ block impossible => (by cases impossible)⟩
  rw [LacksTable, empty, full, NeedsTable, and_assoc]

end Slots

/-! ## Every linked table is furnished -/

namespace Furnished

variable {A : Type} [TableSource A] [CursorSource A] {tables after : TableMemory A} {low : Nat}
  {spaces : Set AddressSpace} {space : AddressSpace} {granule : Granule}
  {start : VirtualAddress} {physical : PhysicalAddress} {domain : Domain} {flags : MapFlags}
  {descriptor : Descriptor (.mapping granule)}

/-- A new tree has no coarse tables. -/
theorem afterRoot (furnished : Furnished tables.memory spaces) (sound : tables.Sound low spaces)
    (room : TableLevel.first.Fits tables.cursor tables.limit) :
    Furnished tables.afterRoot.memory (insert tables.nextSpace spaces) := by
  intro owner index pointer linked
  have agree := TableMemory.agree_afterRoot room
  rcases linked.member with rfl | old
  · have blank := Forest.entry_of_empty (tables.nextSpace_empty index)
    rw [linked.entry] at blank
    cases blank
  · have linkedBefore := (sound.forest.linked_of_agree agree).mp ⟨old, linked.entry⟩
    obtain ⟨page, taken⟩ := furnished linkedBefore
    refine ⟨page, ?_⟩
    rw [sound.forest.secondSlot_of_agree agree linkedBefore]
    exact taken

/-- A table is made together with the first descriptor in it. -/
theorem of_installs (furnished : Furnished tables.memory spaces) (sound : tables.Sound low spaces)
    (member : space ∈ spaces)
    (installs : Installs tables space start physical domain flags descriptor after) :
    Furnished after.memory spaces := by
  intro owner index pointer linked
  have fills := installs.fillsOnly sound member
  by_cases here : owner = space ∧ index = .ofAddress start
  · obtain ⟨rfl, rfl⟩ := here
    cases installs.holds sound member (granule.covers_self start) with
    | inSlot slot decoded =>
        have found := linked.entry
        rw [AddressSpace.entry, slot,
          (Slot.firstLevelEntry_eq_section1M_iff _ _).mpr decoded] at found
        cases found
    | inTable page linkedHere slot decoded =>
        have same := linkedHere.symm.trans linked.entry
        cases same
        refine ⟨.ofAddress start, ?_⟩
        rw [slot]
        exact isFault_of_decode?_page page decoded
  · have found := linked.entry
    rw [fills.entry_eq linked.member here] at found
    obtain ⟨page, taken⟩ := furnished ⟨linked.member, found⟩
    refine ⟨page, ?_⟩
    rw [fills.keeps.second ⟨linked.member, found⟩ page taken]
    exact taken

end Furnished

/-! ## Runs -/

namespace SpaceSession

variable {A : Type} [TableSource A] [CursorSource A] {low : Nat} {session : SpaceSession A}
  {memory : PhysicalMemory} {source : A}

/-- When a map operation panics, when it runs out of memory and when it succeeds.  Unless it
succeeds, the memory and the source of tables are as before. -/
structure AcceptsExactly (session : SpaceSession A) (space : AddressSpace) (granule : Granule)
    (start : VirtualAddress) (physical : PhysicalAddress)
    (run : Run (SpaceSession A) MapError (Descriptor (.mapping granule))) : Prop where
  panics : (∃ cause, run.outcome = .panic cause) ↔
    Misplaced granule start physical ∨ space.Overlaps session.memory granule start
  fails : ∀ cause, run.outcome = .error cause ↔ cause = .outOfMemory .coarse ∧
    ¬ (Misplaced granule start physical ∨ space.Overlaps session.memory granule start) ∧
    space.LacksTable session.tables granule start
  succeeds : (∃ descriptor, run.outcome = .value descriptor) ↔
    ¬ (Misplaced granule start physical ∨ space.Overlaps session.memory granule start) ∧
    ¬ space.LacksTable session.tables granule start
  atomic : (∀ descriptor, run.outcome ≠ .value descriptor) → run.state = session

theorem Settled.acceptsExactly (settled : Settled low session)
    (furnished : Furnished session.memory {space | space ∈ session.spaces}) {number : Nat}
    {space : AddressSpace} (found : session.space? number = some space) (granule : Granule)
    (start : VirtualAddress) (physical : PhysicalAddress) (domain : Domain) (flags : MapFlags) :
    session.AcceptsExactly space granule start physical
      ((onTables (space.mapGranule granule start physical domain flags)).run session) := by
  have member : space ∈ {space | space ∈ session.spaces} := mem_of_space? found
  have free : space.Accepts session.memory granule start physical ↔
      ¬ (Misplaced granule start physical ∨ space.Overlaps session.memory granule start) :=
    AddressSpace.accepts_iff settled.sound furnished member
  have lacks : space.LacksTable session.tables granule start ↔ _ :=
    AddressSpace.lacksTable_iff settled.sound member
  have ending := mapEffect_mapGranule settled.sound member granule start physical domain flags
  have ran : (onTables (space.mapGranule granule start physical domain flags)).run session =
      ⟨((space.mapGranule granule start physical domain flags).effect session.tables).1,
        { session with tables :=
          ((space.mapGranule granule start physical domain flags).effect session.tables).2 },
        ((space.mapGranule granule start physical domain flags).run session.tables).log⟩ := rfl
  rw [ran]
  generalize ((space.mapGranule granule start physical domain flags).run session.tables).log = log
  generalize (space.mapGranule granule start physical domain flags).effect session.tables =
    ended at ending
  cases ending with
  | @installed descriptor after accepts room source sound maps =>
      have clear := free.mp accepts
      have provided : ¬ space.LacksTable session.tables granule start := fun lacking =>
        (lacks.mp lacking).2 (room (lacks.mp lacking).1)
      constructor
      · exact ⟨fun ⟨_, impossible⟩ => (by cases impossible), fun blocked => absurd blocked clear⟩
      · exact fun cause =>
          ⟨fun impossible => (by cases impossible), fun failed => absurd failed.2.2 provided⟩
      · exact ⟨fun _ => ⟨clear, provided⟩, fun _ => ⟨descriptor, rfl⟩⟩
      · exact fun refused => absurd rfl (refused descriptor)
  | outOfMemory accepts needed full =>
      have clear := free.mp accepts
      have lacking := lacks.mpr ⟨needed, full⟩
      constructor
      · exact ⟨fun ⟨_, impossible⟩ => (by cases impossible), fun blocked => absurd blocked clear⟩
      · intro cause
        constructor
        · intro failed
          cases failed
          exact ⟨rfl, clear, lacking⟩
        · rintro ⟨rfl, -⟩
          rfl
      · exact ⟨fun ⟨_, impossible⟩ => (by cases impossible), fun both => absurd lacking both.2⟩
      · exact fun _ => rfl
  | @refused cause rejects =>
      have blocked := not_not.mp fun clear => rejects (free.mpr clear)
      constructor
      · exact ⟨fun _ => blocked, fun _ => ⟨cause, rfl⟩⟩
      · exact fun cause =>
          ⟨fun impossible => (by cases impossible), fun failed => absurd blocked failed.2.1⟩
      · exact ⟨fun ⟨_, impossible⟩ => (by cases impossible), fun both => absurd blocked both.1⟩
      · exact fun _ => rfl

theorem furnished_transcript (settled : Settled low (start memory source))
    (requests : List SpaceRequest) :
    Settled low ((start memory source).transcript requests).session ∧
    Furnished ((start memory source).transcript requests).session.memory
      {space | space ∈ ((start memory source).transcript requests).session.spaces} := by
  refine Settled.nextAll (motive := fun transcript =>
    Furnished transcript.session.memory {space | space ∈ transcript.session.spaces}) settled ?_ ?_
    requests
  · exact fun linked => absurd linked.member List.not_mem_nil
  · intro session exchanges exchange after settled settledAfter effect furnished
    cases effect with
    | made room =>
        intro owner index pointer linked
        apply furnished.afterRoot settled.sound room
        refine ⟨?_, linked.entry⟩
        rcases List.mem_append.mp linked.member with old | new
        · exact .inr old
        · exact .inl (List.mem_singleton.mp new)
    | mapped found installs =>
        exact furnished.of_installs settled.sound (mem_of_space? found) installs
    | _ => exact furnished

theorem acceptsExactly_of_begins (begins : Begins low memory source)
    (requests : List SpaceRequest) {number : Nat} {space : AddressSpace}
    (found : ((start memory source).transcript requests).session.space? number = some space)
    (granule : Granule) (start : VirtualAddress) (physical : PhysicalAddress) (domain : Domain)
    (flags : MapFlags) :
    let session := ((SpaceSession.start memory source).transcript requests).session
    session.AcceptsExactly space granule start physical
      ((onTables (space.mapGranule granule start physical domain flags)).run session) := by
  rcases begins with settled | unreachable
  · obtain ⟨reached, furnished⟩ := furnished_transcript settled requests
    exact reached.acceptsExactly furnished found granule start physical domain flags
  · rw [space?, (barren_transcript source unreachable requests).1] at found
    cases found

/-- In every session over zeroed memory, whether its tables come from an arena over all of the
memory or from a heap over a part of it, the map operations accept exactly what can be mapped. -/
theorem acceptsExactly_transcript {base length : Word}
    (zeroed : PhysicalMemory.simulated base length = .ok memory) :
    (∀ arena, Arena.ofRange base length = .ok arena → ∀ requests,
      let session := ((start memory arena).transcript requests).session
      ∀ number space, session.space? number = some space →
        ∀ granule start physical domain flags, session.AcceptsExactly space granule start physical
          ((onTables (space.mapGranule granule start physical domain flags)).run session)) ∧
    ∀ first last heap, BumpHeap.create first last = .ok heap → base.toNat ≤ first.toNat →
      last.toNat ≤ base.toNat + length.toNat → ∀ requests,
        let session := ((start memory heap).transcript requests).session
        ∀ number space, session.space? number = some space →
          ∀ granule start physical domain flags,
            session.AcceptsExactly space granule start physical
              ((onTables (space.mapGranule granule start physical domain flags)).run session) := by
  constructor
  · intro arena ranged requests session number space found
    exact acceptsExactly_of_begins (begins_arena zeroed ranged) requests found
  · intro first last heap created above below requests session number space found
    exact acceptsExactly_of_begins (begins_heap zeroed created above below) requests found

/-- A section that is asked for over a page, and a page for which there is no room. -/
theorem acceptsExactly_transcript_refusals :
    let memory : PhysicalMemory := ⟨.window 0x8000 0x8000, fun _ => 0⟩
    let arena : Arena := ⟨⟨0x8000⟩, 0x8000, 0x10000⟩
    let heap : BumpHeap := ⟨⟨0x9008⟩, ⟨0x9008⟩, ⟨0x9008⟩, ⟨0x10000⟩⟩
    let requests : List SpaceRequest :=
      [.makeSpace, .map .page4K 0 ⟨0x101000⟩ ⟨0x1000⟩ ⟨0⟩ .none]
    let inArena := ((start memory arena).transcript requests).session
    let inHeap := ((start memory heap).transcript requests).session
    let section1M := (onTables ((⟨⟨0x8000⟩⟩ : AddressSpace).mapGranule .section1M ⟨0x100000⟩
      ⟨0x300000⟩ ⟨0⟩ .none)).run inArena
    let page64K := (onTables ((⟨⟨0xc000⟩⟩ : AddressSpace).mapGranule .page64K ⟨0x210000⟩
      ⟨0x10000⟩ ⟨0⟩ .none)).run inHeap
    (PhysicalMemory.simulated 0x8000 0x8000 = .ok memory ∧
      Arena.ofRange 0x8000 0x8000 = .ok arena ∧ BumpHeap.create ⟨0x9008⟩ ⟨0x10000⟩ = .ok heap) ∧
    (inArena.space? 0 = some ⟨⟨0x8000⟩⟩ ∧
      inArena.AcceptsExactly ⟨⟨0x8000⟩⟩ .section1M ⟨0x100000⟩ ⟨0x300000⟩ section1M) ∧
    inHeap.space? 0 = some ⟨⟨0xc000⟩⟩ ∧
      inHeap.AcceptsExactly ⟨⟨0xc000⟩⟩ .page64K ⟨0x210000⟩ ⟨0x10000⟩ page64K := by
  have zeroed : PhysicalMemory.simulated 0x8000 0x8000 =
      .ok ⟨.window 0x8000 0x8000, fun _ => 0⟩ := rfl
  have follows := acceptsExactly_transcript zeroed
  refine ⟨⟨zeroed, rfl, rfl⟩, ⟨by decide +kernel, ?_⟩, by decide +kernel, ?_⟩
  · exact follows.1 _ rfl _ 0 _ (by decide +kernel) _ _ _ _ _
  · exact follows.2 ⟨0x9008⟩ ⟨0x10000⟩ _ rfl (by decide) (by decide) _ 0 _ (by decide +kernel)
      _ _ _ _ _

end SpaceSession

end Armv6Kernel
