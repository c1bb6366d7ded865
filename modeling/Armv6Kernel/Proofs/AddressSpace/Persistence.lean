import Armv6Kernel.Proofs.AddressSpace.Transcript

/-!
# Descriptors persist

A descriptor that a session has answered with is found under every address that it covers, from then
on and for good.  A section is in the domain that it was asked for in.  A page is in the domain of
its coarse table, which is that of the first page mapped in the same MiB.
-/

namespace Armv6Kernel

variable {A : Type}

/-! ## What a look-up finds -/

namespace AddressSpace

/-- Looking an address up finds a descriptor, and the first-level slot says which domain it is
in. -/
inductive Finds (space : AddressSpace) (memory : PhysicalMemory) (address : VirtualAddress) :
    {granule : Granule} → Descriptor (.mapping granule) → Domain → Prop
  | section1M {descriptor : SectionDescriptor} {slot : Slot .first}
      (first : space.firstLevelSlot memory address = .ok slot)
      (found : slot.firstLevelEntry = .section1M descriptor) :
      Finds space memory address descriptor descriptor.domain
  | page4K {descriptor : SmallPageDescriptor} {slot : Slot .first}
      {pointer : CoarseTableDescriptor} {below : Slot .coarse}
      (first : space.firstLevelSlot memory address = .ok slot)
      (points : slot.firstLevelEntry = .coarse pointer)
      (second : secondLevelSlot memory pointer address = .ok below)
      (found : below.secondLevelEntry = .page4K descriptor) :
      Finds space memory address descriptor pointer.domain
  | page64K {descriptor : LargePageDescriptor} {slot : Slot .first}
      {pointer : CoarseTableDescriptor} {below : Slot .coarse}
      (first : space.firstLevelSlot memory address = .ok slot)
      (points : slot.firstLevelEntry = .coarse pointer)
      (second : secondLevelSlot memory pointer address = .ok below)
      (found : below.secondLevelEntry = .page64K descriptor) :
      Finds space memory address descriptor pointer.domain

/-- The domain of the coarse table below a first-level slot. -/
def tableDomain? (space : AddressSpace) (memory : PhysicalMemory) (index : FirstLevelIndex) :
    Option Domain :=
  match space.entry memory index with
  | .coarse pointer => some pointer.domain
  | _ => none

variable {space : AddressSpace} {memory : PhysicalMemory} {index : FirstLevelIndex}

theorem tableDomain?_of_coarse {pointer : CoarseTableDescriptor}
    (found : space.entry memory index = .coarse pointer) :
    space.tableDomain? memory index = some pointer.domain := by
  rw [tableDomain?, found]

theorem tableDomain?_of_fault (found : space.entry memory index = .fault) :
    space.tableDomain? memory index = none := by
  rw [tableDomain?, found]

theorem tableDomain?_of_section {descriptor : SectionDescriptor}
    (found : space.entry memory index = .section1M descriptor) :
    space.tableDomain? memory index = none := by
  rw [tableDomain?, found]

theorem tableDomain?_of_entry_eq {after : PhysicalMemory}
    (same : space.entry after index = space.entry memory index) :
    space.tableDomain? after index = space.tableDomain? memory index := by
  rw [tableDomain?, same, tableDomain?]

end AddressSpace

section Tables

variable [TableSource A] [CursorSource A] {tables after : TableMemory A} {low : Nat}
  {spaces : Set AddressSpace} {space : AddressSpace} {granule : Granule}
  {start address : VirtualAddress} {physical : PhysicalAddress} {domain : Domain}
  {flags : MapFlags} {descriptor : Descriptor (.mapping granule)}

/-- In sound tables a descriptor on the way to an address is found by looking the address up. -/
theorem AddressSpace.Holds.finds (holds : space.Holds tables.memory address descriptor)
    (sound : tables.Sound low spaces) (member : space ∈ spaces) :
    (granule = .section1M ∧
      space.Finds tables.memory address descriptor descriptor.domain) ∨
    (granule ≠ .section1M ∧ ∃ pointer,
      space.entry tables.memory (.ofAddress address) = .coarse pointer ∧
      space.Finds tables.memory address descriptor pointer.domain) := by
  have first := sound.firstLevelSlot_eq member address
  cases holds with
  | inSlot slot decoded =>
      rw [slot] at first
      exact .inl ⟨rfl, .section1M first ((Slot.firstLevelEntry_eq_section1M_iff _ _).mpr decoded)⟩
  | inTable page linked slot decoded =>
      have second := sound.secondLevelSlot_eq ⟨member, linked⟩ address
      rw [slot] at second
      refine .inr ⟨page, _, linked, ?_⟩
      cases granule with
      | page4K =>
          exact .page4K first linked second ((Slot.secondLevelEntry_eq_page4K_iff _ _).mpr decoded)
      | page64K =>
          exact .page64K first linked second
            ((Slot.secondLevelEntry_eq_page64K_iff _ _).mpr decoded)
      | section1M => exact absurd rfl page

theorem Installs.granted_eq
    (installs : Installs tables space start physical domain flags descriptor after) :
    descriptor.granted = flags.asked := by
  cases installs with
  | inSlot aligned made decoded vacant => exact (Descriptor.forSection_eq_ok made).1
  | inTable linked writes => exact Descriptor.granted_of_forMapping writes.made
  | inNewTable vacant room made writes => exact Descriptor.granted_of_forMapping writes.made

theorem Installs.domain_of_section
    (installs : Installs tables space start physical domain flags descriptor after)
    (whole : granule = .section1M) : descriptor.domain = domain := by
  cases installs with
  | inSlot aligned made decoded vacant => exact (Descriptor.forSection_eq_ok made).2
  | inTable linked writes => exact absurd whole writes.page
  | inNewTable vacant room made writes => exact absurd whole writes.page

/-- The table below the slot of a mapping has the domain that it had before.  If there was none, it
is a new table for a page and has the domain of that page. -/
theorem Installs.tableDomain?_eq
    (installs : Installs tables space start physical domain flags descriptor after)
    (sound : tables.Sound low spaces) (member : space ∈ spaces) :
    space.tableDomain? after.memory (.ofAddress start) =
      (space.tableDomain? tables.memory (.ofAddress start)).or
        (if granule = .section1M then none else some domain) := by
  rcases installs.entry_cases sound member with
    ⟨whole, vacant, ⟨found, -, filled⟩, -⟩ | ⟨page, ⟨pointer, linked, kept⟩, -⟩ |
    ⟨page, vacant, room, ⟨pointer, made, linked⟩, -⟩
  · rw [AddressSpace.tableDomain?_of_section filled, AddressSpace.tableDomain?_of_fault vacant,
      if_pos whole, Option.or_none]
  · rw [AddressSpace.tableDomain?_of_coarse kept, AddressSpace.tableDomain?_of_coarse linked,
      Option.some_or]
  · rw [AddressSpace.tableDomain?_of_coarse linked, AddressSpace.tableDomain?_of_fault vacant,
      if_neg page, Descriptor.domain_of_forTable made, Option.none_or]

end Tables

/-! ## What a transcript says -/

/-- The domain that a page was asked for in, if the exchange has mapped one in the given MiB. -/
def Exchange.pageDomain? (exchange : Exchange A) (number : Nat) (index : FirstLevelIndex) :
    Option Domain :=
  match exchange with
  | ⟨.map granule other start _ domain _, .value _, _, _⟩ =>
      if other = number ∧ FirstLevelIndex.ofAddress start = index then
        if granule = .section1M then none else some domain
      else none
  | _ => none

theorem Exchange.pageDomain?_of_error (request : SpaceRequest) (cause : MapError) (before after : A)
    (number : Nat) (index : FirstLevelIndex) :
    Exchange.pageDomain? ⟨request, .error cause, before, after⟩ number index = none := by
  cases request <;> rfl

theorem Exchange.pageDomain?_of_panic (request : SpaceRequest) (cause : Panic) (before after : A)
    (number : Nat) (index : FirstLevelIndex) :
    Exchange.pageDomain? ⟨request, .panic cause, before, after⟩ number index = none := by
  cases request <;> rfl

namespace Transcript

/-- The domain that the first page mapped in one MiB of an address space was asked for in. -/
def firstPageDomain? (transcript : Transcript A) (number : Nat) (index : FirstLevelIndex) :
    Option Domain :=
  transcript.exchanges.findSome? (·.pageDomain? number index)

/-- All descriptors in the answers of `early` are found in `late`, and the tables have kept all
slots that were taken. -/
structure Persists (early late : Transcript A) : Prop where
  found : ∀ granule number start physical domain flags
    (descriptor : Descriptor (.mapping granule)) before after,
    ⟨.map granule number start physical domain flags, .value descriptor, before, after⟩ ∈
      early.exchanges →
    descriptor.granted = flags.asked ∧
    ∃ space, late.session.space? number = some space ∧
      ∀ address, granule.Covers start address →
        ∃ inForce, space.Finds late.session.memory address descriptor inForce ∧
          (granule = .section1M → inForce = domain) ∧
          (granule ≠ .section1M →
            early.firstPageDomain? number (.ofAddress address) = some inForce)
  kept : Keeps late.session.memory early.session.memory {space | space ∈ early.session.spaces}

/-- The invariant of a transcript: where its descriptors lie, and which domains the coarse tables
have. -/
structure Describes (transcript : Transcript A) : Prop where
  held : ∀ {granule number start physical domain flags}
    {descriptor : Descriptor (.mapping granule)} {before after},
    ⟨.map granule number start physical domain flags, .value descriptor, before, after⟩ ∈
      transcript.exchanges →
    descriptor.granted = flags.asked ∧ (granule = .section1M → descriptor.domain = domain) ∧
    ∃ space, transcript.session.space? number = some space ∧
      ∀ address, granule.Covers start address →
        space.Holds transcript.session.memory address descriptor
  domains : ∀ number index, transcript.firstPageDomain? number index =
    (transcript.session.space? number).bind (·.tableDomain? transcript.session.memory index)

open SpaceSession

variable [TableSource A] [CursorSource A] {low : Nat} {session after : SpaceSession A}
  {exchanges : List (Exchange A)} {exchange : Exchange A}

theorem Describes.held_next (describes : Describes ⟨session, exchanges⟩)
    (settled : Settled low session) (effect : session.ExchangeEffect exchange after)
    {granule : Granule} {number : Nat} {start : VirtualAddress} {physical : PhysicalAddress}
    {domain : Domain} {flags : MapFlags} {descriptor : Descriptor (.mapping granule)}
    {before later : A}
    (member : ⟨.map granule number start physical domain flags, .value descriptor, before, later⟩ ∈
      exchanges ++ [exchange]) :
    descriptor.granted = flags.asked ∧ (granule = .section1M → descriptor.domain = domain) ∧
    ∃ space, after.space? number = some space ∧
      ∀ address, granule.Covers start address → space.Holds after.memory address descriptor := by
  rcases List.mem_append.mp member with old | new
  · obtain ⟨granted, inDomain, space, found, holds⟩ := describes.held old
    refine ⟨granted, inDomain, space, effect.space?_eq found, ?_⟩
    intro address covers
    exact (holds address covers).of_keeps (effect.keeps settled) (mem_of_space? found)
  · cases List.mem_singleton.mp new
    cases effect with
    | mapped found installs =>
        refine ⟨installs.granted_eq, installs.domain_of_section, _, found, ?_⟩
        intro address covers
        exact installs.holds settled.sound (mem_of_space? found) covers

theorem tableDomains_made (settled : Settled low session)
    (room : TableLevel.first.Fits session.tables.cursor session.tables.limit) (number : Nat)
    (index : FirstLevelIndex) :
    ((⟨session.tables.afterRoot, session.spaces ++ [session.tables.nextSpace]⟩ :
        SpaceSession A).space? number).bind
        (·.tableDomain? session.tables.afterRoot.memory index) =
      (session.space? number).bind (·.tableDomain? session.memory index) := by
  rcases found : session.space? number with _ | space
  · rw [space?] at found ⊢
    rw [List.getElem?_append_right (List.getElem?_eq_none_iff.mp found), List.getElem?_singleton]
    split
    · exact AddressSpace.tableDomain?_of_fault
        (Forest.entry_of_empty (session.tables.nextSpace_empty index))
    · rfl
  · have same := settled.sound.forest.firstSlot_of_agree (TableMemory.agree_afterRoot room)
      (mem_of_space? found) index
    rw [ExchangeEffect.space?_eq (.made room) found]
    exact AddressSpace.tableDomain?_of_entry_eq (congrArg Slot.firstLevelEntry same)

theorem tableDomains_mapped (settled : Settled low session) {granule : Granule} {other : Nat}
    {space : AddressSpace} {start : VirtualAddress} {physical : PhysicalAddress} {domain : Domain}
    {flags : MapFlags} {descriptor : Descriptor (.mapping granule)} {tables : TableMemory A}
    (found : session.space? other = some space)
    (installs : Installs session.tables space start physical domain flags descriptor tables)
    (number : Nat) (index : FirstLevelIndex) :
    (session.space? number).bind (·.tableDomain? tables.memory index) =
      ((session.space? number).bind (·.tableDomain? session.memory index)).or
        (Exchange.pageDomain? ⟨.map granule other start physical domain flags, .value descriptor,
          session.source, tables.source⟩ number index) := by
  have member := mem_of_space? found
  by_cases here : other = number ∧ FirstLevelIndex.ofAddress start = index
  · rw [Exchange.pageDomain?, if_pos here]
    obtain ⟨rfl, rfl⟩ := here
    rw [found]
    exact installs.tableDomain?_eq settled.sound member
  · rw [Exchange.pageDomain?, if_neg here, Option.or_none]
    rcases asked : session.space? number with _ | owner
    · rfl
    · apply AddressSpace.tableDomain?_of_entry_eq
      apply (installs.fillsOnly settled.sound member).entry_eq (mem_of_space? asked)
      rintro ⟨rfl, rfl⟩
      exact here ⟨space?_inj settled.distinct asked found, rfl⟩

theorem Describes.domains_next (describes : Describes ⟨session, exchanges⟩)
    (settled : Settled low session) (effect : session.ExchangeEffect exchange after) (number : Nat)
    (index : FirstLevelIndex) :
    firstPageDomain? ⟨after, exchanges ++ [exchange]⟩ number index =
      (after.space? number).bind (·.tableDomain? after.memory index) := by
  have known := describes.domains number index
  simp only [Transcript.firstPageDomain?] at known ⊢
  rw [List.findSome?_append, known, List.findSome?_singleton]
  cases effect with
  | made room => exact Option.or_none.trans (tableDomains_made settled room number index).symm
  | mapped found installs => exact (tableDomains_mapped settled found installs number index).symm
  | handed above taken => exact Option.or_none
  | full => exact Option.or_none
  | failed cause => rw [Exchange.pageDomain?_of_error, Option.or_none]
  | panicked cause => rw [Exchange.pageDomain?_of_panic, Option.or_none]

/-! ## Runs -/

section Runs

variable {memory : PhysicalMemory} {source : A}

omit [TableSource A] [CursorSource A] in
theorem describes_empty (session : SpaceSession A) (none : session.spaces = []) :
    Describes ⟨session, []⟩ := by
  constructor
  · intro granule number start physical domain flags descriptor before after member
    cases member
  · intro number index
    rw [space?, none]
    rfl

theorem describes_transcript (settled : Settled low (start memory source))
    (requests : List SpaceRequest) :
    Settled low ((start memory source).transcript requests).session ∧
      ((start memory source).transcript requests).Describes := by
  refine Settled.nextAll settled (describes_empty (start memory source) rfl) ?_ requests
  intro session exchanges exchange after settled settledAfter effect describes
  exact
    { held := describes.held_next settled effect
      domains := describes.domains_next settled effect }

/-- What a run goes on to do keeps the address spaces and the slots that it found. -/
theorem keeps_nextAll {early : Transcript A} (settled : Settled low early.session)
    (requests : List SpaceRequest) :
    Settled low (early.nextAll requests).session ∧
    Keeps (early.nextAll requests).session.memory early.session.memory
        {space | space ∈ early.session.spaces} ∧
      ∀ number space, early.session.space? number = some space →
        (early.nextAll requests).session.space? number = some space := by
  refine Settled.nextAll (motive := fun late =>
    Keeps late.session.memory early.session.memory {space | space ∈ early.session.spaces} ∧
      ∀ number space, early.session.space? number = some space →
        late.session.space? number = some space) settled ?_ ?_ requests
  · exact ⟨.refl _ _, fun number space found => found⟩
  · intro session exchanges exchange after settled settledAfter effect ⟨keeps, spaces⟩
    refine ⟨?_, fun number space found => effect.space?_eq (spaces number space found)⟩
    refine Keeps.trans ((effect.keeps settled).restrict ?_) keeps
    intro space member
    obtain ⟨number, found⟩ := List.getElem?_of_mem member
    exact mem_of_space? (spaces number space found)

theorem Describes.persists {early late : Transcript A} (describes : early.Describes)
    (settled : Settled low early.session) (settledLate : Settled low late.session)
    (keeps : Keeps late.session.memory early.session.memory
      {space | space ∈ early.session.spaces})
    (spaces : ∀ number space, early.session.space? number = some space →
      late.session.space? number = some space) : early.Persists late := by
  refine ⟨?_, keeps⟩
  intro granule number start physical domain flags descriptor before after member
  obtain ⟨granted, inDomain, space, found, holds⟩ := describes.held member
  have foundLate := spaces number space found
  refine ⟨granted, space, foundLate, fun address covers => ?_⟩
  have findsEarly := (holds address covers).finds settled.sound (mem_of_space? found)
  have findsLate := ((holds address covers).of_keeps keeps (mem_of_space? found)).finds
    settledLate.sound (mem_of_space? foundLate)
  rcases findsLate with ⟨whole, finds⟩ | ⟨page, pointer, linked, finds⟩
  · exact ⟨_, finds, fun _ => inDomain whole, fun page => absurd whole page⟩
  · rcases findsEarly with ⟨whole, -⟩ | ⟨-, pointerEarly, linkedEarly, -⟩
    · exact absurd whole page
    · -- The page hangs below the table that it was mapped in, whose domain has not changed.
      have kept := (keeps.linked ⟨mem_of_space? found, linkedEarly⟩).entry.symm.trans linked
      cases kept
      refine ⟨_, finds, fun whole => absurd whole page, fun _ => ?_⟩
      rw [describes.domains, found]
      exact AddressSpace.tableDomain?_of_coarse linkedEarly

theorem persists_of_begins (begins : Begins low memory source) (early late : List SpaceRequest) :
    Persists ((start memory source).transcript early)
      (((start memory source).transcript early).nextAll late) := by
  rcases begins with settled | unreachable
  · obtain ⟨settledEarly, describes⟩ := describes_transcript settled early
    obtain ⟨settledLate, keeps, spaces⟩ := keeps_nextAll settledEarly late
    exact describes.persists settledEarly settledLate keeps spaces
  · have barren := barren_transcript source unreachable early
    constructor
    · intro granule number start physical domain flags descriptor before after member
      exact absurd rfl (barren.2 _ member granule number start physical domain flags)
    · rw [barren.1]
      exact ⟨fun member => absurd member List.not_mem_nil,
        fun linked => absurd linked.member List.not_mem_nil⟩

/-- In every session over zeroed memory, whether its tables come from an arena over all of the
memory or from a heap over a part of it, the descriptors of the mappings persist however the session
goes on. -/
theorem persists_transcript {base length : Word}
    (zeroed : PhysicalMemory.simulated base length = .ok memory) :
    (∀ arena, Arena.ofRange base length = .ok arena → ∀ early late,
      let reached := (start memory arena).transcript early
      reached.Persists (reached.nextAll late)) ∧
    ∀ first last heap, BumpHeap.create first last = .ok heap → base.toNat ≤ first.toNat →
      last.toNat ≤ base.toNat + length.toNat → ∀ early late,
        let reached := (start memory heap).transcript early
        reached.Persists (reached.nextAll late) := by
  constructor
  · intro arena ranged early late
    exact persists_of_begins (begins_arena zeroed ranged) early late
  · intro first last heap created above below early late
    exact persists_of_begins (begins_heap zeroed created above below) early late

/-- Two pages of one MiB that were asked for in different domains, and a page that is refused
later. -/
theorem persists_transcript_secondDomain :
    let memory : PhysicalMemory := ⟨.window 0x8000 0x10000, fun _ => 0⟩
    let arena : Arena := ⟨⟨0x8000⟩, 0x8000, 0x18000⟩
    let heap : BumpHeap := ⟨⟨0x9008⟩, ⟨0x9008⟩, ⟨0x9008⟩, ⟨0x18000⟩⟩
    let early : List SpaceRequest :=
      [.makeSpace, .map .page4K 0 ⟨0x101000⟩ ⟨0x1000⟩ ⟨1⟩ .none,
        .map .page64K 0 ⟨0x110000⟩ ⟨0x10000⟩ ⟨2⟩ .kernel,
        .map .section1M 0 ⟨0x300000⟩ ⟨0x300000⟩ ⟨3⟩ .none]
    let late : List SpaceRequest :=
      [.map .page4K 0 ⟨0x111000⟩ ⟨0x2000⟩ ⟨4⟩ .none, .takeBlock 8 8]
    let inArena := (start memory arena).transcript early
    let inHeap := (start memory heap).transcript early
    (PhysicalMemory.simulated 0x8000 0x10000 = .ok memory ∧
      Arena.ofRange 0x8000 0x10000 = .ok arena ∧ BumpHeap.create ⟨0x9008⟩ ⟨0x18000⟩ = .ok heap) ∧
    (inArena.firstPageDomain? 0 (.ofAddress ⟨0x110000⟩) = some ⟨1⟩ ∧
      inArena.Persists (inArena.nextAll late)) ∧
    inHeap.firstPageDomain? 0 (.ofAddress ⟨0x110000⟩) = some ⟨1⟩ ∧
      inHeap.Persists (inHeap.nextAll late) := by
  have zeroed : PhysicalMemory.simulated 0x8000 0x10000 =
      .ok ⟨.window 0x8000 0x10000, fun _ => 0⟩ := rfl
  have follows := persists_transcript zeroed
  refine ⟨⟨zeroed, rfl, rfl⟩, ⟨by decide +kernel, ?_⟩, by decide +kernel, ?_⟩
  · exact follows.1 _ rfl _ _
  · exact follows.2 ⟨0x9008⟩ ⟨0x18000⟩ _ rfl (by decide) (by decide) _ _

end Runs

end Transcript

end Armv6Kernel
