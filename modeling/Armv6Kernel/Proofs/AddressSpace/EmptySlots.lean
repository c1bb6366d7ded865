import Armv6Kernel.Proofs.AddressSpace.Installing

/-!
# Which slots are empty

That a slot is empty can be told from its two low bits, or from the meaning of its whole word.  The
meaning agrees with this test and with the decoders of all shapes on every word, words that are
never written included.  So the operations that test the bits and those that go by the meaning take
the same slots for empty, whatever memory holds.
-/

namespace Armv6Kernel

/-! ## The meaning of a slot -/

namespace Slot

/-- An entry is the meaning of a slot that can be of two shapes, if the test for an empty slot and
the decoders of the shapes agree with it. -/
structure Means {level : TableLevel} {shape other : Shape} {Entry : Type} (slot : Slot level)
    (entry fault : Entry) (ofShape : Descriptor shape → Entry) (ofOther : Descriptor other → Entry)
    (unsupported : Word → Entry) : Prop where
  fault_iff : entry = fault ↔ slot.isFault = true
  shape_iff : ∀ descriptor, entry = ofShape descriptor ↔
    Descriptor.decode? shape slot.word = some descriptor
  other_iff : ∀ descriptor, entry = ofOther descriptor ↔
    Descriptor.decode? other slot.word = some descriptor
  /-- A word of which nothing else can be made is kept as it is. -/
  unsupported_iff : ∀ word, entry = unsupported word ↔
    word = slot.word ∧ slot.isFault = false ∧ Descriptor.decode? shape slot.word = none ∧
      Descriptor.decode? other slot.word = none
  /-- At most one of the test and the two decoders accepts the word. -/
  exclusive : [slot.isFault, (Descriptor.decode? shape slot.word).isSome,
    (Descriptor.decode? other slot.word).isSome].count true ≤ 1
  /-- The descriptor can be written back, and the word is as before. -/
  encode_shape : ∀ descriptor, entry = ofShape descriptor → descriptor.encode = .ok slot.word
  encode_other : ∀ descriptor, entry = ofOther descriptor → descriptor.encode = .ok slot.word

section Means

variable {level : TableLevel} {shape other : Shape} {Entry : Type} {slot : Slot level}
  {entry fault : Entry} {ofShape : Descriptor shape → Entry} {ofOther : Descriptor other → Entry}

theorem count_accepting_le_one
    (fault_iff : entry = fault ↔ slot.isFault = true)
    (shape_iff : ∀ descriptor, entry = ofShape descriptor ↔
      Descriptor.decode? shape slot.word = some descriptor)
    (other_iff : ∀ descriptor, entry = ofOther descriptor ↔
      Descriptor.decode? other slot.word = some descriptor)
    (apart : (∀ descriptor, fault ≠ ofShape descriptor) ∧
      (∀ descriptor, fault ≠ ofOther descriptor) ∧ ∀ first second, ofShape first ≠ ofOther second) :
    [slot.isFault, (Descriptor.decode? shape slot.word).isSome,
      (Descriptor.decode? other slot.word).isSome].count true ≤ 1 := by
  obtain ⟨faultShape, faultOther, shapeOther⟩ := apart
  by_cases empty : slot.isFault = true
  · have read := fault_iff.mpr empty
    have noShape := (Descriptor.decode?_eq_none_iff shape_iff).mpr (read ▸ faultShape)
    have noOther := (Descriptor.decode?_eq_none_iff other_iff).mpr (read ▸ faultOther)
    simp [empty, noShape, noOther]
  · rw [Bool.not_eq_true] at empty
    rcases decoded : Descriptor.decode? shape slot.word with _ | descriptor
    · cases Descriptor.decode? other slot.word <;> simp [empty]
    · have read := (shape_iff descriptor).mpr decoded
      have noOther :=
        (Descriptor.decode?_eq_none_iff other_iff).mpr (read ▸ shapeOther descriptor)
      simp [empty, noOther]

theorem encode_eq_word {descriptor : Descriptor shape}
    (decoded : Descriptor.decode? shape slot.word = some descriptor) :
    descriptor.encode = .ok slot.word := by
  have same := Descriptor.word_of_decode? decoded
  rw [← same] at decoded ⊢
  exact Descriptor.encode_of_decode? decoded

end Means

theorem means_firstLevelEntry (slot : Slot .first) :
    slot.Means slot.firstLevelEntry .fault .coarse .section1M .unsupported where
  fault_iff := slot.firstLevelEntry_eq_fault_iff
  shape_iff := slot.firstLevelEntry_eq_coarse_iff
  other_iff := slot.firstLevelEntry_eq_section1M_iff
  unsupported_iff := slot.firstLevelEntry_eq_unsupported_iff
  exclusive := count_accepting_le_one slot.firstLevelEntry_eq_fault_iff
    slot.firstLevelEntry_eq_coarse_iff slot.firstLevelEntry_eq_section1M_iff
    ⟨nofun, nofun, nofun⟩
  encode_shape descriptor read :=
    encode_eq_word ((slot.firstLevelEntry_eq_coarse_iff descriptor).mp read)
  encode_other descriptor read :=
    encode_eq_word ((slot.firstLevelEntry_eq_section1M_iff descriptor).mp read)

theorem means_secondLevelEntry (slot : Slot .coarse) :
    slot.Means slot.secondLevelEntry .fault .page4K .page64K .unsupported where
  fault_iff := slot.secondLevelEntry_eq_fault_iff
  shape_iff := slot.secondLevelEntry_eq_page4K_iff
  other_iff := slot.secondLevelEntry_eq_page64K_iff
  unsupported_iff := slot.secondLevelEntry_eq_unsupported_iff
  exclusive := count_accepting_le_one slot.secondLevelEntry_eq_fault_iff
    slot.secondLevelEntry_eq_page4K_iff slot.secondLevelEntry_eq_page64K_iff
    ⟨nofun, nofun, nofun⟩
  encode_shape descriptor read :=
    encode_eq_word ((slot.secondLevelEntry_eq_page4K_iff descriptor).mp read)
  encode_other descriptor read :=
    encode_eq_word ((slot.secondLevelEntry_eq_page64K_iff descriptor).mp read)

end Slot

/-! ## Reading the slots of an address -/

theorem Address.alignDown_of_isAligned {kind : AddressKind} {granule : Granule}
    {address : Address kind} (aligned : address.isAligned granule = true) :
    address.alignDown granule = address := by
  apply eq_of_toNat_eq
  rw [toNat_alignDown, (isAligned_iff granule address).mp aligned, Nat.sub_zero]

/-- A composed computation gives a result only if both of its parts do. -/
theorem exists_of_bind_eq_ok {α β : Type} {first : Except Panic α} {next : α → Except Panic β}
    {result : β} (ended : first >>= next = .ok result) :
    ∃ middle, first = .ok middle ∧ next middle = .ok result := by
  cases first with
  | error cause => cases ended
  | ok middle => exact ⟨middle, rfl, ended⟩

/-- The slots on the way to an address end it: the last of them is empty or unsupported. -/
def WalkedSlots.LeadNowhere (slots : WalkedSlots) : Prop :=
  match slots.second with
  | none => slots.first.isFault = true ∨
      slots.first.firstLevelEntry = .unsupported slots.first.word
  | some second => second.isFault = true ∨ second.secondLevelEntry = .unsupported second.word

namespace AddressSpace

variable {space : AddressSpace} {memory : PhysicalMemory} {address : VirtualAddress}

theorem firstLevelSlot_eq_ok {slot : Slot .first}
    (found : space.firstLevelSlot memory address = .ok slot) :
    memory.checkRange TableLevel.first.bytes space.root = .ok () ∧
      slot = space.firstLevel.slot memory (.ofAddress address) := by
  obtain ⟨table, reached, read⟩ := exists_of_bind_eq_ok found
  obtain ⟨inMemory, rfl⟩ := reachFirstLevel_eq_ok reached
  cases read
  exact ⟨inMemory, rfl⟩

theorem secondLevelSlot_eq_ok {pointer : CoarseTableDescriptor} {slot : Slot .coarse}
    (found : secondLevelSlot memory pointer address = .ok slot) :
    memory.checkRange TableLevel.coarse.bytes pointer.table = .ok () ∧
      slot = pointer.coarseTable.slot memory (.ofAddress address) := by
  obtain ⟨table, reached, read⟩ := exists_of_bind_eq_ok found
  obtain ⟨inMemory, rfl⟩ := reachCoarse_eq_ok reached
  cases read
  exact ⟨inMemory, rfl⟩

/-- The walk ends at the first level, or it goes on below a pointer. -/
theorem walk_eq_ok {slots : WalkedSlots} (walked : space.walk memory address = .ok slots) :
    space.firstLevelSlot memory address = .ok slots.first ∧
      ((slots.second = none ∧ ∀ pointer, slots.first.firstLevelEntry ≠ .coarse pointer) ∨
        ∃ pointer second, slots.first.firstLevelEntry = .coarse pointer ∧
          secondLevelSlot memory pointer address = .ok second ∧ slots.second = some second) := by
  obtain ⟨first, found, ahead⟩ := exists_of_bind_eq_ok walked
  rcases read : first.firstLevelEntry with _ | pointer | descriptor | word
  case coarse =>
    simp only [read] at ahead
    obtain ⟨second, below, ends⟩ := exists_of_bind_eq_ok ahead
    cases ends
    exact ⟨found, .inr ⟨pointer, second, read, below, rfl⟩⟩
  all_goals
    rw [read] at ahead
    cases ahead
    exact ⟨found, .inl ⟨rfl, fun pointer impossible => nomatch read.symm.trans impossible⟩⟩

/-- Translation finds nothing exactly where the walk ends at a slot that leads nowhere. -/
theorem translate_eq_ok_none_iff {slots : WalkedSlots}
    (walked : space.walk memory address = .ok slots) :
    space.translate memory address = .ok none ↔ slots.LeadNowhere := by
  obtain ⟨found, ends⟩ := walk_eq_ok walked
  rcases slots with ⟨first, last⟩
  unfold translate WalkedSlots.LeadNowhere
  simp only [found, bind, Except.bind, ← Slot.firstLevelEntry_eq_fault_iff,
    ← Slot.secondLevelEntry_eq_fault_iff]
  rcases ends with ⟨rfl, noPointer⟩ | ⟨pointer, second, read, below, rfl⟩
  · rcases read : first.firstLevelEntry with _ | pointer | descriptor | word
    · simp
    · exact absurd read (noPointer pointer)
    · simp [descriptor.within_base]
    · simp [Slot.eq_word_of_firstLevelEntry read]
  · simp only [read, below]
    rcases meaning : second.secondLevelEntry with _ | descriptor | descriptor | word
    · simp
    · simp [descriptor.within_base]
    · simp [descriptor.within_base]
    · simp [Slot.eq_word_of_secondLevelEntry meaning]

/-- The slots of a large page are a run in the table below a pointer. -/
theorem largePageSlots_eq_some {slots : List (Slot .coarse)}
    (read : space.largePageSlots memory address = .ok (some slots)) :
    ∃ first pointer, space.firstLevelSlot memory address = .ok first ∧
      first.firstLevelEntry = .coarse pointer ∧
      memory.checkRange TableLevel.coarse.bytes pointer.table = .ok () ∧
      pointer.coarseTable.slots memory (.ofAddress (address.alignDown .page64K)) largePageCopies =
        .ok slots := by
  obtain ⟨first, found, ahead⟩ := exists_of_bind_eq_ok read
  rcases meaning : first.firstLevelEntry with _ | pointer | descriptor | word
  case coarse =>
    simp only [meaning] at ahead
    obtain ⟨table, reached, runAhead⟩ := exists_of_bind_eq_ok ahead
    obtain ⟨inMemory, rfl⟩ := reachCoarse_eq_ok reached
    refine ⟨first, pointer, found, meaning, inMemory, ?_⟩
    rcases run : pointer.coarseTable.slots memory (.ofAddress (address.alignDown .page64K))
      largePageCopies with cause | copies
    · rw [run] at runAhead
      cases runAhead
    · rw [run] at runAhead
      cases runAhead
      rfl
  all_goals
    rw [meaning] at ahead
    cases ahead

end AddressSpace

/-! ## Operations that need empty slots -/

/-- How an operation ends that needs some slots to be empty: it succeeds if they all are, and else
it panics over the first one that is not and changes nothing. -/
inductive FillsEmpty {A ε α : Type} {level : TableLevel} (tables : TableMemory A)
    (isEmpty : Slot level → Prop) (slots : List (Slot level))
    (refusal : Nat → Slot level → Panic) : Outcome ε α × TableMemory A → Prop
  | filled {result : α} {after : TableMemory A} (empty : ∀ slot ∈ slots, isEmpty slot) :
      FillsEmpty tables isEmpty slots refusal (.value result, after)
  | refused {step : Nat} {slot : Slot level} (found : slots[step]? = some slot)
      (taken : ¬ isEmpty slot) (earlier : ∀ other ∈ slots.take step, isEmpty other) :
      FillsEmpty tables isEmpty slots refusal (.panic (refusal step slot), tables)

/-- How the search for the coarse table below a slot ends. -/
inductive SearchesTable {A : Type} [TableSource A] (tables : TableMemory A) (start : VirtualAddress)
    (slot : Slot .first) : Outcome MapError CoarseTableDescriptor × TableMemory A → Prop
  /-- Below an empty slot a table is taken from the source, and the search fails just if the source
  does. -/
  | asked {outcome : Outcome MapError CoarseTableDescriptor} {after : TableMemory A}
      (empty : slot.isFault = true)
      (source : after.source = ((TableMemory.takeTable .coarse).effect tables).2.source)
      (fails : ∀ cause, outcome = .error cause ↔
        ((TableMemory.takeTable .coarse).effect tables).1 = .error cause) :
      SearchesTable tables start slot (outcome, after)
  | linked {pointer : CoarseTableDescriptor} (taken : slot.isFault = false)
      (read : slot.firstLevelEntry = .coarse pointer) :
      SearchesTable tables start slot (.value pointer, tables)
  | refused (taken : slot.isFault = false)
      (other : ∀ pointer, slot.firstLevelEntry ≠ .coarse pointer) :
      SearchesTable tables start slot (.panic (.noCoarseTable start slot.firstLevelEntry), tables)

namespace FillsEmpty

variable {A ε α : Type} {level : TableLevel} {tables : TableMemory A} {isEmpty : Slot level → Prop}
  {slot : Slot level} {refusal : Nat → Slot level → Panic}

theorem filled_one {result : α} {after : TableMemory A} (empty : isEmpty slot) :
    FillsEmpty tables isEmpty [slot] refusal ((.value result : Outcome ε α), after) :=
  .filled (List.forall_mem_singleton.mpr empty)

theorem refused_one (taken : ¬ isEmpty slot) :
    FillsEmpty tables isEmpty [slot] refusal
      ((.panic (refusal 0 slot) : Outcome ε α), tables) :=
  .refused rfl taken nofun

variable {slots : List (Slot level)} {ending : Outcome ε α × TableMemory A}

theorem isValue_iff (fills : FillsEmpty tables isEmpty slots refusal ending) :
    ending.1.isValue = true ↔ ∀ slot ∈ slots, isEmpty slot := by
  cases fills with
  | filled empty => exact iff_of_true rfl empty
  | refused found taken earlier =>
      exact iff_of_false nofun fun empty => taken (empty _ (List.mem_of_getElem? found))

/-- There is only one first slot that is taken. -/
theorem eq_refused (fills : FillsEmpty tables isEmpty slots refusal ending) (step : Nat)
    (found : slots[step]? = some slot) (taken : ¬ isEmpty slot)
    (earlier : ∀ other ∈ slots.take step, isEmpty other) :
    ending = (.panic (refusal step slot), tables) := by
  have member_take : ∀ {low high : Nat} {other : Slot level}, low < high →
      slots[low]? = some other → other ∈ slots.take high := by
    intro low high other below here
    rw [← List.getElem?_take_of_lt below] at here
    exact List.mem_of_getElem? here
  cases fills with
  | filled empty => exact absurd (empty slot (List.mem_of_getElem? found)) taken
  | @refused place other here full before =>
      rcases Nat.lt_trichotomy step place with below | rfl | above
      · exact absurd (before slot (member_take below found)) taken
      · cases here.symm.trans found
        rfl
      · exact absurd (earlier other (member_take above here)) full

end FillsEmpty

namespace AddressSpace

variable {A : Type} {tables : TableMemory A} {space : AddressSpace} {start : VirtualAddress}
  {physical : PhysicalAddress} {first : Slot .first} {pointer : CoarseTableDescriptor}

theorem fillsEmpty_mapSection (found : space.firstLevelSlot tables.memory start = .ok first)
    (startAligned : start.isAligned .section1M = true)
    (physicalAligned : physical.isAligned .section1M = true) (domain : Domain)
    (flags : MapFlags) :
    FillsEmpty tables (·.firstLevelEntry = .fault) [first]
      (fun _ taken => .sectionOccupied start taken)
      ((space.mapSection start physical domain flags :
        Action (TableMemory A) MapError _).effect tables) := by
  obtain ⟨rootInMemory, rfl⟩ := firstLevelSlot_eq_ok found
  rcases effect_mapSection_of_inMemory (ε := MapError) rootInMemory startAligned physicalAligned
      domain flags with
    ⟨vacant, descriptor, -, effect⟩ | ⟨taken, effect⟩
  · rw [effect]
    exact .filled_one vacant
  · rw [effect]
    exact .refused_one taken

variable [TableSource A]

theorem searchesTable_ensureCoarse
    (found : space.firstLevelSlot tables.memory start = .ok first) (domain : Domain) :
    SearchesTable tables start first ((space.ensureCoarse start domain).effect tables) := by
  obtain ⟨rootInMemory, rfl⟩ := firstLevelSlot_eq_ok found
  by_cases empty : (space.firstLevel.slot tables.memory (.ofAddress start)).isFault = true
  · have reached := reachFirstLevel_eq rootInMemory
    have read := (Slot.firstLevelEntry_eq_fault_iff _).mpr empty
    unfold ensureCoarse
    simp only [Action.effect_bind, Action.effect_get, reached, Action.effect_ofExcept_ok, read]
    rcases taken : (TableMemory.takeTable .coarse).effect tables with
      ⟨address | cause | cause, middle⟩
    · -- Once there is a table the search may still panic, but it cannot fail any more.
      have asked : ∀ {outcome : Outcome MapError CoarseTableDescriptor} {after : TableMemory A},
          after.source = middle.source → (∀ cause, outcome ≠ .error cause) →
            SearchesTable tables start (space.firstLevel.slot tables.memory (.ofAddress start))
              (outcome, after) := by
        intro outcome after same calm
        refine .asked empty (by rw [taken, same]) fun cause => ?_
        rw [taken]
        exact iff_of_false (calm cause) nofun
      dsimp only
      rcases Descriptor.forTable address domain with cause | pointer
      · exact asked rfl nofun
      · simp only [Action.effect_ofExcept_ok]
        rcases reachCoarse tables.memory pointer with cause | table
        · exact asked rfl nofun
        · simp only [Action.effect_ofExcept_ok, TableMemory.setMemory, Action.effect_modify]
          rcases pointer.encode with cause | word
          · exact asked rfl nofun
          · exact asked rfl nofun
    · exact .asked empty (by rw [taken]) fun other => by simp only [taken, Outcome.error.injEq]
    · exact .asked empty (by rw [taken]) fun other => by simp only [taken, reduceCtorEq]
  · have taken : (space.firstLevel.slot tables.memory (.ofAddress start)).isFault = false :=
      Bool.not_eq_true _ ▸ empty
    by_cases linked : ∃ pointer, space.entry tables.memory (.ofAddress start) = .coarse pointer
    · obtain ⟨pointer, read⟩ := linked
      rw [effect_ensureCoarse_of_coarse rootInMemory domain read]
      exact .linked taken read
    · have noPointer := not_exists.mp linked
      rw [effect_ensureCoarse_of_other rootInMemory domain rfl
        (fun read => empty ((Slot.firstLevelEntry_eq_fault_iff _).mp read)) noPointer]
      exact .refused taken noPointer

theorem fillsEmpty_mapSmallPage
    (rootInMemory : tables.memory.checkRange TableLevel.first.bytes space.root = .ok ())
    (linked : space.entry tables.memory (.ofAddress start) = .coarse pointer)
    (inMemory : tables.memory.checkRange TableLevel.coarse.bytes pointer.table = .ok ())
    (startAligned : start.isAligned .page4K = true)
    (physicalAligned : physical.isAligned .page4K = true) (domain : Domain) (flags : MapFlags) :
    FillsEmpty tables (·.secondLevelEntry = .fault)
      [pointer.coarseTable.slot tables.memory (.ofAddress start)]
      (fun _ taken => .smallPageOccupied start taken)
      ((space.mapSmallPage start physical domain flags).effect tables) := by
  obtain ⟨descriptor, made, decoded, -⟩ :=
    Descriptor.forMapping_of_isAligned flags physicalAligned
  have vacancy := Slot.secondLevelEntry_eq_fault_iff
    (pointer.coarseTable.slot tables.memory (.ofAddress start))
  unfold mapSmallPage
  simp only [Action.effect_bind, Action.effect_assert, startAligned, physicalAligned, if_true,
    effect_ensureCoarse_of_coarse rootInMemory domain linked, Action.effect_get,
    reachCoarse_eq inMemory, Action.effect_ofExcept_ok]
  by_cases empty : (pointer.coarseTable.slot tables.memory (.ofAddress start)).isFault = true
  · simp only [empty, if_true, made, Action.effect_ofExcept_ok,
      Descriptor.encode_of_decode? decoded]
    exact .filled_one (vacancy.mpr empty)
  · simp only [if_neg empty]
    exact .refused_one fun read => empty (vacancy.mp read)

theorem fillsEmpty_mapLargePage
    (rootInMemory : tables.memory.checkRange TableLevel.first.bytes space.root = .ok ())
    (linked : space.entry tables.memory (.ofAddress start) = .coarse pointer)
    (inMemory : tables.memory.checkRange TableLevel.coarse.bytes pointer.table = .ok ())
    (startAligned : start.isAligned .page64K = true)
    (physicalAligned : physical.isAligned .page64K = true)
    (placed : (SecondLevelIndex.ofAddress start).toNat < largePageLimit) (domain : Domain)
    (flags : MapFlags) :
    FillsEmpty tables (·.secondLevelEntry = .fault)
      (pointer.coarseTable.run tables.memory (.ofAddress start) largePageCopies)
      (fun step taken =>
        .largePageOccupied start ((SecondLevelIndex.ofAddress start).toNat + step) taken)
      ((space.mapLargePage start physical domain flags).effect tables) := by
  obtain ⟨descriptor, made, decoded, -⟩ :=
    Descriptor.forMapping_of_isAligned flags physicalAligned
  unfold mapLargePage
  simp only [Action.effect_bind, Action.effect_assert, startAligned, physicalAligned, placed,
    decide_true, if_true, effect_ensureCoarse_of_coarse rootInMemory domain linked,
    Action.effect_get, reachCoarse_eq inMemory, Action.effect_ofExcept_ok,
    pointer.coarseTable.slots_of_placed _ placed]
  rcases effect_checkEmpty start (SecondLevelIndex.ofAddress start).toNat
      (pointer.coarseTable.run tables.memory (.ofAddress start) largePageCopies) tables with
    ⟨empty, passed⟩ | ⟨step, slot, here, taken, earlier, stopped⟩
  · simp only [passed, made, Action.effect_ofExcept_ok, Descriptor.encode_of_decode? decoded,
      pointer.coarseTable.fillSlots_of_placed _ placed]
    exact .filled fun slot member => (slot.secondLevelEntry_eq_fault_iff).mpr (empty slot member)
  · simp only [stopped]
    refine .refused here (fun read => ?_) fun other member =>
      (other.secondLevelEntry_eq_fault_iff).mpr (earlier other member)
    rw [(slot.secondLevelEntry_eq_fault_iff).mp read] at taken
    cases taken

/-- Mapping, the search for a coarse table and the walk take the same slots of an address for empty:
those that test the two low bits are right about the meaning, and those that go by the meaning about
the bits. -/
structure AgreesOnEmpty (space : AddressSpace) (tables : TableMemory A) (start : VirtualAddress) :
    Prop where
  mapSection : ∀ first, space.firstLevelSlot tables.memory start = .ok first →
    ∀ physical, start.isAligned .section1M = true → physical.isAligned .section1M = true →
      ∀ domain flags,
        FillsEmpty tables (·.firstLevelEntry = .fault) [first]
          (fun _ taken => .sectionOccupied start taken)
          ((space.mapSection start physical domain flags :
            Action (TableMemory A) MapError _).effect tables)
  ensureCoarse : ∀ first, space.firstLevelSlot tables.memory start = .ok first → ∀ domain,
    SearchesTable tables start first ((space.ensureCoarse start domain).effect tables)
  mapSmallPage : ∀ first second, space.walk tables.memory start = .ok ⟨first, some second⟩ →
    ∀ physical, start.isAligned .page4K = true → physical.isAligned .page4K = true →
      ∀ domain flags,
        FillsEmpty tables (·.secondLevelEntry = .fault) [second]
          (fun _ taken => .smallPageOccupied start taken)
          ((space.mapSmallPage start physical domain flags).effect tables)
  mapLargePage : ∀ slots, space.largePageSlots tables.memory start = .ok (some slots) →
    ∀ physical, start.isAligned .page64K = true → physical.isAligned .page64K = true →
      (SecondLevelIndex.ofAddress start).toNat < largePageLimit → ∀ domain flags,
        FillsEmpty tables (·.secondLevelEntry = .fault) slots
          (fun step taken =>
            .largePageOccupied start ((SecondLevelIndex.ofAddress start).toNat + step) taken)
          ((space.mapLargePage start physical domain flags).effect tables)
  translate : ∀ slots, space.walk tables.memory start = .ok slots →
    (space.translate tables.memory start = .ok none ↔ slots.LeadNowhere)

theorem agreesOnEmpty (space : AddressSpace) (tables : TableMemory A) (start : VirtualAddress) :
    space.AgreesOnEmpty tables start where
  mapSection first found physical startAligned physicalAligned domain flags :=
    fillsEmpty_mapSection found startAligned physicalAligned domain flags
  ensureCoarse first found domain := searchesTable_ensureCoarse found domain
  mapSmallPage := by
    intro first second walked physical startAligned physicalAligned domain flags
    obtain ⟨found, ⟨impossible, -⟩ | ⟨pointer, slot, read, below, same⟩⟩ := walk_eq_ok walked
    · cases impossible
    · cases same
      obtain ⟨rootInMemory, rfl⟩ := firstLevelSlot_eq_ok found
      obtain ⟨inMemory, rfl⟩ := secondLevelSlot_eq_ok below
      exact fillsEmpty_mapSmallPage rootInMemory read inMemory startAligned physicalAligned domain
        flags
  mapLargePage := by
    intro slots listed physical startAligned physicalAligned placed domain flags
    obtain ⟨first, pointer, found, read, inMemory, run⟩ := largePageSlots_eq_some listed
    obtain ⟨rootInMemory, rfl⟩ := firstLevelSlot_eq_ok found
    rw [Address.alignDown_of_isAligned startAligned,
      pointer.coarseTable.slots_of_placed _ placed] at run
    cases run
    exact fillsEmpty_mapLargePage rootInMemory read inMemory startAligned physicalAligned placed
      domain flags
  translate slots walked := translate_eq_ok_none_iff walked

end AddressSpace

/-- The meaning of every word agrees with the decoders and with the test for an empty slot, so that
no two operations can disagree about which slots are empty. -/
theorem means_and_agreesOnEmpty :
    (∀ slot : Slot .first,
      slot.Means slot.firstLevelEntry .fault .coarse .section1M .unsupported) ∧
    (∀ slot : Slot .coarse,
      slot.Means slot.secondLevelEntry .fault .page4K .page64K .unsupported) ∧
    ∀ {A : Type} [TableSource A] (space : AddressSpace) (tables : TableMemory A)
      (start : VirtualAddress), space.AgreesOnEmpty tables start :=
  ⟨Slot.means_firstLevelEntry, Slot.means_secondLevelEntry, AddressSpace.agreesOnEmpty⟩

/-- A tree at the start of memory in which even the empty slots hold junk. -/
def oddSpace : AddressSpace :=
  ⟨⟨0x100000⟩⟩

/-- The tree holds a supersection and a pointer to a coarse table with a single slot that is taken,
by a large page with a reserved bit set. -/
def oddTables : TableMemory Arena where
  memory := {
    extent := .window 0x100000 0x8000
    word := fun place =>
      if place = 0x100004 then 0x00040002
      else if place = 0x100008 then 0x00104001
      else if place = 0x104014 then 0x00001041
      else 0xFFFFFFFC }
  source := ⟨⟨0x105000⟩, 0x105000, 0x106000⟩

/-- A section goes where the junk has an empty tag and not over the supersection, although neither
is translated, and a large page is refused over the sixth of its slots. -/
theorem means_and_agreesOnEmpty_oddTables :
    ((oddSpace.mapSection ⟨0⟩ ⟨0x300000⟩ ⟨1⟩ ⟨0⟩ :
        Action (TableMemory Arena) MapError _).effect oddTables).1.isValue = true ∧
      (oddSpace.mapSection ⟨0x100000⟩ ⟨0x300000⟩ ⟨1⟩ ⟨0⟩ :
          Action (TableMemory Arena) MapError _).effect oddTables =
        (.panic (.sectionOccupied ⟨0x100000⟩ ⟨0x00040002⟩), oddTables) ∧
      oddSpace.translate oddTables.memory ⟨0x100000⟩ = .ok none ∧
      (oddSpace.mapLargePage ⟨0x200000⟩ ⟨0x300000⟩ ⟨1⟩ ⟨0⟩).effect oddTables =
        (.panic (.largePageOccupied ⟨0x200000⟩ 5 ⟨0x00001041⟩), oddTables) := by
  obtain ⟨-, -, agrees⟩ := means_and_agreesOnEmpty
  have empty := (agrees oddSpace oddTables ⟨0⟩).mapSection ⟨0xFFFFFFFC⟩ rfl ⟨0x300000⟩
    (by decide) (by decide) ⟨1⟩ ⟨0⟩
  have taken := (agrees oddSpace oddTables ⟨0x100000⟩).mapSection ⟨0x00040002⟩ rfl ⟨0x300000⟩
    (by decide) (by decide) ⟨1⟩ ⟨0⟩
  have large := (agrees oddSpace oddTables ⟨0x200000⟩).mapLargePage
    (List.replicate 5 ⟨0xFFFFFFFC⟩ ++ ⟨0x00001041⟩ :: List.replicate 10 ⟨0xFFFFFFFC⟩) rfl
    ⟨0x300000⟩ (by decide) (by decide) (by decide) ⟨1⟩ ⟨0⟩
  have walk := (agrees oddSpace oddTables ⟨0x100000⟩).translate ⟨⟨0x00040002⟩, none⟩ rfl
  refine ⟨?_, ?_, ?_, ?_⟩
  · exact empty.isValue_iff.mpr (by decide)
  · exact taken.eq_refused 0 rfl (by decide) nofun
  · exact walk.mpr (.inr rfl)
  · exact large.eq_refused 5 rfl (by decide) (by decide)

end Armv6Kernel
