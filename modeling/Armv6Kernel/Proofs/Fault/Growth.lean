import Armv6Kernel.Fault.Handler
import Armv6Kernel.Proofs.VirtualMemory.Lifecycle

/-!
# How the stack grows

In a consistent state the growth of the stack by a page either maps the page onto itself, or ends
with an error and changes nothing.  It never panics: a page that the active tree does not translate
can always be mapped there unless memory for a coarse table is missing.
-/

namespace Armv6Kernel

section Pages

variable {A : Type} [TableSource A] [CursorSource A] {tables : TableMemory A} {low : Nat}
  {spaces : Set AddressSpace} {space : AddressSpace}

/-! ## Pages that are not mapped -/

theorem SecondLevelEntry.isSome_target (entry : SecondLevelEntry) (first second : VirtualAddress) :
    (entry.target first).isSome = (entry.target second).isSome := by
  cases entry <;> rfl

/-- Either all addresses of a small page are translated or none is. -/
theorem isSome_target_of_samePage {memory : PhysicalMemory} {page address : VirtualAddress}
    (aligned : page.isAligned .page4K = true) (covers : Granule.page4K.Covers page address) :
    (space.target memory address).isSome = (space.target memory page).isSome := by
  have page4K : Granule.page4K ≠ .section1M := by decide
  obtain ⟨sameFirst, above, below⟩ := (Granule.covers_page_iff page4K aligned).mp covers
  have sameSecond : SecondLevelIndex.ofAddress address = SecondLevelIndex.ofAddress page := by
    apply SecondLevelIndex.eq_of_toNat_eq
    simp only [Granule.copies] at below
    omega
  unfold AddressSpace.target
  rw [sameFirst, sameSecond]
  rcases space.entry memory (.ofAddress page) with _ | pointer | descriptor | word
  · rfl
  · exact SecondLevelEntry.isSome_target _ _ _
  · rfl
  · rfl

/-- A page that is not translated has an empty slot. -/
theorem TableMemory.Sound.vacant_of_target_none (sound : tables.Sound low spaces)
    (member : space ∈ spaces) {page : VirtualAddress}
    (free : space.target tables.memory page = none) :
    space.Vacant tables.memory .page4K page := by
  have firstProper := sound.forest.firstProper member (.ofAddress page)
  unfold AddressSpace.target at free
  rcases found : space.entry tables.memory (.ofAddress page) with _ | pointer | descriptor | word
  · exact .inl found
  · rw [found] at free
    have secondProper := sound.forest.secondProper ⟨member, found⟩ (.ofAddress page)
    have empty : (pointer.coarseTable.slot tables.memory (.ofAddress page)).isFault = true := by
      rcases secondProper with zero | ⟨descriptor, maps⟩ | ⟨descriptor, maps⟩
      · exact Slot.isFault_of_word_zero zero
      · simp only [CoarseTable.entry, maps, SecondLevelEntry.target] at free
        cases free
      · simp only [CoarseTable.entry, maps, SecondLevelEntry.target] at free
        cases free
    refine .inr ⟨by decide, pointer, found, fun step below => ?_⟩
    have first : step = 0 := Nat.lt_one_iff.mp below
    rw [first]
    exact empty
  · rw [found] at free
    cases free
  · exact absurd found (firstProper.entry_ne_unsupported word)

omit [TableSource A] [CursorSource A] in
/-- Where the walk of a page stays in memory, the page is mapped if it is translated. -/
theorem isMapped_eq_isSome_target {memory : PhysicalMemory} {page : VirtualAddress}
    (root : memory.checkRange TableLevel.first.bytes space.root = .ok ())
    (table : ∀ pointer, space.entry memory (.ofAddress page) = .coarse pointer →
      memory.checkRange TableLevel.coarse.bytes pointer.table = .ok ()) :
    VirtualMemory.isMapped memory space page = .ok (space.target memory page).isSome := by
  unfold VirtualMemory.isMapped
  rw [AddressSpace.firstLevelSlot, AddressSpace.reachFirstLevel_eq root,
    AddressSpace.translate_eq_target root table]
  simp only [bind, Except.bind, AddressSpace.target, AddressSpace.entry]
  rcases (space.firstLevel.slot memory (.ofAddress page)).firstLevelEntry with
    _ | pointer | descriptor | word
  · rfl
  · rfl
  · rfl
  · rfl

theorem TableMemory.Sound.isMapped_eq (sound : tables.Sound low spaces) (member : space ∈ spaces)
    (page : VirtualAddress) :
    VirtualMemory.isMapped tables.memory space page =
      .ok (space.target tables.memory page).isSome :=
  isMapped_eq_isSome_target (sound.root_inMemory member)
    fun _ found => sound.table_inMemory ⟨member, found⟩

end Pages

/-! ## Growth -/

namespace VirtualMemory

variable {state : VirtualMemory}

/-- The physical address that equals a virtual address as a number. -/
def identity (address : VirtualAddress) : PhysicalAddress :=
  ⟨address.word⟩

/-- The ways in which the growth of the stack can end. -/
inductive GrowEffect (state : VirtualMemory) (page : VirtualAddress) :
    Outcome FatalReason FaultResolution × VirtualMemory → Prop
  | idle (inactive : state.active = none) :
      GrowEffect state page (.error .noActiveEnvironment, state)
  | mapped {id : EnvironmentId} {environment : Environment} (active : state.active = some id)
      (found : state.environments id = some environment)
      (taken : (environment.space.target state.memory page).isSome = true) :
      GrowEffect state page (.error (.alreadyMapped page), state)
  | outOfMemory {id : EnvironmentId} {environment : Environment} (active : state.active = some id)
      (found : state.environments id = some environment)
      (free : environment.space.target state.memory page = none)
      (needed : environment.space.NeedsTable state.memory .page4K page)
      (full : ¬ TableLevel.coarse.Fits state.tables.cursor state.tables.limit) :
      GrowEffect state page (.error (.outOfMemory (.outOfMemory .coarse)), state)
  | grown {id : EnvironmentId} {environment : Environment} {descriptor : SmallPageDescriptor}
      {tables : TableMemory BumpHeap} (active : state.active = some id)
      (found : state.environments id = some environment)
      (room : environment.space.NeedsTable state.memory .page4K page →
        TableLevel.coarse.Fits state.tables.cursor state.tables.limit)
      (source : (environment.space.NeedsTable state.memory .page4K page ∧
          tables.source = (state.tables.afterTable .coarse).source) ∨
        (¬ environment.space.NeedsTable state.memory .page4K page ∧
          tables.source = state.tables.source))
      (sound : tables.Sound state.heap.start.toNat state.liveSpaces)
      (maps : tables.Maps state.tables state.liveSpaces environment.space .page4K page
        (identity page))
      (ended : (environment.space.mapGranule .page4K page (identity page) environment.domain
        .kernel).effect state.tables = (.value descriptor, tables)) :
      GrowEffect state page (.value (.stackGrown page descriptor),
        { state with
          registers := state.registers.synced
          tables := tables })

theorem Consistent.addressSpace_eq (consistent : state.Consistent) {id : EnvironmentId}
    {environment : Environment} (found : state.environments id = some environment) :
    state.addressSpace id = .ok environment.space := by
  simp only [addressSpace, VirtualMemory.environment, found, bind, Except.bind,
    consistent.ofRoot_eq found]

/-- With an active environment the growth of the stack depends on whether the page is mapped. -/
theorem effect_growStack {id : EnvironmentId} {environment : Environment}
    (active : state.active = some id) (found : state.environments id = some environment)
    (identified : environment.id = id)
    (root : AddressSpace.ofRoot environment.root = .ok environment.space) (page : VirtualAddress) :
    (growStack page).effect state =
      match isMapped state.memory environment.space page with
      | .error cause => (.panic cause, state)
      | .ok true => (.error (.alreadyMapped page), state)
      | .ok false =>
          match (mapGranule id .page4K page (identity page) .kernel).effect state with
          | (.value descriptor, after) => (.value (.stackGrown page descriptor),
              { after with registers := after.registers.synced })
          | (.error cause, after) => (.error (.outOfMemory cause), after)
          | (.panic cause, after) => (.panic cause, after) := by
  have current : state.activeEnvironment? = .ok (some environment) := by
    simp only [activeEnvironment?, active, VirtualMemory.environment, found]
    rfl
  have space : state.addressSpace id = .ok environment.space := by
    simp only [addressSpace, VirtualMemory.environment, found, bind, Except.bind, root]
  unfold growStack
  rw [Action.effect_bind, Action.effect_get]
  dsimp only
  rw [Action.effect_bind, current, Action.effect_ofExcept_ok]
  dsimp only
  rw [identified, space, Action.effect_bind, Action.effect_ofExcept_ok]
  dsimp only
  rw [Action.effect_bind]
  rcases isMapped state.memory environment.space page with cause | _ | _
  · rfl
  · simp only [Action.effect_ofExcept_ok, Bool.false_eq_true, if_false, Action.effect_bind,
      Action.effect_mapError]
    have smallPage : (mapSmallPage id page ⟨page.word⟩ .kernel).effect state =
        (mapGranule id .page4K page (identity page) .kernel).effect state := rfl
    rw [smallPage]
    rcases (mapGranule id .page4K page (identity page) .kernel).effect state with
      ⟨descriptor | cause | cause, after⟩
    · rfl
    · rfl
    · rfl
  · rfl

theorem effect_growStack_of_idle (idle : state.active = none) (page : VirtualAddress) :
    (growStack page).effect state = (.error .noActiveEnvironment, state) := by
  have none : state.activeEnvironment? = .ok none := by
    rw [activeEnvironment?, idle]
  unfold growStack
  rw [Action.effect_bind, Action.effect_get]
  dsimp only
  rw [Action.effect_bind, none]
  rfl

theorem growEffect (consistent : state.Consistent) {page : VirtualAddress}
    (aligned : page.isAligned .page4K = true) :
    GrowEffect state page ((growStack page).effect state) := by
  rcases active : state.active with _ | id
  · rw [effect_growStack_of_idle active]
    exact .idle active
  · obtain ⟨environment, found⟩ := consistent.activeLive active
    have member := Consistent.mem_liveSpaces found
    have mapped : isMapped state.memory environment.space page =
        .ok (environment.space.target state.memory page).isSome :=
      consistent.sound.isMapped_eq member page
    rw [effect_growStack active found (consistent.identified found) (consistent.ofRoot_eq found),
      mapped]
    rcases free : environment.space.target state.memory page with _ | target
    · have physicalAligned : (identity page).isAligned .page4K = true := aligned
      have accepts : environment.space.Accepts state.tables.memory .page4K page (identity page) :=
        ⟨aligned, physicalAligned, fun impossible => (by cases impossible),
          consistent.sound.vacant_of_target_none member free⟩
      have effect := effect_mapGranule consistent found .page4K page (identity page) .kernel
      have ending := mapEffect_mapGranule consistent.sound member .page4K page (identity page)
        environment.domain .kernel
      rcases ended : (environment.space.mapGranule .page4K page (identity page)
        environment.domain .kernel).effect state.tables with ⟨outcome, tables⟩
      rw [ended] at effect ending
      rw [effect]
      cases ending with
      | installed accepts room source sound maps =>
          exact .grown active found room source sound maps ended
      | outOfMemory accepts needed full => exact .outOfMemory active found free needed full
      | refused rejects => exact absurd accepts rejects
    · refine .mapped active found ?_
      rw [free]
      rfl

/-- Taking a coarse table leaves the start of the heap alone. -/
theorem start_of_source {tables : TableMemory BumpHeap} {needed : Prop}
    (source : (needed ∧ tables.source = (state.tables.afterTable .coarse).source) ∨
      (¬ needed ∧ tables.source = state.tables.source)) :
    tables.source.start = state.heap.start := by
  rcases source with ⟨-, taken⟩ | ⟨-, same⟩
  · rw [taken]
    exact BumpHeap.start_moveTo _ state.heap
  · rw [same]
    rfl

theorem Consistent.after_mapGranule (consistent : state.Consistent) (id : EnvironmentId)
    (granule : Granule) (start : VirtualAddress) (physical : PhysicalAddress) (flags : MapFlags) :
    ((mapGranule id granule start physical flags).effect state).2.Consistent := by
  rcases found : state.environments id with _ | environment
  · rw [effect_mapGranule_of_none found]
    exact consistent
  · have ending := mapEffect_mapGranule consistent.sound (mem_liveSpaces found) granule start
      physical environment.domain flags
    rw [effect_mapGranule consistent found]
    rcases ended : (environment.space.mapGranule granule start physical environment.domain
      flags).effect state.tables with ⟨outcome, tables⟩
    rw [ended] at ending
    cases ending with
    | installed accepts room source sound maps =>
        exact consistent.of_tables sound (start_of_source source)
    | outOfMemory accepts needed full => exact consistent
    | refused rejects => exact consistent

theorem GrowEffect.consistent {page : VirtualAddress}
    {ending : Outcome FatalReason FaultResolution × VirtualMemory}
    (effect : GrowEffect state page ending) (consistent : state.Consistent) :
    ending.2.Consistent := by
  cases effect with
  | idle inactive => exact consistent
  | mapped active found taken => exact consistent
  | outOfMemory active found free needed full => exact consistent
  | grown active found room source sound maps ended =>
      exact (consistent.of_tables sound (start_of_source source)).of_registers _

/-! ## The handler -/

/-- The abort that the fault registers describe. -/
def latchedAbort (state : VirtualMemory) (pc : Word) : DataAbort :=
  .decode pc state.registers.faultStatus state.registers.faultAddress

/-- How the abort is sorted. -/
def verdict (state : VirtualMemory) (pc : Word) : FaultClass :=
  (state.latchedAbort pc).classify state.heap.heapStart state.heap.heapEnd state.config.stackTop

theorem effect_handleDataAbort (pc : Word) (state : VirtualMemory) :
    (handleDataAbort pc).effect state =
      ((resolve (state.verdict pc)).mapError (FatalFault.mk (state.latchedAbort pc))).effect
        state := by
  unfold handleDataAbort
  simp only [Action.effect_bind, Action.effect_get, Action.effect_log, Action.effect_reporting]
  rfl

theorem isAligned_alignDown (granule : Granule) (address : VirtualAddress) :
    (address.alignDown granule).isAligned granule = true := by
  rw [Address.isAligned_iff, Address.toNat_alignDown]
  cases granule <;> simp only [Granule.bytes] <;> omega

/-- The status says that the recorded address can be trusted. -/
def Trusted (state : VirtualMemory) (pc : Word) : Prop :=
  (state.latchedAbort pc).status.recordsAddress = true

/-- The recorded address lies between the end of the heap and the top of the stack window. -/
def InWindow (state : VirtualMemory) : Prop :=
  state.heap.heapEnd.toNat < state.registers.faultAddress.toNat ∧
    state.registers.faultAddress.toNat < state.config.stackTop.toNat

/-- The recorded address lies in the heap or at its end. -/
def InHeap (state : VirtualMemory) : Prop :=
  state.heap.heapStart.toNat ≤ state.registers.faultAddress.toNat ∧
    state.registers.faultAddress.toNat ≤ state.heap.heapEnd.toNat

/-- The page that contains the recorded address. -/
def faultPage (state : VirtualMemory) : VirtualAddress :=
  state.registers.faultAddress.alignDown .page4K

/-- The rules by which an abort is sorted, each with the reasons why no earlier one applies. -/
inductive Sorted (state : VirtualMemory) (pc : Word) : FaultClass → Prop
  | untrusted (doubtful : ¬ state.Trusted pc) : Sorted state pc (.fatal .untrustedAddress)
  | null (trusted : state.Trusted pc) (zero : state.registers.faultAddress.word = 0) :
      Sorted state pc (.fatal .nullDereference)
  | growth (trusted : state.Trusted pc) (nonzero : state.registers.faultAddress.word ≠ 0)
      (window : state.InWindow) : Sorted state pc (.stackGrowth state.faultPage)
  | heap (trusted : state.Trusted pc) (nonzero : state.registers.faultAddress.word ≠ 0)
      (outside : ¬ state.InWindow) (inside : state.InHeap) :
      Sorted state pc (.fatal (.heapAccess state.heap.heapStart state.heap.heapEnd))
  | outOfRange (trusted : state.Trusted pc) (nonzero : state.registers.faultAddress.word ≠ 0)
      (outside : ¬ state.InWindow) (apart : ¬ state.InHeap) :
      Sorted state pc
        (.fatal (.outOfRange state.heap.heapStart state.heap.heapEnd state.config.stackTop))

theorem sorted_verdict (state : VirtualMemory) (pc : Word) :
    Sorted state pc (state.verdict pc) := by
  have address : (state.latchedAbort pc).address = state.registers.faultAddress := rfl
  unfold verdict DataAbort.classify DataAbort.trustedAddress?
  rw [address]
  by_cases trusted : (state.latchedAbort pc).status.recordsAddress = true
  · rw [if_pos trusted]
    dsimp only
    by_cases zero : state.registers.faultAddress.word = 0
    · rw [if_pos zero]
      exact .null trusted zero
    · rw [if_neg zero]
      by_cases window : state.heap.heapEnd.toNat < state.registers.faultAddress.toNat ∧
          state.registers.faultAddress.toNat < state.config.stackTop.toNat
      · rw [if_pos window]
        exact .growth trusted zero window
      · rw [if_neg window]
        by_cases inside : state.heap.heapStart.toNat ≤ state.registers.faultAddress.toNat ∧
            state.registers.faultAddress.toNat ≤ state.heap.heapEnd.toNat
        · rw [if_pos inside]
          exact .heap trusted zero window inside
        · rw [if_neg inside]
          exact .outOfRange trusted zero window inside
  · rw [if_neg trusted]
    exact .untrusted trusted

theorem isAligned_faultPage (state : VirtualMemory) :
    state.faultPage.isAligned .page4K = true :=
  isAligned_alignDown .page4K _

theorem Consistent.after_handleDataAbort (consistent : state.Consistent) (pc : Word) :
    ((handleDataAbort pc).effect state).2.Consistent := by
  have sorted := sorted_verdict state pc
  rw [effect_handleDataAbort, Action.effect_mapError_snd]
  generalize state.verdict pc = verdict at sorted
  cases sorted with
  | growth trusted nonzero window =>
      exact (growEffect consistent state.isAligned_faultPage).consistent consistent
  | _ => exact consistent

end VirtualMemory

end Armv6Kernel
