import Armv6Kernel.Proofs.VirtualMemory.Reachable

/-!
# The data abort pipeline

From every reachable state the handler answers every content of the fault registers by the first
rule that applies.  An error leaves the state as it was.  Growth maps one page of the active
environment onto itself and leaves everything else that a walk can see alone.
-/

namespace Armv6Kernel.VirtualMemory

/-- Some address of a page is translated in an environment. -/
def PageTranslates (state : VirtualMemory) (id : EnvironmentId) (page : VirtualAddress) : Prop :=
  ∃ address target, Granule.page4K.Covers page address ∧
    state.translate id address = .ok (some target)

/-- The first-level slot of a page is empty in an environment. -/
def SlotEmpty (state : VirtualMemory) (id : EnvironmentId) (page : VirtualAddress) : Prop :=
  ∃ environment, state.environments id = some environment ∧
    environment.space.entry state.memory (.ofAddress page) = .fault

/-- Some aligned block for a coarse table lies in the heap and has not been handed out. -/
def CoarseRoom (state : VirtualMemory) : Prop :=
  ∃ start, start % TableLevel.coarse.bytes = 0 ∧ state.heap.next.toNat ≤ start ∧
    start + TableLevel.coarse.bytes ≤ state.heap.limit.toNat

/-- The answers to an abort, each with the reasons why no earlier rule applies. -/
inductive AbortAnswer (state : VirtualMemory) (pc : Word) :
    Outcome FatalFault FaultResolution → Prop
  | untrusted (doubtful : ¬ state.Trusted pc) :
      AbortAnswer state pc (.error ⟨state.latchedAbort pc, .untrustedAddress⟩)
  | null (trusted : state.Trusted pc) (zero : state.registers.faultAddress.word = 0) :
      AbortAnswer state pc (.error ⟨state.latchedAbort pc, .nullDereference⟩)
  | idle (trusted : state.Trusted pc) (nonzero : state.registers.faultAddress.word ≠ 0)
      (window : state.InWindow) (inactive : state.active = none) :
      AbortAnswer state pc (.error ⟨state.latchedAbort pc, .noActiveEnvironment⟩)
  | mapped {id : EnvironmentId} (trusted : state.Trusted pc)
      (nonzero : state.registers.faultAddress.word ≠ 0) (window : state.InWindow)
      (active : state.active = some id) (taken : state.PageTranslates id state.faultPage) :
      AbortAnswer state pc (.error ⟨state.latchedAbort pc, .alreadyMapped state.faultPage⟩)
  | outOfMemory {id : EnvironmentId} (trusted : state.Trusted pc)
      (nonzero : state.registers.faultAddress.word ≠ 0) (window : state.InWindow)
      (active : state.active = some id) (free : ¬ state.PageTranslates id state.faultPage)
      (needed : state.SlotEmpty id state.faultPage) (full : ¬ state.CoarseRoom) :
      AbortAnswer state pc
        (.error ⟨state.latchedAbort pc, .outOfMemory (.outOfMemory .coarse)⟩)
  | grown {id : EnvironmentId} {descriptor : SmallPageDescriptor} (trusted : state.Trusted pc)
      (nonzero : state.registers.faultAddress.word ≠ 0) (window : state.InWindow)
      (active : state.active = some id) (free : ¬ state.PageTranslates id state.faultPage)
      (room : state.SlotEmpty id state.faultPage → state.CoarseRoom) :
      AbortAnswer state pc (.value (.stackGrown state.faultPage descriptor))
  | heap (trusted : state.Trusted pc) (nonzero : state.registers.faultAddress.word ≠ 0)
      (outside : ¬ state.InWindow) (inside : state.InHeap) :
      AbortAnswer state pc (.error ⟨state.latchedAbort pc,
        .heapAccess state.heap.heapStart state.heap.heapEnd⟩)
  | outOfRange (trusted : state.Trusted pc) (nonzero : state.registers.faultAddress.word ≠ 0)
      (outside : ¬ state.InWindow) (apart : ¬ state.InHeap) :
      AbortAnswer state pc (.error ⟨state.latchedAbort pc,
        .outOfRange state.heap.heapStart state.heap.heapEnd state.config.stackTop⟩)

/-- One page of an environment has been mapped onto itself, and nothing else has changed but the
registers, the tables and the heap. -/
structure GrewBy (after before : VirtualMemory) (id : EnvironmentId) (page : VirtualAddress) :
    Prop where
  unmapped : ∀ address, Granule.page4K.Covers page address →
    before.translate id address = .ok none
  mapped : ∀ address, Granule.page4K.Covers page address →
    after.translate id address = .ok (some (identity address))
  outside : ∀ address, ¬ Granule.page4K.Covers page address →
    after.translate id address = before.translate id address
  others : ∀ other ≠ id, ∀ address, after.translate other address = before.translate other address
  heap : (before.SlotEmpty id page ∧ after.heap = { before.heap with
      next := .ofNat (roundUp before.heap.next.toNat TableLevel.coarse.bytes +
        TableLevel.coarse.bytes) }) ∨
    (¬ before.SlotEmpty id page ∧ after.heap = before.heap)
  rest : { after with tables := before.tables } =
    { before with registers := before.registers.synced }

/-- What the handling of an abort promises. -/
structure HandlesAbort (state : VirtualMemory) (pc : Word)
    (outcome : Outcome FatalFault FaultResolution) (final : VirtualMemory) : Prop where
  answer : AbortAnswer state pc outcome
  noPanic : ∀ cause, outcome ≠ .panic cause
  failed : ∀ fault, outcome = .error fault → final = state
  grown : ∀ page descriptor, outcome = .value (.stackGrown page descriptor) →
    ∃ id, state.active = some id ∧ GrewBy final state id page

variable {state after : VirtualMemory} {id : EnvironmentId} {environment : Environment}
  {page : VirtualAddress}

/-! ## What a walk sees -/

theorem Consistent.translate_eq (consistent : state.Consistent)
    (found : state.environments id = some environment) (address : VirtualAddress) :
    state.translate id address = .ok (environment.space.target state.memory address) := by
  rw [translate, consistent.addressSpace_eq found]
  exact consistent.sound.translate_eq (mem_liveSpaces found) address

theorem translate_of_none (absent : state.environments id = none) (address : VirtualAddress) :
    state.translate id address = .error (.environmentNotAllocated id.slot) := by
  simp only [translate, addressSpace, VirtualMemory.environment, absent, bind, Except.bind]

theorem Consistent.pageTranslates_iff (consistent : state.Consistent)
    (found : state.environments id = some environment)
    (aligned : page.isAligned .page4K = true) :
    state.PageTranslates id page ↔
      (environment.space.target state.memory page).isSome = true := by
  constructor
  · rintro ⟨address, target, covers, translated⟩
    rw [consistent.translate_eq found] at translated
    rw [← isSome_target_of_samePage aligned covers, Except.ok.inj translated]
    rfl
  · intro taken
    obtain ⟨target, translated⟩ := Option.isSome_iff_exists.mp taken
    have covers : Granule.page4K.Covers page page := Granule.page4K.covers_self page
    exact ⟨page, target, covers, by rw [consistent.translate_eq found, translated]⟩

theorem slotEmpty_iff (found : state.environments id = some environment) :
    state.SlotEmpty id page ↔ environment.space.NeedsTable state.memory .page4K page := by
  constructor
  · rintro ⟨other, otherFound, empty⟩
    rw [found] at otherFound
    rw [← Option.some.inj otherFound] at empty
    exact ⟨by decide, empty⟩
  · rintro ⟨-, empty⟩
    exact ⟨environment, found, empty⟩

theorem coarseRoom_iff :
    state.CoarseRoom ↔ TableLevel.coarse.Fits state.tables.cursor state.tables.limit :=
  (TableLevel.coarse.fits_iff _ _).symm

/-! ## Growth as a walk sees it -/

theorem Consistent.grewBy (consistent : state.Consistent)
    (found : state.environments id = some environment) {tables : TableMemory BumpHeap}
    (source : (environment.space.NeedsTable state.memory .page4K page ∧
        tables.source = (state.tables.afterTable .coarse).source) ∨
      (¬ environment.space.NeedsTable state.memory .page4K page ∧
        tables.source = state.tables.source))
    (sound : tables.Sound state.heap.start.toNat state.liveSpaces)
    (maps : tables.Maps state.tables state.liveSpaces environment.space .page4K page
      (VirtualMemory.identity page)) :
    GrewBy { state with registers := state.registers.synced, tables := tables } state id page := by
  have afterConsistent : ({ state with
      registers := state.registers.synced
      tables := tables } : VirtualMemory).Consistent :=
    (consistent.of_tables sound (start_of_source source)).of_registers _
  have member := mem_liveSpaces found
  constructor
  · intro address covers
    rw [consistent.translate_eq found]
    exact congrArg Except.ok (maps.free address covers)
  · intro address covers
    obtain ⟨target, translated, leads⟩ := maps.inside address covers
    have same : target = VirtualMemory.identity address := by
      have above := covers.1
      apply Address.eq_of_toNat_eq
      change target.toNat = address.toNat
      change target.toNat = page.toNat + _ at leads
      omega
    rw [afterConsistent.translate_eq found, ← same]
    exact congrArg Except.ok translated
  · intro address elsewhere
    rw [afterConsistent.translate_eq found, consistent.translate_eq found]
    exact congrArg Except.ok (maps.outside _ member address fun both => elsewhere both.2)
  · intro other different address
    rcases otherFound : state.environments other with _ | owner
    · rw [translate_of_none otherFound]
      refine translate_of_none ?_ address
      exact otherFound
    · have apart : owner.space ≠ environment.space := by
        intro same
        have sameRoot : owner.root = environment.root := congrArg AddressSpace.root same
        exact different (consistent.rootsApart otherFound found sameRoot)
      rw [afterConsistent.translate_eq otherFound, consistent.translate_eq otherFound]
      exact congrArg Except.ok
        (maps.outside _ (mem_liveSpaces otherFound) address fun both => apart both.1)
  · rcases source with ⟨needed, taken⟩ | ⟨unneeded, same⟩
    · exact .inl ⟨(slotEmpty_iff found).mpr needed, taken⟩
    · exact .inr ⟨fun empty => unneeded ((slotEmpty_iff found).mp empty), same⟩
  · rfl

/-! ## The pipeline -/

theorem HandlesAbort.of_error {pc : Word} {fault : FatalFault}
    (answer : AbortAnswer state pc (.error fault)) :
    HandlesAbort state pc (.error fault) state := by
  refine ⟨answer, ?_, fun _ _ => rfl, ?_⟩
  · intro cause impossible
    cases impossible
  · intro page descriptor impossible
    cases impossible

theorem HandlesAbort.of_value {pc : Word} {descriptor : SmallPageDescriptor}
    (answer : AbortAnswer state pc (.value (.stackGrown page descriptor)))
    (active : state.active = some id) (grew : GrewBy after state id page) :
    HandlesAbort state pc (.value (.stackGrown page descriptor)) after := by
  refine ⟨answer, ?_, ?_, ?_⟩
  · intro cause impossible
    cases impossible
  · intro fault impossible
    cases impossible
  · intro otherPage otherDescriptor same
    cases same
    exact ⟨id, active, grew⟩

theorem Consistent.handlesAbort (consistent : state.Consistent) (pc : Word) :
    HandlesAbort state pc ((handleDataAbort pc).effect state).1
      ((handleDataAbort pc).effect state).2 := by
  have sorted := sorted_verdict state pc
  rw [effect_handleDataAbort, Action.effect_mapError]
  generalize state.verdict pc = verdict at sorted
  cases sorted with
  | untrusted doubtful => exact .of_error (.untrusted doubtful)
  | null trusted zero => exact .of_error (.null trusted zero)
  | heap trusted nonzero outside inside =>
      exact .of_error (.heap trusted nonzero outside inside)
  | outOfRange trusted nonzero outside apart =>
      exact .of_error (.outOfRange trusted nonzero outside apart)
  | growth trusted nonzero window =>
      have effect := growEffect consistent state.isAligned_faultPage
      have translates : ∀ {id environment}, state.environments id = some environment →
          (state.PageTranslates id state.faultPage ↔
            (environment.space.target state.memory state.faultPage).isSome = true) :=
        fun found => consistent.pageTranslates_iff found state.isAligned_faultPage
      rw [resolve]
      generalize (growStack state.faultPage).effect state = ending at effect
      cases effect with
      | idle inactive =>
          exact .of_error (.idle trusted nonzero window inactive)
      | mapped active found taken =>
          exact .of_error (.mapped trusted nonzero window active ((translates found).mpr taken))
      | @outOfMemory id environment active found free needed full =>
          have unmapped : ¬ state.PageTranslates id state.faultPage := by
            rw [translates found, free]
            exact Bool.false_ne_true
          have empty := (slotEmpty_iff found).mpr needed
          have noRoom := fun room => full (coarseRoom_iff.mp room)
          exact .of_error (.outOfMemory trusted nonzero window active unmapped empty noRoom)
      | @grown id environment descriptor tables active found room source sound maps ended =>
          have grew := consistent.grewBy found source sound maps
          have unmapped : ¬ state.PageTranslates id state.faultPage := by
            rintro ⟨address, target, covers, translated⟩
            rw [grew.unmapped address covers] at translated
            cases translated
          have fits : state.SlotEmpty id state.faultPage → state.CoarseRoom :=
            fun empty => coarseRoom_iff.mpr (room ((slotEmpty_iff found).mp empty))
          exact .of_value (.grown trusted nonzero window active unmapped fits) active grew

/-- From every reachable state, whatever the fault registers hold, the handler gives the answer of
the first rule that applies and never panics. -/
theorem Reachable.handlesAbort_run (reachable : Reachable state) (pc : Word) :
    HandlesAbort state pc ((handleDataAbort pc).run state).outcome
      ((handleDataAbort pc).run state).state :=
  reachable.consistent.handlesAbort pc

/-- A store just below the stack window of a new environment, with nothing mapped around it. -/
theorem handlesAbort_run_smallMachine :
    let state := ((smallMachine.serve .allocate).serve (.switchTo ⟨0⟩)).serve
      (.recordAbort (.ofParts 0b00111 0 true) ⟨0x301004⟩)
    let ended := (handleDataAbort 0x8040).run state
    Reachable state ∧ ended.outcome = .value (.stackGrown ⟨0x301000⟩ ⟨0x30103e⟩) ∧
      HandlesAbort state 0x8040 ended.outcome ended.state := by
  have reachable := ((reachable_smallMachine.serve .allocate).serve (.switchTo ⟨0⟩)).serve
    (.recordAbort (.ofParts 0b00111 0 true) ⟨0x301004⟩)
  exact ⟨reachable, by decide +kernel, reachable.handlesAbort_run 0x8040⟩

end Armv6Kernel.VirtualMemory
