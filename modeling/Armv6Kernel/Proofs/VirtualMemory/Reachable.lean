import Armv6Kernel.Proofs.Fault.Growth

/-!
# Reachable states

Virtual memory is set up once over a heap that lies in memory and then serves requests in any order.
A request may fail or panic, and it may name an environment that does not live any more; the next
request finds the state that it left.  All states reached in this way are consistent.
-/

namespace Armv6Kernel

/-- What a caller can ask of virtual memory, and the abort that the processor can record. -/
inductive VirtualMemoryRequest where
  | allocate
  | free (id : EnvironmentId)
  | switchTo (id : EnvironmentId)
  | mmuEnable
  | mmuDisable
  | cachesOn
  | cachesOff
  | setDomainAccess (id : EnvironmentId) (access : DomainAccessControl)
  | map (granule : Granule) (id : EnvironmentId) (start : VirtualAddress)
      (physical : PhysicalAddress) (flags : MapFlags)
  | recordAbort (status : DataFaultStatus) (address : VirtualAddress)
  | handleDataAbort (pc : Word)
  deriving DecidableEq, Repr

namespace VirtualMemory

/-- The state that a request leaves, however it ends. -/
def serve (state : VirtualMemory) (request : VirtualMemoryRequest) : VirtualMemory :=
  match request with
  | .allocate => (VirtualMemory.allocate.run state).state
  | .free id => ((VirtualMemory.free id : Action VirtualMemory Empty Unit).run state).state
  | .switchTo id => ((VirtualMemory.switchTo id : Action VirtualMemory Empty Unit).run state).state
  | .mmuEnable => ((VirtualMemory.mmuEnable : Action VirtualMemory Empty Unit).run state).state
  | .mmuDisable => ((VirtualMemory.mmuDisable : Action VirtualMemory Empty Unit).run state).state
  | .cachesOn => ((VirtualMemory.cachesOn : Action VirtualMemory Empty Unit).run state).state
  | .cachesOff => ((VirtualMemory.cachesOff : Action VirtualMemory Empty Unit).run state).state
  | .setDomainAccess id access =>
      ((VirtualMemory.setDomainAccess id access : Action VirtualMemory Empty Unit).run state).state
  | .map granule id start physical flags =>
      ((mapGranule id granule start physical flags).run state).state
  | .recordAbort status address =>
      { state with registers :=
          { state.registers with faultStatus := status, faultAddress := address } }
  | .handleDataAbort pc => ((VirtualMemory.handleDataAbort pc).run state).state

/-- A heap whose range can be reached in memory, and whose cursor lies in its range.  If the end of
a window of memory is not an address, no access to it passes the bounds check, so no heap with room
lies in such a window. -/
structure HeapInMemory (tables : TableMemory BumpHeap) : Prop where
  above : tables.source.start.toNat ≤ tables.source.next.toNat
  below : tables.source.next.toNat ≤ tables.source.limit.toNat
  covers : tables.memory.Covers tables.source.start.toNat tables.source.limit.toNat

/-- The states that virtual memory can get into. -/
inductive Reachable : VirtualMemory → Prop
  | init {tables : TableMemory BumpHeap} {config : VirtualMemoryConfig}
      {registers final : SystemRegisters} {state : VirtualMemory} (inMemory : HeapInMemory tables)
      (accepted : (VirtualMemory.init tables config :
        Action SystemRegisters Empty VirtualMemory).effect registers = (.value state, final)) :
      Reachable state
  | serve {state : VirtualMemory} (reachable : Reachable state) (request : VirtualMemoryRequest) :
      Reachable (state.serve request)

/-- A new heap over a part of simulated memory lies in memory, if the end of the memory is an
address. -/
theorem heapInMemory_of_simulated {base length : Word} {memory : PhysicalMemory} {heap : BumpHeap}
    {start limit : PhysicalAddress} (simulated : PhysicalMemory.simulated base length = .ok memory)
    (created : BumpHeap.create start limit = .ok heap)
    (inside : base.toNat + length.toNat < 0x100000000) (above : base.toNat ≤ start.toNat)
    (below : limit.toNat ≤ base.toNat + length.toNat) : HeapInMemory ⟨memory, heap⟩ := by
  obtain ⟨ordered, rfl⟩ := BumpHeap.create_eq_ok created
  have ends : PhysicalMemory.windowEnd base length = .ok ⟨base + length⟩ := if_pos inside
  have bounds := PhysicalMemory.windowEnd_eq_ok ends
  exact
    { above := Nat.le_refl _
      below := ordered
      covers := PhysicalMemory.covers_of_simulated simulated ends above
        (Nat.le_trans below (Nat.le_of_eq bounds.1.symm)) }

variable {state : VirtualMemory}

theorem tracks_create {reserved capacity : Nat} {pool : IdentifierPool}
    (created : IdentifierPool.create reserved capacity = .ok pool) (number : Environment → Nat) :
    pool.Tracks reserved capacity (fun _ => none) 0 number := by
  obtain ⟨reservable, inBitmap, sameCapacity, bits, count⟩ := IdentifierPool.create_eq_ok created
  refine
    { capacity_eq := sameCapacity, inBitmap := inBitmap, reservable := reservable,
      occupied_iff := ?_, bounds := ?_, apart := ?_, count := count }
  · intro identifier
    rw [bits, decide_eq_true_iff]
    constructor
    · exact .inl
    · rintro (low | ⟨id, environment, impossible, -⟩)
      · exact low
      · cases impossible
  · intro id environment impossible
    cases impossible
  · intro id other environment otherEnvironment impossible
    cases impossible

/-- What an accepted configuration sets up. -/
theorem of_init {tables : TableMemory BumpHeap} {config : VirtualMemoryConfig}
    {registers final : SystemRegisters}
    (accepted : (VirtualMemory.init tables config :
      Action SystemRegisters Empty VirtualMemory).effect registers = (.value state, final)) :
    (config.domains ≤ Capacity.domains ∧ config.asids ≤ Capacity.asids) ∧
      ∃ slots domains asids, IdentifierPool.create 0 config.maxEnvironments = .ok slots ∧
        IdentifierPool.create config.reservedDomains config.domains = .ok domains ∧
        IdentifierPool.create config.reservedAsids config.asids = .ok asids ∧
        state = ⟨registers.initialized, tables, config, slots, domains, asids, fun _ => none, 0,
          none⟩ := by
  unfold VirtualMemory.init at accepted
  obtain ⟨_, _, environmentsChecked, domainsAhead⟩ := Action.effect_bind_eq_value accepted
  obtain ⟨-, rfl⟩ := Action.effect_assert_eq_value environmentsChecked
  obtain ⟨_, _, domainsChecked, asidsAhead⟩ := Action.effect_bind_eq_value domainsAhead
  obtain ⟨domainLimit, rfl⟩ := Action.effect_assert_eq_value domainsChecked
  obtain ⟨_, _, asidsChecked, registersAhead⟩ := Action.effect_bind_eq_value asidsAhead
  obtain ⟨asidLimit, rfl⟩ := Action.effect_assert_eq_value asidsChecked
  rw [Action.effect_bind, Mmu.effect_init] at registersAhead
  dsimp only at registersAhead
  rw [Action.effect_bind, Action.effect_log] at registersAhead
  dsimp only at registersAhead
  rw [Action.effect_bind, Action.effect_get] at registersAhead
  dsimp only at registersAhead
  obtain ⟨slots, _, slotsMade, domainPoolAhead⟩ := Action.effect_bind_eq_value registersAhead
  obtain ⟨slotsCreated, rfl⟩ := Action.effect_ofExcept_eq_value slotsMade
  obtain ⟨domains, _, domainsMade, asidPoolAhead⟩ := Action.effect_bind_eq_value domainPoolAhead
  obtain ⟨domainsCreated, rfl⟩ := Action.effect_ofExcept_eq_value domainsMade
  obtain ⟨asids, _, asidsMade, result⟩ := Action.effect_bind_eq_value asidPoolAhead
  obtain ⟨asidsCreated, rfl⟩ := Action.effect_ofExcept_eq_value asidsMade
  rw [Action.effect_pure] at result
  injection result with made
  injection made with made
  exact ⟨⟨of_decide_eq_true domainLimit, of_decide_eq_true asidLimit⟩, slots, domains, asids,
    slotsCreated, domainsCreated, asidsCreated, made.symm⟩

theorem consistent_init {tables : TableMemory BumpHeap} {config : VirtualMemoryConfig}
    {registers final : SystemRegisters} (inMemory : HeapInMemory tables)
    (accepted : (VirtualMemory.init tables config :
      Action SystemRegisters Empty VirtualMemory).effect registers = (.value state, final)) :
    state.Consistent := by
  obtain
    ⟨⟨domainLimit, asidLimit⟩, slots, domains, asids, slotsMade, domainsMade, asidsMade, rfl⟩ :=
    of_init accepted
  have nobody : EnvironmentTable.liveCount (fun _ => none) config.maxEnvironments = 0 := by
    unfold EnvironmentTable.liveCount
    rw [List.countP_eq_zero]
    exact fun _ _ => Bool.false_ne_true
  constructor
  · exact
      { covers := inMemory.covers
        above := inMemory.above
        below := inMemory.below
        forest := (Forest.empty tables.memory _ _).restrict (by
          rintro space ⟨id, environment, impossible, -⟩
          cases impossible) }
  · intro id other environment otherEnvironment impossible
    cases impossible
  · intro id other environment otherEnvironment impossible
    cases impossible
  · intro id environment impossible
    cases impossible
  · rw [VirtualMemory.liveCount, nobody]
    exact tracks_create slotsMade _
  · rw [VirtualMemory.liveCount, nobody]
    exact tracks_create domainsMade _
  · rw [VirtualMemory.liveCount, nobody]
    exact tracks_create asidsMade _
  · exact domainLimit
  · exact asidLimit
  · exact Nat.zero_le _
  · intro id environment impossible
    cases impossible
  · intro id impossible
    cases impossible

theorem AllocateEffect.consistent {ending : Outcome AllocationError EnvironmentId × VirtualMemory}
    (effect : AllocateEffect state ending) (consistent : state.Consistent) :
    ending.2.Consistent := by
  cases effect with
  | made grants => exact consistent.afterAllocate grants
  | _ => exact consistent

theorem FreeEffect.consistent {ε : Type} {id : EnvironmentId}
    {ending : Outcome ε Unit × VirtualMemory} (effect : FreeEffect state id ending)
    (consistent : state.Consistent) : ending.2.Consistent := by
  cases effect with
  | missing absent => exact consistent
  | active running => exact consistent
  | done found inactive => exact consistent.afterFree found inactive

theorem SwitchEffect.consistent {ε : Type} {id : EnvironmentId}
    {ending : Outcome ε Unit × VirtualMemory} (effect : SwitchEffect state id ending)
    (consistent : state.Consistent) : ending.2.Consistent := by
  cases effect with
  | missing absent => exact consistent
  | mmuOn on => exact consistent
  | done found off tableOf contextOf =>
      refine (consistent.of_registers _).of_active ?_
      rintro other ⟨⟩
      exact ⟨_, found⟩

theorem Consistent.after_serve (consistent : state.Consistent) (request : VirtualMemoryRequest) :
    (state.serve request).Consistent := by
  cases request with
  | allocate => exact (allocateEffect consistent).consistent consistent
  | free id => exact (freeEffect consistent id).consistent consistent
  | switchTo id => exact (switchEffect consistent id).consistent consistent
  | mmuEnable =>
      change ((VirtualMemory.mmuEnable : Action VirtualMemory Empty Unit).effect
        state).2.Consistent
      rw [effect_mmuEnable]
      split
      · exact consistent
      · exact consistent.of_registers _
  | mmuDisable =>
      change ((VirtualMemory.mmuDisable : Action VirtualMemory Empty Unit).effect
        state).2.Consistent
      rw [effect_mmuDisable]
      split
      · exact (consistent.of_registers _).of_active fun id impossible => (by cases impossible)
      · exact consistent
  | cachesOn => exact consistent.of_registers _
  | cachesOff => exact consistent.of_registers _
  | setDomainAccess id access =>
      change ((VirtualMemory.setDomainAccess id access :
        Action VirtualMemory Empty Unit).effect state).2.Consistent
      rw [effect_setDomainAccess]
      rcases found : state.environments id with _ | environment
      · exact consistent
      · exact consistent.of_domainAccess found access
  | map granule id start physical flags =>
      exact consistent.after_mapGranule id granule start physical flags
  | recordAbort status address => exact consistent.of_registers _
  | handleDataAbort pc => exact consistent.after_handleDataAbort pc

/-- Every reachable state is consistent. -/
theorem Reachable.consistent (reachable : Reachable state) : state.Consistent := by
  induction reachable with
  | init inMemory accepted => exact consistent_init inMemory accepted
  | serve reachable request ih => exact ih.after_serve request

/-- Virtual memory just set up over 256 KiB of simulated memory, all of which is heap. -/
def smallMachine : VirtualMemory where
  registers := (SystemRegisters.reset .fresh).initialized
  tables := ⟨⟨.window 0x140000 0x40000, fun _ => 0⟩,
    ⟨⟨0x140000⟩, ⟨0x140000⟩, ⟨0x140000⟩, ⟨0x180000⟩⟩⟩
  config := .standard
  slots := ⟨8, 0⟩
  domains := ⟨16, 1⟩
  asids := ⟨64, 1⟩
  environments := fun _ => none
  lastProcess := 0
  active := none

theorem init_smallMachine :
    (VirtualMemory.init smallMachine.tables .standard :
      Action SystemRegisters Empty VirtualMemory).effect (.reset .fresh) =
        (.value smallMachine, (SystemRegisters.reset .fresh).initialized) :=
  rfl

/-- The small machine is reachable wherever in its memory the heap ends. -/
theorem reachable_smallMachine_upTo {limit : PhysicalAddress} (above : 0x140000 ≤ limit.toNat)
    (below : limit.toNat ≤ 0x180000) :
    Reachable { smallMachine with
      tables := ⟨smallMachine.memory, ⟨⟨0x140000⟩, ⟨0x140000⟩, ⟨0x140000⟩, limit⟩⟩ } := by
  have simulated : PhysicalMemory.simulated 0x140000 0x40000 = .ok smallMachine.memory := rfl
  have created : BumpHeap.create ⟨0x140000⟩ limit =
      .ok ⟨⟨0x140000⟩, ⟨0x140000⟩, ⟨0x140000⟩, limit⟩ := if_pos above
  have inMemory := heapInMemory_of_simulated simulated created (by decide) (by decide) below
  have accepted : (VirtualMemory.init
      ⟨smallMachine.memory, ⟨⟨0x140000⟩, ⟨0x140000⟩, ⟨0x140000⟩, limit⟩⟩ .standard :
        Action SystemRegisters Empty VirtualMemory).effect (.reset .fresh) =
          (.value { smallMachine with
            tables := ⟨smallMachine.memory, ⟨⟨0x140000⟩, ⟨0x140000⟩, ⟨0x140000⟩, limit⟩⟩ },
            (SystemRegisters.reset .fresh).initialized) := rfl
  exact .init inMemory accepted

theorem reachable_smallMachine : Reachable smallMachine :=
  reachable_smallMachine_upTo (by decide) (by decide)

/-! ## The bookkeeping -/

/-- What the pools and the records say about each other. -/
structure Bookkept (state : VirtualMemory) : Prop where
  slot_iff : ∀ slot, state.slots.inUse.getLsbD slot = true ↔
    ∃ environment, state.environments ⟨slot⟩ = some environment
  identified : ∀ id environment, state.environments id = some environment →
    environment.id = id ∧ id.slot < state.config.maxEnvironments
  domain_iff : ∀ number, state.domains.isAllocated number = true ↔
    number < state.config.reservedDomains ∨
      ∃ id environment, state.environments id = some environment ∧
        environment.domain.number = number
  asid_iff : ∀ number, state.asids.isAllocated number = true ↔
    number < state.config.reservedAsids ∨
      ∃ id environment, state.environments id = some environment ∧
        environment.asid.toNat = number
  distinct : ∀ id other environment otherEnvironment, state.environments id = some environment →
    state.environments other = some otherEnvironment → id ≠ other →
      environment.id ≠ otherEnvironment.id ∧ environment.domain ≠ otherEnvironment.domain ∧
      environment.asid ≠ otherEnvironment.asid ∧
      environment.process ≠ otherEnvironment.process ∧ environment.root ≠ otherEnvironment.root
  slotCount : state.slots.allocatedCount = state.liveCount
  domainCount : state.domains.allocatedCount = state.config.reservedDomains + state.liveCount
  asidCount : state.asids.allocatedCount = state.config.reservedAsids + state.liveCount

theorem Consistent.bookkept (consistent : state.Consistent) : state.Bookkept := by
  constructor
  · intro slot
    rw [consistent.slots.occupied_iff]
    constructor
    · rintro (low | ⟨id, environment, found, rfl⟩)
      · exact absurd low (Nat.not_lt_zero slot)
      · rw [consistent.identified found]
        exact ⟨environment, found⟩
    · rintro ⟨environment, found⟩
      exact .inr ⟨⟨slot⟩, environment, found, by rw [consistent.identified found]⟩
  · exact fun id environment found => ⟨consistent.identified found, consistent.slot_lt found⟩
  · exact consistent.domains.isAllocated_iff
  · exact consistent.asids.isAllocated_iff
  · intro id other environment otherEnvironment found otherFound different
    refine ⟨?_, ?_, ?_, ?_, ?_⟩
    · rw [consistent.identified found, consistent.identified otherFound]
      exact different
    · exact fun same => different
        (consistent.domains.apart found otherFound (congrArg Domain.number same))
    · exact fun same => different
        (consistent.asids.apart found otherFound (congrArg BitVec.toNat same))
    · exact fun same => different (consistent.processesApart found otherFound same)
    · exact fun same => different (consistent.rootsApart found otherFound same)
  · have count := consistent.slots.count
    omega
  · exact consistent.domains.count
  · exact consistent.asids.count

theorem AllocateEffect.ne_panic {ending : Outcome AllocationError EnvironmentId × VirtualMemory}
    (effect : AllocateEffect state ending) (cause : Panic) : ending.1 ≠ .panic cause := by
  intro ended
  cases effect <;> cases ended

theorem FreeEffect.panic_cause {ε : Type} {id : EnvironmentId}
    {ending : Outcome ε Unit × VirtualMemory} (effect : FreeEffect state id ending) {cause : Panic}
    (ended : ending.1 = .panic cause) :
    cause = .environmentNotAllocated id.slot ∨ cause = .environmentActive id.slot := by
  cases effect with
  | missing absent =>
      cases ended
      exact .inl rfl
  | active running =>
      cases ended
      exact .inr rfl
  | done found inactive => cases ended

theorem SwitchEffect.panic_cause {ε : Type} {id : EnvironmentId}
    {ending : Outcome ε Unit × VirtualMemory} (effect : SwitchEffect state id ending)
    {cause : Panic} (ended : ending.1 = .panic cause) :
    cause = .environmentNotAllocated id.slot ∨ cause = .switchWithMmuOn := by
  cases effect with
  | missing absent =>
      cases ended
      exact .inl rfl
  | mmuOn on =>
      cases ended
      exact .inr rfl
  | done found off tableOf contextOf => cases ended

/-- In every reachable state the bookkeeping is right.  Hence no allocation panics, and freeing or
switching panics only if the caller broke a rule. -/
theorem Reachable.bookkept_and_panics (reachable : Reachable state) :
    state.Bookkept ∧
    (∀ cause, (VirtualMemory.allocate.run state).outcome ≠ .panic cause) ∧
    (∀ id cause, ((VirtualMemory.free id : Action VirtualMemory Empty Unit).run state).outcome =
      .panic cause →
        cause = .environmentNotAllocated id.slot ∨ cause = .environmentActive id.slot) ∧
    ∀ id cause, ((VirtualMemory.switchTo id : Action VirtualMemory Empty Unit).run state).outcome =
      .panic cause → cause = .environmentNotAllocated id.slot ∨ cause = .switchWithMmuOn := by
  have consistent := reachable.consistent
  refine ⟨consistent.bookkept, fun cause => ?_, fun id cause ended => ?_, fun id cause ended => ?_⟩
  · exact (allocateEffect consistent).ne_panic cause
  · exact (freeEffect consistent id).panic_cause ended
  · exact (switchEffect consistent id).panic_cause ended

/-- Two environments are made and the first one is retired. -/
theorem bookkept_and_panics_afterFree :
    let state := ((smallMachine.serve .allocate).serve .allocate).serve (.free ⟨0⟩)
    Reachable state ∧ state.liveCount = 1 ∧ state.slots.allocatedCount = 1 ∧ state.Bookkept ∧
      ∀ cause, (VirtualMemory.allocate.run state).outcome ≠ .panic cause := by
  have reachable := ((reachable_smallMachine.serve .allocate).serve .allocate).serve (.free ⟨0⟩)
  have kept := reachable.bookkept_and_panics
  exact ⟨reachable, by decide +kernel, by decide +kernel, kept.1, kept.2.1⟩

end VirtualMemory

end Armv6Kernel
