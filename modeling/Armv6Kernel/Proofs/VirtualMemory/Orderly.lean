import Armv6Kernel.Proofs.AddressSpace.Extent
import Armv6Kernel.Proofs.VirtualMemory.Serving

/-!
# Orderly states

Where the heap reaches beyond memory, an operation may panic half-way, and the identifiers that it
has taken are lost for good.  The pools then count more than what lives.  Still, each environment
that lives holds its identifiers alone, and its tree lies apart from the others: the state is
`Orderly`.  `Work` lists what a request can do to such a state, and every request leaves it orderly.
-/

namespace Armv6Kernel

/-! ## Pools that stand behind the records -/

/-- Every environment has its number from the pool, and no other environment has it as well. -/
structure IdentifierPool.Backs (pool : IdentifierPool) (table : EnvironmentTable)
    (number : Environment → Nat) : Prop where
  fits : pool.capacity ≤ maxCapacity
  below : ∀ {id environment}, table id = some environment → number environment < pool.capacity
  occupied : ∀ {id environment}, table id = some environment →
    pool.inUse.getLsbD (number environment) = true
  apart : table.Apart number

namespace IdentifierPool.Backs

variable {pool : IdentifierPool} {table : EnvironmentTable} {number : Environment → Nat}
  {id : EnvironmentId} {environment : Environment}

theorem create {reserved capacity : Nat} (created : create reserved capacity = .ok pool)
    (number : Environment → Nat) : pool.Backs (fun _ => none) number := by
  obtain ⟨-, inBitmap, same, -⟩ := create_eq_ok created
  refine ⟨?_, fun impossible => (nomatch impossible), fun impossible => (nomatch impossible),
    fun _ _ _ _ impossible => (nomatch impossible)⟩
  rw [same]
  exact inBitmap

theorem free_eq (backs : pool.Backs table number) (found : table id = some environment) :
    pool.free (number environment) = .ok (pool.drop (number environment)) :=
  free_of_occupied (backs.below found) (backs.occupied found)

theorem ne_of_offers (backs : pool.Backs table number) {identifier : Nat}
    (offers : pool.Offers identifier) (found : table id = some environment) :
    number environment ≠ identifier := by
  rintro rfl
  have occupied := backs.occupied found
  rw [offers.free] at occupied
  cases occupied

/-- A number may be taken from the pool and lost. -/
theorem take (backs : pool.Backs table number) {identifier : Nat}
    (offers : pool.Offers identifier) : (pool.take identifier).Backs table number where
  fits := backs.fits
  below := backs.below
  occupied found := getLsbD_take_of_occupied backs.fits offers (backs.occupied found)
  apart := backs.apart

/-- A new environment gets the number that the pool offers. -/
theorem add (backs : pool.Backs table number) (id : EnvironmentId) {identifier : Nat}
    (offers : pool.Offers identifier) (given : number environment = identifier) :
    (pool.take identifier).Backs (table.set id (some environment)) number := by
  subst given
  have inBitmap : number environment < maxCapacity := Nat.lt_of_lt_of_le offers.below backs.fits
  have taken := backs.take offers
  refine ⟨backs.fits, fun live => ?_, fun live => ?_, ?_⟩
  · rcases EnvironmentTable.of_set_some live with ⟨-, rfl⟩ | ⟨-, before⟩
    · exact offers.below
    · exact taken.below before
  · rcases EnvironmentTable.of_set_some live with ⟨-, rfl⟩ | ⟨-, before⟩
    · rw [getLsbD_take inBitmap, decide_eq_true rfl, Bool.or_true]
    · exact taken.occupied before
  · exact backs.apart.add fun found => backs.ne_of_offers offers found

/-- An environment that is gone has given its number back. -/
theorem remove (backs : pool.Backs table number) (found : table id = some environment) :
    (pool.drop (number environment)).Backs (table.set id none) number := by
  have inBitmap := BitVec.lt_of_getLsbD (backs.occupied found)
  refine ⟨backs.fits, fun live => ?_, fun live => ?_, backs.apart.remove⟩
  · exact backs.below (EnvironmentTable.of_set_none live).2
  · obtain ⟨different, before⟩ := EnvironmentTable.of_set_none live
    have numbersDiffer := fun same => different (backs.apart before found same)
    rw [getLsbD_drop inBitmap, backs.occupied before, decide_eq_false numbersDiffer]
    rfl

/-- A record may change as long as it keeps its number. -/
theorem replace (backs : pool.Backs table number) {old : Environment} (found : table id = some old)
    (same : number environment = number old) :
    pool.Backs (table.set id (some environment)) number := by
  refine ⟨backs.fits, fun live => ?_, fun live => ?_, backs.apart.replace found same⟩
  · rcases EnvironmentTable.of_set_some live with ⟨-, rfl⟩ | ⟨-, before⟩
    · rw [same]
      exact backs.below found
    · exact backs.below before
  · rcases EnvironmentTable.of_set_some live with ⟨-, rfl⟩ | ⟨-, before⟩
    · rw [same]
      exact backs.occupied found
    · exact backs.occupied before

end IdentifierPool.Backs

namespace VirtualMemory

/-! ## The invariant -/

/-- What lives has its identifiers and its tables to itself. -/
structure Orderly (state : VirtualMemory) : Prop where
  planted : state.tables.Planted state.liveSpaces
  rootsApart : EnvironmentTable.Apart state.environments Environment.root
  processesApart : EnvironmentTable.Apart state.environments Environment.process
  identified : ∀ {id environment}, state.environments id = some environment → environment.id = id
  slots : state.slots.Backs state.environments (·.id.slot)
  domains : state.domains.Backs state.environments (·.domain.number)
  asids : state.asids.Backs state.environments (·.asid.toNat)
  domainLimit : state.domains.capacity ≤ Domain.count
  asidLimit : state.asids.capacity ≤ Capacity.asids
  processLimit : state.lastProcess.toNat ≤ ContextId.maxProcess
  processBound : ∀ {id environment}, state.environments id = some environment →
    environment.process.toNat ≤ state.lastProcess.toNat

/-- What a request does to an orderly state, whatever the memory is like. -/
inductive Work (state : VirtualMemory) (request : VirtualMemoryRequest) : VirtualMemory → Prop
  | idle {registers : SystemRegisters} {source : BumpHeap} {active : Option EnvironmentId}
      (moved : state.tables.MovesTo source) :
      Work state request { state with
        registers := registers
        tables := { state.tables with source := source }
        active := active }
  | lost {slot domain asid : Nat} {source : BumpHeap} (slots : state.slots.Offers slot)
      (domains : state.domains.Offers domain) (asids : state.asids.Offers asid)
      (moved : state.tables.MovesTo source) :
      Work state request { state with
        tables := { state.tables with source := source }
        slots := state.slots.take slot
        domains := state.domains.take domain
        asids := state.asids.take asid }
  | allocated {slot domain asid : Nat} (asked : request = .allocate)
      (grants : state.Grants slot domain asid) :
      Work state request (state.afterAllocate slot domain asid)
  | freed {id : EnvironmentId} {environment : Environment} (asked : request = .free id)
      (found : state.environments id = some environment) :
      Work state request (state.afterFree id environment)
  | granted {id : EnvironmentId} {environment : Environment} {access : DomainAccessControl}
      (asked : request = .setDomainAccess id access)
      (found : state.environments id = some environment) :
      Work state request
        (setEnvironment id (some { environment with domainAccess := access }) state)
  | mapped {id : EnvironmentId} {environment : Environment} {granule : Granule}
      {start : VirtualAddress} {physical : PhysicalAddress} {flags : MapFlags}
      {descriptor : Descriptor (.mapping granule)} {registers : SystemRegisters}
      {tables : TableMemory BumpHeap} (concerns : state.Concerns request id)
      (found : state.environments id = some environment)
      (installs : Installs state.tables.unbounded environment.space start physical
        environment.domain flags descriptor tables.unbounded)
      (maps : tables.unbounded.Maps state.tables.unbounded state.liveSpaces environment.space
        granule start physical)
      (extent : tables.memory.extent = state.memory.extent)
      (planted : tables.Planted state.liveSpaces) :
      Work state request { state with registers := registers, tables := tables }

variable {state after : VirtualMemory} {request : VirtualMemoryRequest} {id : EnvironmentId}
  {environment : Environment}

namespace Orderly

theorem poolFits (orderly : state.Orderly) (resource : EnvironmentResource) :
    (state.pool resource).capacity ≤ IdentifierPool.maxCapacity := by
  cases resource with
  | slot => exact orderly.slots.fits
  | domain => exact orderly.domains.fits
  | asid => exact orderly.asids.fits

theorem of_tables (orderly : state.Orderly) {tables : TableMemory BumpHeap}
    (planted : tables.Planted state.liveSpaces) (registers : SystemRegisters)
    (active : Option EnvironmentId) :
    ({ state with registers := registers, tables := tables, active := active } :
      VirtualMemory).Orderly :=
  { orderly with planted := planted }

theorem ofNat_domain (orderly : state.Orderly) {domain : Nat}
    (offers : state.domains.Offers domain) :
    Domain.ofNat domain = .ok ⟨BitVec.ofNat 4 domain⟩ := by
  have below := Nat.lt_of_lt_of_le offers.below orderly.domainLimit
  rw [Domain.ofNat, Domain.ofNat?, if_pos below]

theorem ofRoot_eq (orderly : state.Orderly) (found : state.environments id = some environment) :
    AddressSpace.ofRoot environment.root = .ok environment.space :=
  if_pos (orderly.planted.forest.rootAligned (Consistent.mem_liveSpaces found))

/-! ## What the work does to it -/

theorem lost (orderly : state.Orderly) {slot domain asid : Nat} {source : BumpHeap}
    (slots : state.slots.Offers slot) (domains : state.domains.Offers domain)
    (asids : state.asids.Offers asid) (moved : state.tables.MovesTo source) :
    ({ state with
      tables := { state.tables with source := source }
      slots := state.slots.take slot
      domains := state.domains.take domain
      asids := state.asids.take asid } : VirtualMemory).Orderly :=
  { orderly with
    planted := orderly.planted.of_moved moved
    slots := orderly.slots.take slots
    domains := orderly.domains.take domains
    asids := orderly.asids.take asids }

theorem afterAllocate (orderly : state.Orderly) {slot domain asid : Nat}
    (grants : state.Grants slot domain asid) : (state.afterAllocate slot domain asid).Orderly := by
  have process := Consistent.process_nextEnvironment grants
  have domainBelow := Nat.lt_of_lt_of_le grants.domain.below orderly.domainLimit
  have asidBelow := Nat.lt_of_lt_of_le grants.asid.below orderly.asidLimit
  constructor
  · exact (orderly.planted.afterRoot grants.room).restrict
      (liveSpaces_afterAllocate state slot domain asid)
  · apply orderly.rootsApart.add
    intro other owner live same
    have sameSpace : owner.space = state.tables.nextSpace := congrArg AddressSpace.mk same
    exact orderly.planted.nextSpace_not_mem grants.room ⟨other, owner, live, sameSpace⟩
  · apply orderly.processesApart.add
    intro other owner live same
    have bound := orderly.processBound live
    rw [same, process] at bound
    omega
  · intro other owner live
    rcases EnvironmentTable.of_set_some live with ⟨rfl, rfl⟩ | ⟨-, before⟩
    · rfl
    · exact orderly.identified before
  · exact orderly.slots.add ⟨slot⟩ grants.slot rfl
  · exact orderly.domains.add ⟨slot⟩ grants.domain
      (number_nextEnvironment_of_lt state slot asid domainBelow)
  · exact orderly.asids.add ⟨slot⟩ grants.asid
      (asid_nextEnvironment_of_lt state slot domain asidBelow)
  · exact orderly.domainLimit
  · exact orderly.asidLimit
  · have bound := grants.process
    change (state.nextEnvironment slot domain asid).process.toNat ≤ ContextId.maxProcess
    omega
  · intro other owner live
    rcases EnvironmentTable.of_set_some live with ⟨-, rfl⟩ | ⟨-, before⟩
    · exact Nat.le_refl _
    · have bound := orderly.processBound before
      change owner.process.toNat ≤ (state.nextEnvironment slot domain asid).process.toNat
      omega

theorem afterFree (orderly : state.Orderly) (found : state.environments id = some environment) :
    (state.afterFree id environment).Orderly := by
  constructor
  · exact orderly.planted.restrict (liveSpaces_afterFree state id environment)
  · exact orderly.rootsApart.remove
  · exact orderly.processesApart.remove
  · intro other owner live
    exact orderly.identified (EnvironmentTable.of_set_none live).2
  · have removed := orderly.slots.remove found
    rw [orderly.identified found] at removed
    exact removed
  · exact orderly.domains.remove found
  · exact orderly.asids.remove found
  · exact orderly.domainLimit
  · exact orderly.asidLimit
  · exact orderly.processLimit
  · intro other owner live
    exact orderly.processBound (EnvironmentTable.of_set_none live).2

theorem of_domainAccess (orderly : state.Orderly)
    (found : state.environments id = some environment) (access : DomainAccessControl) :
    (setEnvironment id (some { environment with domainAccess := access }) state).Orderly := by
  constructor
  · exact orderly.planted.restrict (Consistent.liveSpaces_setDomainAccess found access)
  · exact orderly.rootsApart.replace found rfl
  · exact orderly.processesApart.replace found rfl
  · intro other owner live
    rcases EnvironmentTable.of_set_some live with ⟨rfl, rfl⟩ | ⟨-, before⟩
    · have identified := orderly.identified found
      exact identified
    · exact orderly.identified before
  · exact orderly.slots.replace found rfl
  · exact orderly.domains.replace found rfl
  · exact orderly.asids.replace found rfl
  · exact orderly.domainLimit
  · exact orderly.asidLimit
  · exact orderly.processLimit
  · intro other owner live
    rcases EnvironmentTable.of_set_some live with ⟨-, rfl⟩ | ⟨-, before⟩
    · have bound := orderly.processBound found
      exact bound
    · exact orderly.processBound before

end Orderly

theorem Work.orderly (work : Work state request after) (orderly : state.Orderly) :
    after.Orderly := by
  cases work with
  | idle moved => exact orderly.of_tables (orderly.planted.of_moved moved) _ _
  | lost slots domains asids moved => exact orderly.lost slots domains asids moved
  | allocated asked grants => exact orderly.afterAllocate grants
  | freed asked found => exact orderly.afterFree found
  | granted asked found => exact orderly.of_domainAccess found _
  | mapped concerns found installs maps extent planted => exact orderly.of_tables planted _ _

/-- Taken slots of the trees keep their words, and memory keeps its extent. -/
theorem Work.keeps (work : Work state request after) (orderly : state.Orderly) :
    Keeps after.memory state.memory state.liveSpaces ∧
      after.memory.extent = state.memory.extent := by
  cases work with
  | allocated asked grants =>
      refine ⟨keeps_of_untouched fun space member => ?_, rfl⟩
      exact orderly.planted.forest.untouched_of_agree
        (TableMemory.agree_afterRoot grants.room) member
  | mapped concerns found installs maps extent planted =>
      have member := Consistent.mem_liveSpaces found
      have keeps := (installs.fillsOnly (orderly.planted.sound_of_mem member) member).keeps
      exact ⟨⟨keeps.first, fun linked => keeps.second ⟨linked.member, linked.entry⟩⟩, extent⟩
  | _ => exact ⟨.refl _ _, rfl⟩

/-! ## What the operations do -/

/-- A request may change registers only. -/
theorem Work.of_registers (state : VirtualMemory) (request : VirtualMemoryRequest)
    (registers : SystemRegisters) (active : Option EnvironmentId) :
    Work state request { state with registers := registers, active := active } :=
  .idle state.tables.movesTo_source

theorem Orderly.work_allocate (orderly : state.Orderly) :
    Work state .allocate (state.serve .allocate) := by
  have steps := allocateSteps orderly.poolFits
  have final : state.serve .allocate = (allocate.effect state).2 := rfl
  rw [final]
  generalize allocate.effect state = ending at steps
  cases steps with
  | refused effect => exact .of_registers state _ _ _
  | noRoot process slots domains asids ended =>
      have rooted := TableMemory.rootSteps state.tables
      rw [ended] at rooted
      cases rooted with
      | idle failed moved => exact .idle moved
  | broken slots domains asids failed =>
      rcases failed with ⟨ended, rfl⟩ | unknown
      · have rooted := TableMemory.rootSteps state.tables
        rw [ended] at rooted
        cases rooted with
        | idle failed moved => exact .lost slots domains asids moved
      · rw [orderly.ofNat_domain domains] at unknown
        cases unknown
  | made process slots domains asids ended known =>
      have rooted := TableMemory.rootSteps state.tables
      rw [ended] at rooted
      rw [orderly.ofNat_domain domains] at known
      cases known
      cases rooted with
      | made room => exact .allocated rfl ⟨process, slots, domains, asids, room⟩
      | idle failed moved => cases failed

theorem Orderly.work_free (orderly : state.Orderly) (id : EnvironmentId) :
    Work state (.free id) (state.serve (.free id)) := by
  have steps := freeSteps (ε := Empty) state id
  have final : state.serve (.free id) =
      ((free id : Action VirtualMemory Empty Unit).effect state).2 := rfl
  rw [final]
  generalize (free id : Action VirtualMemory Empty Unit).effect state = ending at steps
  cases steps with
  | ended effect =>
      cases effect with
      | missing absent => exact .of_registers state _ _ _
      | active running => exact .of_registers state _ _ _
      | done found inactive => exact .freed rfl found
  | @corrupted environment resource cause domains asids found failed _ _ =>
      have known : (state.pool resource).free (holding id environment resource) =
          .ok ((state.pool resource).drop (holding id environment resource)) := by
        cases resource with
        | slot =>
            have freed := orderly.slots.free_eq found
            rw [orderly.identified found] at freed
            exact freed
        | domain => exact orderly.domains.free_eq found
        | asid => exact orderly.asids.free_eq found
      rw [known] at failed
      cases failed

theorem work_switchTo (state : VirtualMemory) (id : EnvironmentId) :
    Work state (.switchTo id) (state.serve (.switchTo id)) := by
  have steps := switchSteps (ε := Empty) state id
  have final : state.serve (.switchTo id) =
      ((switchTo id : Action VirtualMemory Empty Unit).effect state).2 := rfl
  rw [final]
  generalize (switchTo id : Action VirtualMemory Empty Unit).effect state = ending at steps
  cases steps with
  | unfit found failed => exact .of_registers state _ _ _
  | ended effect => cases effect <;> exact .of_registers state _ _ _

theorem Orderly.work_map (orderly : state.Orderly) (granule : Granule) (id : EnvironmentId)
    (start : VirtualAddress) (physical : PhysicalAddress) (flags : MapFlags) :
    Work state (.map granule id start physical flags)
      (state.serve (.map granule id start physical flags)) := by
  have final : state.serve (.map granule id start physical flags) =
      ((mapGranule id granule start physical flags).effect state).2 := rfl
  rw [final]
  rcases found : state.environments id with _ | environment
  · rw [effect_mapGranule_of_none found]
    exact .of_registers state _ _ _
  · have steps := orderly.planted.mapSteps (Consistent.mem_liveSpaces found) granule start physical
      environment.domain flags
    rw [effect_mapGranule_of_root found (orderly.ofRoot_eq found)]
    generalize (environment.space.mapGranule granule start physical environment.domain
      flags).effect state.tables = ending at steps
    cases steps with
    | installed installs maps extent planted =>
        exact .mapped (.inl rfl) found installs maps extent planted
    | idle failed moved => exact .idle moved

/-- What the growth of the stack does to an orderly state. -/
inductive GrowWork (state : VirtualMemory) (page : VirtualAddress) :
    Outcome FatalReason FaultResolution × VirtualMemory → Prop
  | idle {outcome : Outcome FatalReason FaultResolution} {source : BumpHeap}
      (failed : outcome.isValue = false) (moved : state.tables.MovesTo source) :
      GrowWork state page (outcome, { state with tables := { state.tables with source := source } })
  | grown {id : EnvironmentId} {environment : Environment} {descriptor : SmallPageDescriptor}
      {tables : TableMemory BumpHeap} (active : state.active = some id)
      (found : state.environments id = some environment)
      (ended : (environment.space.mapGranule .page4K page (identity page) environment.domain
        .kernel).effect state.tables = (.value descriptor, tables)) :
      GrowWork state page (.value (.stackGrown page descriptor),
        { state with registers := state.registers.synced, tables := tables })

theorem Orderly.growWork (orderly : state.Orderly) (page : VirtualAddress) :
    GrowWork state page ((growStack page).effect state) := by
  have stays := state.tables.movesTo_source
  rcases active : state.active with _ | id
  · rw [effect_growStack_of_idle active]
    exact .idle rfl stays
  · rcases found : state.environments id with _ | environment
    · have missing : state.activeEnvironment? = .error (.environmentNotAllocated id.slot) := by
        simp only [activeEnvironment?, active, VirtualMemory.environment, found]
        rfl
      unfold growStack
      rw [Action.effect_bind, Action.effect_get]
      dsimp only
      rw [Action.effect_bind, missing]
      exact .idle rfl stays
    · have root := orderly.ofRoot_eq found
      have steps := orderly.planted.mapSteps (Consistent.mem_liveSpaces found) .page4K page
        (identity page) environment.domain .kernel
      have effect := effect_mapGranule_of_root found root .page4K page (identity page) .kernel
      rw [effect_growStack active found (orderly.identified found) root]
      rcases isMapped state.memory environment.space page with cause | _ | _
      · exact .idle rfl stays
      · rcases ended : (environment.space.mapGranule .page4K page (identity page)
          environment.domain .kernel).effect state.tables with ⟨outcome, tables⟩
        rw [ended] at effect steps
        rw [effect]
        cases steps with
        | installed installs maps extent planted => exact .grown active found ended
        | idle failed moved =>
            rcases outcome with descriptor | cause | cause
            · cases failed
            · exact .idle rfl moved
            · exact .idle rfl moved
      · exact .idle rfl stays

theorem Orderly.work_handleDataAbort (orderly : state.Orderly) (pc : Word) :
    Work state (.handleDataAbort pc) (state.serve (.handleDataAbort pc)) := by
  have effect := effect_handleDataAbort pc state
  rw [Action.effect_mapError] at effect
  have final : state.serve (.handleDataAbort pc) = ((handleDataAbort pc).effect state).2 := rfl
  rw [final]
  cases verdict : state.verdict pc with
  | fatal reason =>
      rw [verdict] at effect
      rw [effect]
      exact .of_registers state _ _ _
  | stackGrowth page =>
      have growth := orderly.growWork page
      rw [verdict, resolve] at effect
      generalize (growStack page).effect state = ending at effect growth
      cases growth with
      | @idle outcome source failed moved =>
          rw [effect]
          cases outcome <;> exact .idle moved
      | @grown id environment descriptor tables active found ended =>
          have steps := orderly.planted.mapSteps (Consistent.mem_liveSpaces found) .page4K page
            (identity page) environment.domain .kernel
          have grows : state.GrowsStack (.handleDataAbort pc) id :=
            ⟨pc, page, descriptor, rfl, active, congrArg Prod.fst effect⟩
          rw [ended] at steps
          rw [effect]
          cases steps with
          | installed installs maps extent planted =>
              exact .mapped (.inr grows) found installs maps extent planted
          | idle failed moved => cases failed

/-- Whatever is asked of an orderly state, and however it ends. -/
theorem Orderly.work (orderly : state.Orderly) (request : VirtualMemoryRequest) :
    Work state request (state.serve request) := by
  cases request with
  | allocate => exact orderly.work_allocate
  | free id => exact orderly.work_free id
  | switchTo id => exact work_switchTo state id
  | mmuEnable =>
      have final : state.serve .mmuEnable =
          ((mmuEnable : Action VirtualMemory Empty Unit).effect state).2 := rfl
      rw [final, effect_mmuEnable]
      split <;> exact .of_registers state _ _ _
  | mmuDisable =>
      have final : state.serve .mmuDisable =
          ((mmuDisable : Action VirtualMemory Empty Unit).effect state).2 := rfl
      rw [final, effect_mmuDisable]
      split <;> exact .of_registers state _ _ _
  | cachesOn => exact .of_registers state _ _ _
  | cachesOff => exact .of_registers state _ _ _
  | setDomainAccess id access =>
      have final : state.serve (.setDomainAccess id access) =
          ((setDomainAccess id access : Action VirtualMemory Empty Unit).effect state).2 := rfl
      rw [final, effect_setDomainAccess]
      rcases found : state.environments id with _ | environment
      · exact .of_registers state _ _ _
      · exact .granted rfl found
  | map granule id start physical flags => exact orderly.work_map granule id start physical flags
  | recordAbort status address => exact .of_registers state _ _ _
  | handleDataAbort pc => exact orderly.work_handleDataAbort pc

/-! ## Runs -/

theorem Orderly.after_serve (orderly : state.Orderly) (request : VirtualMemoryRequest) :
    (state.serve request).Orderly :=
  (orderly.work request).orderly orderly

theorem Orderly.after_serveAll (orderly : state.Orderly) (requests : List VirtualMemoryRequest) :
    (state.serveAll requests).Orderly := by
  induction requests generalizing state with
  | nil => exact orderly
  | cons request later ih => exact ih (orderly.after_serve request)

/-- Virtual memory that has just been set up is orderly, wherever its heap lies. -/
theorem orderly_init {tables : TableMemory BumpHeap} {config : VirtualMemoryConfig}
    {registers final : SystemRegisters}
    (accepted : (VirtualMemory.init tables config :
      Action SystemRegisters Empty VirtualMemory).effect registers = (.value state, final)) :
    state.Orderly := by
  obtain
    ⟨⟨domainLimit, asidLimit⟩, slots, domains, asids, slotsMade, domainsMade, asidsMade, rfl⟩ :=
    of_init accepted
  have domainCapacity := (IdentifierPool.create_eq_ok domainsMade).2.2.1
  have asidCapacity := (IdentifierPool.create_eq_ok asidsMade).2.2.1
  constructor
  · apply (TableMemory.Planted.empty tables).restrict
    rintro space ⟨id, environment, impossible, -⟩
    cases impossible
  · exact fun _ _ _ _ impossible => nomatch impossible
  · exact fun _ _ _ _ impossible => nomatch impossible
  · exact fun impossible => nomatch impossible
  · exact .create slotsMade _
  · exact .create domainsMade _
  · exact .create asidsMade _
  · exact domainCapacity.trans_le domainLimit
  · exact asidCapacity.trans_le asidLimit
  · exact Nat.zero_le _
  · exact fun impossible => nomatch impossible

end VirtualMemory

end Armv6Kernel
