import Armv6Kernel.Proofs.AddressSpace.Paging
import Armv6Kernel.Proofs.Mmu.Control
import Armv6Kernel.Proofs.VirtualMemory.Bookkeeping
import Armv6Kernel.VirtualMemory.Lifecycle

/-!
# What the environment operations do

In a consistent state each operation either does all of its work or leaves the state as it found it.
The lemmas of this module say which of the two happens and what the work is.
-/

namespace Armv6Kernel.VirtualMemory

variable {state : VirtualMemory}

/-! ## Allocation -/

/-- The state after an identifier has been taken from the pool of a resource. -/
def claimed (resource : EnvironmentResource) (identifier : Nat) (state : VirtualMemory) :
    VirtualMemory :=
  setPool resource ((state.pool resource).take identifier) state

theorem effect_claim (resource : EnvironmentResource) (state : VirtualMemory) :
    (∃ identifier, (state.pool resource).Offers identifier ∧
      (claim resource).effect state =
        (.value identifier, claimed resource identifier state)) ∨
    ((state.pool resource).Full ∧
      (claim resource).effect state =
        (.error (exhausted resource (.exhausted (state.pool resource).capacity)), state)) := by
  unfold claim
  rw [Action.effect_bind, Action.effect_get]
  rcases (state.pool resource).allocate_cases with ⟨identifier, offers, allocated⟩ | ⟨full, failed⟩
  · left
    refine ⟨identifier, offers, ?_⟩
    simp only [allocated]
    rfl
  · right
    refine ⟨full, ?_⟩
    simp only [failed]
    rfl

theorem effect_release {ε : Type} (resource : EnvironmentResource) (identifier : Nat)
    (state : VirtualMemory) :
    (release resource identifier : Action VirtualMemory ε Unit).effect state =
      match (state.pool resource).free identifier with
      | .ok rest => (.value (), setPool resource rest state)
      | .error cause => (.panic (.bookkeepingCorrupted resource cause), state) := by
  unfold release
  simp only [Action.effect_bind, Action.effect_get]
  rcases (state.pool resource).free identifier with cause | rest <;> rfl

/-- Giving back what was just taken restores the state. -/
theorem effect_release_claimed {ε : Type} {resource : EnvironmentResource} {identifier : Nat}
    {state : VirtualMemory}
    (fits : (state.pool resource).capacity ≤ IdentifierPool.maxCapacity)
    (offers : (state.pool resource).Offers identifier) :
    (release resource identifier : Action VirtualMemory ε Unit).effect
      (claimed resource identifier state) = (.value (), state) := by
  have taken : (claimed resource identifier state).pool resource =
      (state.pool resource).take identifier := by
    cases resource <;> rfl
  rw [effect_release, taken, IdentifierPool.free_take fits offers]
  cases resource <;> rfl

/-- The ways in which an allocation can end. -/
inductive AllocateEffect (state : VirtualMemory) :
    Outcome AllocationError EnvironmentId × VirtualMemory → Prop
  | noProcess (spent : ContextId.maxProcess ≤ state.lastProcess.toNat) :
      AllocateEffect state (.error (.noProcess state.lastProcess), state)
  | noSlot (process : state.lastProcess.toNat < ContextId.maxProcess) (full : state.slots.Full) :
      AllocateEffect state (.error (.noSlot (.exhausted state.slots.capacity)), state)
  | noDomain {slot : Nat} (process : state.lastProcess.toNat < ContextId.maxProcess)
      (slots : state.slots.Offers slot) (full : state.domains.Full) :
      AllocateEffect state (.error (.noDomain (.exhausted state.domains.capacity)), state)
  | noAsid {slot domain : Nat} (process : state.lastProcess.toNat < ContextId.maxProcess)
      (slots : state.slots.Offers slot) (domains : state.domains.Offers domain)
      (full : state.asids.Full) :
      AllocateEffect state (.error (.noAsid (.exhausted state.asids.capacity)), state)
  | outOfMemory {slot domain asid : Nat}
      (process : state.lastProcess.toNat < ContextId.maxProcess)
      (slots : state.slots.Offers slot) (domains : state.domains.Offers domain)
      (asids : state.asids.Offers asid)
      (full : ¬ TableLevel.first.Fits state.tables.cursor state.tables.limit) :
      AllocateEffect state (.error (.map (.outOfMemory .first)), state)
  | made {slot domain asid : Nat} (grants : state.Grants slot domain asid) :
      AllocateEffect state (.value ⟨slot⟩, state.afterAllocate slot domain asid)

/-- The environment that an allocation makes from what it was given. -/
def newEnvironment (state : VirtualMemory) (slot : Nat) (domain : Domain) (asid : Nat)
    (root : PhysicalAddress) : Environment where
  id := ⟨slot⟩
  process := BitVec.ofNat 32 (state.lastProcess.toNat + 1)
  domain := domain
  asid := BitVec.ofNat 8 asid
  domainAccess := .only domain .client
  root := root

/-- What an allocation does whatever the tables are like.  If making a root panics, the identifiers
taken so far are lost. -/
inductive AllocateSteps (state : VirtualMemory) :
    Outcome AllocationError EnvironmentId × VirtualMemory → Prop
  | refused {cause : AllocationError} (effect : AllocateEffect state (.error cause, state)) :
      AllocateSteps state (.error cause, state)
  | noRoot {slot domain asid : Nat} {cause : MapError} {tables : TableMemory BumpHeap}
      (process : state.lastProcess.toNat < ContextId.maxProcess)
      (slots : state.slots.Offers slot) (domains : state.domains.Offers domain)
      (asids : state.asids.Offers asid)
      (ended : AddressSpace.allocateRoot.effect state.tables = (.error cause, tables)) :
      AllocateSteps state (.error (.map cause), { state with tables := tables })
  | broken {slot domain asid : Nat} {cause : Panic} {tables : TableMemory BumpHeap}
      {process : Word} (slots : state.slots.Offers slot) (domains : state.domains.Offers domain)
      (asids : state.asids.Offers asid)
      (failed : (AddressSpace.allocateRoot.effect state.tables = (.panic cause, tables) ∧
          process = state.lastProcess) ∨ Domain.ofNat domain = .error cause) :
      AllocateSteps state (.panic cause, { state with
        tables := tables
        slots := state.slots.take slot
        domains := state.domains.take domain
        asids := state.asids.take asid
        lastProcess := process })
  | made {slot domain asid : Nat} {owned : Domain} {space : AddressSpace}
      {tables : TableMemory BumpHeap} (process : state.lastProcess.toNat < ContextId.maxProcess)
      (slots : state.slots.Offers slot) (domains : state.domains.Offers domain)
      (asids : state.asids.Offers asid)
      (ended : AddressSpace.allocateRoot.effect state.tables = (.value space, tables))
      (known : Domain.ofNat domain = .ok owned) :
      AllocateSteps state (.value ⟨slot⟩, { state with
        tables := tables
        slots := state.slots.take slot
        domains := state.domains.take domain
        asids := state.asids.take asid
        environments := EnvironmentTable.set state.environments ⟨slot⟩
          (some (state.newEnvironment slot owned asid space.root))
        lastProcess := BitVec.ofNat 32 (state.lastProcess.toNat + 1) })

theorem allocateSteps
    (fits : ∀ resource, (state.pool resource).capacity ≤ IdentifierPool.maxCapacity) :
    AllocateSteps state (allocate.effect state) := by
  unfold allocate
  rw [Action.effect_bind, Action.effect_get]
  dsimp only
  by_cases spent : ContextId.maxProcess < state.lastProcess.toNat + 1
  · rw [if_pos spent]
    exact .refused (.noProcess (by omega))
  · rw [if_neg spent]
    have process : state.lastProcess.toNat < ContextId.maxProcess := by omega
    rw [Action.effect_bind]
    rcases effect_claim .slot state with ⟨slot, slotOffers, claimSlot⟩ | ⟨full, claimSlot⟩
    · have undoSlot : (release .slot slot : Action VirtualMemory Empty Unit).effect
          (claimed .slot slot state) = (.value (), state) :=
        effect_release_claimed (fits .slot) slotOffers
      rw [claimSlot]
      dsimp only
      rw [Action.effect_bind, Action.effect_undoing]
      rcases effect_claim .domain (claimed .slot slot state) with
        ⟨domain, domainOffers, claimDomain⟩ | ⟨full, claimDomain⟩
      · have undoDomain : (release .domain domain : Action VirtualMemory Empty Unit).effect
            (claimed .domain domain (claimed .slot slot state)) =
              (.value (), claimed .slot slot state) :=
          effect_release_claimed (fits .domain) domainOffers
        rw [claimDomain]
        dsimp only
        rw [Action.effect_bind, Action.effect_undoing]
        rcases effect_claim .asid (claimed .domain domain (claimed .slot slot state)) with
          ⟨asid, asidOffers, claimAsid⟩ | ⟨full, claimAsid⟩
        · rw [claimAsid]
          dsimp only
          rw [Action.effect_bind, Action.effect_undoing, Action.effect_mapError, onTables,
            Action.effect_onPart]
          have sameTables : (claimed .asid asid (claimed .domain domain
              (claimed .slot slot state))).tables = state.tables := rfl
          rw [sameTables]
          rcases rooted : (AddressSpace.allocateRoot : Action (TableMemory BumpHeap) MapError
            AddressSpace).effect state.tables with ⟨space | cause | cause, tables⟩
          · rcases known : Domain.ofNat domain with cause | owned
            · simp only [Action.effect_bind, Action.effect_modify, Action.effect_ofExcept_error]
              exact .broken slotOffers domainOffers asidOffers (.inr known)
            · simp only [Action.effect_bind, Action.effect_modify, Action.effect_ofExcept_ok,
                Action.effect_log, Action.effect_pure]
              exact .made process slotOffers domainOffers asidOffers rooted known
          · -- The identifiers go back to the pools; what the tables have become stays.
            let left : VirtualMemory := { state with tables := tables }
            have undoAsid : (release .asid asid : Action VirtualMemory Empty Unit).effect
                (claimed .asid asid (claimed .domain domain (claimed .slot slot left))) =
                  (.value (), claimed .domain domain (claimed .slot slot left)) :=
              effect_release_claimed (fits .asid) asidOffers
            have undoDomain : (release .domain domain : Action VirtualMemory Empty Unit).effect
                (claimed .domain domain (claimed .slot slot left)) =
                  (.value (), claimed .slot slot left) :=
              effect_release_claimed (fits .domain) domainOffers
            have undoSlot : (release .slot slot : Action VirtualMemory Empty Unit).effect
                (claimed .slot slot left) = (.value (), left) :=
              effect_release_claimed (fits .slot) slotOffers
            have moved : ({ claimed .asid asid (claimed .domain domain
                (claimed .slot slot state)) with tables := tables } : VirtualMemory) =
                  claimed .asid asid (claimed .domain domain (claimed .slot slot left)) := rfl
            simp only [Action.effect_bind, moved, undoAsid, undoDomain, undoSlot]
            exact .noRoot process slotOffers domainOffers asidOffers rooted
          · exact .broken slotOffers domainOffers asidOffers (.inl ⟨rooted, rfl⟩)
        · rw [claimAsid]
          simp only [Action.effect_bind, undoDomain, undoSlot]
          exact .refused (.noAsid process slotOffers domainOffers full)
      · rw [claimDomain]
        simp only [undoSlot]
        exact .refused (.noDomain process slotOffers full)
    · rw [claimSlot]
      exact .refused (.noSlot process full)

/-- A number that the pool of domains offers is the number of a domain. -/
theorem Consistent.ofNat_domain (consistent : state.Consistent) {domain : Nat}
    (offers : state.domains.Offers domain) :
    Domain.ofNat domain = .ok ⟨BitVec.ofNat 4 domain⟩ := by
  have below := Nat.lt_of_lt_of_le (consistent.domains.lt_of_offers offers) consistent.domainLimit
  rw [Domain.ofNat, Domain.ofNat?, if_pos below]

theorem Consistent.poolFits (consistent : state.Consistent) (resource : EnvironmentResource) :
    (state.pool resource).capacity ≤ IdentifierPool.maxCapacity := by
  cases resource with
  | slot => exact consistent.slots.fits
  | domain => exact consistent.domains.fits
  | asid => exact consistent.asids.fits

theorem allocateEffect (consistent : state.Consistent) :
    AllocateEffect state (allocate.effect state) := by
  have steps := allocateSteps consistent.poolFits
  have rooted := TableMemory.effect_allocateRoot consistent.sound
  generalize allocate.effect state = ending at steps
  cases steps with
  | refused effect => exact effect
  | noRoot process slots domains asids ended =>
      by_cases room : TableLevel.first.Fits state.tables.cursor state.tables.limit
      · rw [if_pos room, ended] at rooted
        cases rooted
      · rw [if_neg room, ended] at rooted
        cases rooted
        exact .outOfMemory process slots domains asids room
  | broken slots domains asids failed =>
      rcases failed with ⟨ended, -⟩ | unknown
      · rw [ended] at rooted
        split at rooted <;> cases rooted
      · rw [consistent.ofNat_domain domains] at unknown
        cases unknown
  | made process slots domains asids ended known =>
      by_cases room : TableLevel.first.Fits state.tables.cursor state.tables.limit
      · rw [if_pos room, ended] at rooted
        rw [consistent.ofNat_domain domains] at known
        cases rooted
        cases known
        exact .made ⟨process, slots, domains, asids, room⟩
      · rw [if_neg room, ended] at rooted
        cases rooted

/-! ## Retirement -/

theorem effect_readEnvironment_of_some {ε : Type} {id : EnvironmentId} {environment : Environment}
    (found : state.environments id = some environment) :
    (readEnvironment id : Action VirtualMemory ε Environment).effect state =
      (.value environment, state) := by
  unfold readEnvironment
  rw [Action.effect_bind, Action.effect_get]
  simp only [VirtualMemory.environment, found, Action.effect_ofExcept_ok]

theorem effect_readEnvironment_of_none {ε : Type} {id : EnvironmentId}
    (missing : state.environments id = none) :
    (readEnvironment id : Action VirtualMemory ε Environment).effect state =
      (.panic (.environmentNotAllocated id.slot), state) := by
  unfold readEnvironment
  rw [Action.effect_bind, Action.effect_get]
  simp only [VirtualMemory.environment, missing, Action.effect_ofExcept_error]

/-- The ways in which freeing an environment can end. -/
inductive FreeEffect {ε : Type} (state : VirtualMemory) (id : EnvironmentId) :
    Outcome ε Unit × VirtualMemory → Prop
  | missing (absent : state.environments id = none) :
      FreeEffect state id (.panic (.environmentNotAllocated id.slot), state)
  | active (running : state.active = some id) :
      FreeEffect state id (.panic (.environmentActive id.slot), state)
  | done {environment : Environment} (found : state.environments id = some environment)
      (inactive : state.active ≠ some id) :
      FreeEffect state id (.value (), state.afterFree id environment)

/-- The identifier that an environment in a slot holds of a resource. -/
def holding (id : EnvironmentId) (environment : Environment) : EnvironmentResource → Nat
  | .slot => id.slot
  | .domain => environment.domain.number
  | .asid => environment.asid.toNat

/-- What freeing does whatever the pools are like.  If one of them does not know an identifier,
those given back before stay so. -/
inductive FreeSteps {ε : Type} (state : VirtualMemory) (id : EnvironmentId) :
    Outcome ε Unit × VirtualMemory → Prop
  | ended {ending : Outcome ε Unit × VirtualMemory} (effect : FreeEffect state id ending) :
      FreeSteps state id ending
  | corrupted {environment : Environment} {resource : EnvironmentResource}
      {cause : IdentifierError} {domains asids : IdentifierPool}
      (found : state.environments id = some environment)
      (failed : (state.pool resource).free (holding id environment resource) = .error cause)
      (domainsSize : domains.capacity = state.domains.capacity)
      (asidsSize : asids.capacity = state.asids.capacity) :
      FreeSteps state id (.panic (.bookkeepingCorrupted resource cause),
        { state with domains := domains, asids := asids })

theorem freeSteps {ε : Type} (state : VirtualMemory) (id : EnvironmentId) :
    FreeSteps state id ((free id : Action VirtualMemory ε Unit).effect state) := by
  unfold free
  rw [Action.effect_bind]
  rcases found : state.environments id with _ | environment
  · rw [effect_readEnvironment_of_none found]
    exact .ended (.missing found)
  · rw [effect_readEnvironment_of_some found]
    dsimp only
    rw [Action.effect_bind, Action.effect_get]
    dsimp only
    rw [Action.effect_bind, Action.effect_assert]
    by_cases running : state.active = some id
    · rw [if_neg (by simpa using running)]
      exact .ended (.active running)
    · rw [if_pos (decide_eq_true running)]
      dsimp only
      rw [Action.effect_bind, effect_release]
      rcases asidFreed : (state.pool .asid).free environment.asid.toNat with cause | asids
      · exact .corrupted found asidFreed rfl rfl
      · dsimp only
        rw [Action.effect_bind, effect_release]
        have sameDomains : (setPool .asid asids state).pool .domain = state.pool .domain := rfl
        rw [sameDomains]
        rcases domainFreed : (state.pool .domain).free environment.domain.number with
          cause | domains
        · rw [IdentifierPool.free_eq_ok asidFreed]
          exact .corrupted found domainFreed rfl rfl
        · dsimp only
          rw [Action.effect_bind, effect_release]
          have sameSlots : (setPool .domain domains (setPool .asid asids state)).pool .slot =
              state.pool .slot := rfl
          rw [sameSlots]
          rcases slotFreed : (state.pool .slot).free id.slot with cause | slots
          · rw [IdentifierPool.free_eq_ok asidFreed, IdentifierPool.free_eq_ok domainFreed]
            exact .corrupted found slotFreed rfl rfl
          · simp only [Action.effect_bind, Action.effect_modify, Action.effect_log]
            rw [IdentifierPool.free_eq_ok asidFreed, IdentifierPool.free_eq_ok domainFreed,
              IdentifierPool.free_eq_ok slotFreed]
            exact .ended (.done found running)

theorem freeEffect {ε : Type} (consistent : state.Consistent) (id : EnvironmentId) :
    FreeEffect state id ((free id : Action VirtualMemory ε Unit).effect state) := by
  have steps := freeSteps (ε := ε) state id
  generalize (free id : Action VirtualMemory ε Unit).effect state = ending at steps
  cases steps with
  | ended effect => exact effect
  | @corrupted environment resource cause domains asids found failed _ _ =>
      have known : (state.pool resource).free (holding id environment resource) =
          .ok ((state.pool resource).drop (holding id environment resource)) := by
        cases resource with
        | slot =>
            have occupied := consistent.slots.occupied found
            rw [consistent.identified found] at occupied
            exact consistent.slots.free_eq (consistent.slot_lt found) occupied
        | domain =>
            exact consistent.domains.free_eq (consistent.domains.bounds found).2
              (consistent.domains.occupied found)
        | asid =>
            exact consistent.asids.free_eq (consistent.asids.bounds found).2
              (consistent.asids.occupied found)
      rw [known] at failed
      cases failed

/-! ## The registers -/

/-- The ways in which a switch can end. -/
inductive SwitchEffect {ε : Type} (state : VirtualMemory) (id : EnvironmentId) :
    Outcome ε Unit × VirtualMemory → Prop
  | missing (absent : state.environments id = none) :
      SwitchEffect state id (.panic (.environmentNotAllocated id.slot), state)
  | mmuOn (on : state.mmuIsOn = true) :
      SwitchEffect state id (.panic .switchWithMmuOn, state)
  | done {environment : Environment} {table : TranslationTableBase} {context : ContextId}
      (found : state.environments id = some environment) (off : state.mmuIsOn = false)
      (tableOf : TranslationTableBase.ofTable environment.root = .ok table)
      (contextOf : ContextId.forProcess environment.process environment.asid = .ok context) :
      SwitchEffect state id (.value (), { state with
        registers :=
          (state.registers.installed environment.domainAccess table context).enabled
        active := some id })

/-- What a switch does whatever the record is like. -/
inductive SwitchSteps {ε : Type} (state : VirtualMemory) (id : EnvironmentId) :
    Outcome ε Unit × VirtualMemory → Prop
  | ended {ending : Outcome ε Unit × VirtualMemory} (effect : SwitchEffect state id ending) :
      SwitchSteps state id ending
  | unfit {environment : Environment} {cause : Panic}
      (found : state.environments id = some environment)
      (failed : TranslationTableBase.ofTable environment.root = .error cause ∨
        ContextId.forProcess environment.process environment.asid = .error cause) :
      SwitchSteps state id (.panic cause, state)

theorem switchSteps {ε : Type} (state : VirtualMemory) (id : EnvironmentId) :
    SwitchSteps state id ((switchTo id : Action VirtualMemory ε Unit).effect state) := by
  unfold switchTo
  rw [Action.effect_bind]
  rcases found : state.environments id with _ | environment
  · rw [effect_readEnvironment_of_none found]
    exact .ended (.missing found)
  · rw [effect_readEnvironment_of_some found]
    dsimp only
    rw [Action.effect_bind, Action.effect_get]
    dsimp only
    rw [Action.effect_bind, Action.effect_assert]
    rcases power : state.mmuIsOn with _ | _
    · rcases tableOf : TranslationTableBase.ofTable environment.root with cause | table
      · exact .unfit found (.inl tableOf)
      · rcases contextOf : ContextId.forProcess environment.process environment.asid with
          cause | context
        · exact .unfit found (.inr contextOf)
        · obtain ⟨process, asid⟩ := ContextId.readback contextOf
          have off : (state.registers.installed environment.domainAccess table
              context).control.mmuIsOn = false := power
          have held : (state.registers.installed environment.domainAccess table
              context).contextId = context := rfl
          simp only [Bool.not_false, if_true, Action.effect_bind, Action.effect_ofExcept_ok,
            onRegisters, Action.effect_onPart, Mmu.effect_install, Action.effect_gets,
            Action.effect_log, Action.effect_assert, held, process, asid, decide_true,
            Action.effect_modify, Mmu.effect_enable, off, Bool.false_eq_true, if_false]
          exact .ended (.done found power tableOf contextOf)
    · exact .ended (.mmuOn power)

theorem switchEffect {ε : Type} (consistent : state.Consistent) (id : EnvironmentId) :
    SwitchEffect state id ((switchTo id : Action VirtualMemory ε Unit).effect state) := by
  have steps := switchSteps (ε := ε) state id
  generalize (switchTo id : Action VirtualMemory ε Unit).effect state = ending at steps
  cases steps with
  | ended effect => exact effect
  | @unfit environment cause found failed =>
      rcases failed with misaligned | tooWide
      · have aligned : environment.root.toNat % TableLevel.first.bytes = 0 :=
          consistent.sound.forest.rootAligned (Consistent.mem_liveSpaces found)
        obtain ⟨table, tableOf⟩ := TranslationTableBase.ofTable_of_aligned aligned
        rw [tableOf] at misaligned
        cases misaligned
      · have processFits := Nat.le_trans (consistent.processBound found) consistent.processLimit
        rw [ContextId.forProcess, if_pos processFits] at tooWide
        cases tooWide

theorem effect_mmuEnable {ε : Type} (state : VirtualMemory) :
    (mmuEnable : Action VirtualMemory ε Unit).effect state =
      if state.mmuIsOn then (.panic .mmuAlreadyOn, state)
      else (.value (), { state with registers := state.registers.enabled }) := by
  rw [mmuEnable, onRegisters, Action.effect_onPart, Mmu.effect_enable]
  change _ = if state.registers.control.mmuIsOn then _ else _
  cases state.registers.control.mmuIsOn <;> rfl

theorem effect_mmuDisable {ε : Type} (state : VirtualMemory) :
    (mmuDisable : Action VirtualMemory ε Unit).effect state =
      if state.mmuIsOn then
        (.value (), { state with registers := state.registers.disabled, active := none })
      else (.panic .mmuAlreadyOff, state) := by
  rw [mmuDisable, Action.effect_bind, onRegisters, Action.effect_onPart, Mmu.effect_disable]
  change _ = if state.registers.control.mmuIsOn then _ else _
  cases state.registers.control.mmuIsOn <;> rfl

/-! ## The records and the tables -/

theorem effect_setDomainAccess {ε : Type} (id : EnvironmentId) (access : DomainAccessControl)
    (state : VirtualMemory) :
    (setDomainAccess id access : Action VirtualMemory ε Unit).effect state =
      match state.environments id with
      | some environment => (.value (),
          setEnvironment id (some { environment with domainAccess := access }) state)
      | none => (.panic (.environmentNotAllocated id.slot), state) := by
  unfold setDomainAccess
  rw [Action.effect_bind]
  rcases found : state.environments id with _ | environment
  · rw [effect_readEnvironment_of_none found]
  · rw [effect_readEnvironment_of_some found]
    rfl

/-- Maps a granule of any size in an environment. -/
def mapGranule (id : EnvironmentId) : (granule : Granule) → VirtualAddress → PhysicalAddress →
    MapFlags → Action VirtualMemory MapError (Descriptor (.mapping granule))
  | .page4K => mapSmallPage id
  | .page64K => mapLargePage id
  | .section1M => mapSection id

theorem Consistent.ofRoot_eq (consistent : state.Consistent) {id : EnvironmentId}
    {environment : Environment} (found : state.environments id = some environment) :
    AddressSpace.ofRoot environment.root = .ok environment.space :=
  if_pos (consistent.sound.forest.rootAligned (mem_liveSpaces found))

/-- Mapping in an environment is mapping in its tree. -/
theorem effect_mapGranule_of_root {id : EnvironmentId} {environment : Environment}
    (found : state.environments id = some environment)
    (root : AddressSpace.ofRoot environment.root = .ok environment.space)
    (granule : Granule) (start : VirtualAddress) (physical : PhysicalAddress) (flags : MapFlags) :
    (mapGranule id granule start physical flags).effect state =
      (((environment.space.mapGranule granule start physical environment.domain flags).effect
          state.tables).1,
        { state with
          tables := ((environment.space.mapGranule granule start physical environment.domain
            flags).effect state.tables).2 }) := by
  cases granule <;>
    simp only [mapGranule, mapSmallPage, mapLargePage, mapSection, Action.effect_bind,
      effect_readEnvironment_of_some found, root, Action.effect_ofExcept_ok, onTables,
      Action.effect_onPart, AddressSpace.mapGranule]

theorem effect_mapGranule (consistent : state.Consistent) {id : EnvironmentId}
    {environment : Environment} (found : state.environments id = some environment)
    (granule : Granule) (start : VirtualAddress) (physical : PhysicalAddress) (flags : MapFlags) :
    (mapGranule id granule start physical flags).effect state =
      (((environment.space.mapGranule granule start physical environment.domain flags).effect
          state.tables).1,
        { state with
          tables := ((environment.space.mapGranule granule start physical environment.domain
            flags).effect state.tables).2 }) :=
  effect_mapGranule_of_root found (consistent.ofRoot_eq found) granule start physical flags

theorem effect_mapGranule_of_none {id : EnvironmentId} (missing : state.environments id = none)
    (granule : Granule) (start : VirtualAddress) (physical : PhysicalAddress) (flags : MapFlags) :
    (mapGranule id granule start physical flags).effect state =
      (.panic (.environmentNotAllocated id.slot), state) := by
  cases granule <;>
    simp only [mapGranule, mapSmallPage, mapLargePage, mapSection, Action.effect_bind,
      effect_readEnvironment_of_none missing]

/-- Whatever the tables are like, mapping changes nothing else. -/
theorem tables_mapGranule (id : EnvironmentId) (granule : Granule) (start : VirtualAddress)
    (physical : PhysicalAddress) (flags : MapFlags) (state : VirtualMemory) :
    ∃ tables, ((mapGranule id granule start physical flags).effect state).2 =
      { state with tables := tables } := by
  rcases found : state.environments id with _ | environment
  · rw [effect_mapGranule_of_none found]
    exact ⟨state.tables, rfl⟩
  · rcases root : AddressSpace.ofRoot environment.root with cause | space
    · refine ⟨state.tables, ?_⟩
      cases granule <;>
        simp only [mapGranule, mapSmallPage, mapLargePage, mapSection, Action.effect_bind,
          effect_readEnvironment_of_some found, root, Action.effect_ofExcept_error]
    · refine ⟨((space.mapGranule granule start physical environment.domain flags).effect
        state.tables).2, ?_⟩
      cases granule <;>
        simp only [mapGranule, mapSmallPage, mapLargePage, mapSection, Action.effect_bind,
          effect_readEnvironment_of_some found, root, Action.effect_ofExcept_ok, onTables,
          Action.effect_onPart, AddressSpace.mapGranule]

end Armv6Kernel.VirtualMemory
