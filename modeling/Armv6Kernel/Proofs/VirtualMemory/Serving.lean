import Armv6Kernel.Proofs.VirtualMemory.Retention

/-!
# What a request does to the records and the registers

These statements need no heap that lies in memory: a request that breaks on bad tables may lose
identifiers, but neither a record nor a register.  A record goes only when its environment is freed,
and then it is not the active one.  The registers and the active environment change together, each
request in its own way.
-/

namespace Armv6Kernel.VirtualMemory

/-- Whether a request ends with a value. -/
def succeeds (state : VirtualMemory) (request : VirtualMemoryRequest) : Bool :=
  match request with
  | .allocate => (VirtualMemory.allocate.run state).outcome.isValue
  | .free id =>
      ((VirtualMemory.free id : Action VirtualMemory Empty Unit).run state).outcome.isValue
  | .switchTo id =>
      ((VirtualMemory.switchTo id : Action VirtualMemory Empty Unit).run state).outcome.isValue
  | .mmuEnable =>
      ((VirtualMemory.mmuEnable : Action VirtualMemory Empty Unit).run state).outcome.isValue
  | .mmuDisable =>
      ((VirtualMemory.mmuDisable : Action VirtualMemory Empty Unit).run state).outcome.isValue
  | .cachesOn =>
      ((VirtualMemory.cachesOn : Action VirtualMemory Empty Unit).run state).outcome.isValue
  | .cachesOff =>
      ((VirtualMemory.cachesOff : Action VirtualMemory Empty Unit).run state).outcome.isValue
  | .setDomainAccess id access =>
      ((VirtualMemory.setDomainAccess id access :
        Action VirtualMemory Empty Unit).run state).outcome.isValue
  | .map granule id start physical flags =>
      ((mapGranule id granule start physical flags).run state).outcome.isValue
  | .recordAbort _ _ => true
  | .handleDataAbort pc => ((VirtualMemory.handleDataAbort pc).run state).outcome.isValue

/-- The environment that a request switches to. -/
def switched? (state : VirtualMemory) (request : VirtualMemoryRequest) : Option Environment :=
  match request with
  | .switchTo id => if state.succeeds (.switchTo id) then state.environments id else none
  | _ => none

/-- Every record names the slot that it is kept in, and the pool knows that the slot is in use. -/
structure Filed (state : VirtualMemory) : Prop where
  fits : ∀ resource, (state.pool resource).capacity ≤ IdentifierPool.maxCapacity
  identified : ∀ {id environment}, state.environments id = some environment → environment.id = id
  occupied : ∀ {id environment}, state.environments id = some environment →
    state.slots.inUse.getLsbD id.slot = true

/-- What a request does to the records. -/
inductive RecordSteps (state : VirtualMemory) (request : VirtualMemoryRequest)
    (after : VirtualMemory) : Prop
  | kept (records : after.environments = state.environments)
      (slots : ∀ slot, state.slots.inUse.getLsbD slot = true →
        after.slots.inUse.getLsbD slot = true)
  | allocated {slot : Nat} {environment : Environment} (offers : state.slots.Offers slot)
      (identified : environment.id = ⟨slot⟩)
      (records : after.environments =
        EnvironmentTable.set state.environments ⟨slot⟩ (some environment))
      (slots : after.slots = state.slots.take slot)
  | freed {id : EnvironmentId} {environment : Environment} (asked : request = .free id)
      (found : state.environments id = some environment)
      (succeeded : state.succeeds request = true) (inactive : after.active ≠ some id)
      (records : after.environments = EnvironmentTable.set state.environments id none)
      (slots : after.slots = state.slots.drop id.slot)
  | granted {id : EnvironmentId} {environment : Environment} {access : DomainAccessControl}
      (found : state.environments id = some environment)
      (records : after.environments = EnvironmentTable.set state.environments id
        (some { environment with domainAccess := access }))
      (slots : after.slots = state.slots)

/-- What a request does to the registers and to the active environment, given the environment that
it switches to. -/
inductive RegisterSteps (state : VirtualMemory) :
    Option Environment → SystemRegisters → Option EnvironmentId → Prop
  | kept : RegisterSteps state none state.registers state.active
  | latched (status : DataFaultStatus) (address : VirtualAddress) :
      RegisterSteps state none
        { state.registers with faultStatus := status, faultAddress := address } state.active
  | enabled (off : state.mmuIsOn = false) :
      RegisterSteps state none state.registers.enabled state.active
  | disabled (on : state.mmuIsOn = true) :
      RegisterSteps state none state.registers.disabled none
  | cachesOn : RegisterSteps state none state.registers.withCachesOn state.active
  | cachesOff : RegisterSteps state none state.registers.withCachesOff state.active
  | synced : RegisterSteps state none state.registers.synced state.active
  | switched {id : EnvironmentId} {environment : Environment} {table : TranslationTableBase}
      {context : ContextId} (found : state.environments id = some environment)
      (off : state.mmuIsOn = false)
      (tableOf : TranslationTableBase.ofTable environment.root = .ok table)
      (contextOf : ContextId.forProcess environment.process environment.asid = .ok context) :
      RegisterSteps state (some environment)
        (state.registers.installed environment.domainAccess table context).enabled (some id)

/-- What a request does to everything but the tables. -/
structure ServeSteps (state : VirtualMemory) (request : VirtualMemoryRequest)
    (switched : Option Environment) (after : VirtualMemory) : Prop where
  records : RecordSteps state request after
  registers : RegisterSteps state switched after.registers after.active
  config : after.config = state.config
  capacity : ∀ resource, (after.pool resource).capacity = (state.pool resource).capacity

variable {state after : VirtualMemory} {request : VirtualMemoryRequest} {id : EnvironmentId}
  {environment : Environment} {switched : Option Environment}

/-! ## One request -/

theorem capacity_pool_eq (slots : after.slots.capacity = state.slots.capacity)
    (domains : after.domains.capacity = state.domains.capacity)
    (asids : after.asids.capacity = state.asids.capacity) (resource : EnvironmentResource) :
    (after.pool resource).capacity = (state.pool resource).capacity := by
  cases resource with
  | slot => exact slots
  | domain => exact domains
  | asid => exact asids

theorem ServeSteps.of_tables (state : VirtualMemory) (request : VirtualMemoryRequest)
    (tables : TableMemory BumpHeap) :
    ServeSteps state request none { state with tables := tables } :=
  ⟨.kept rfl fun _ occupied => occupied, .kept, rfl, capacity_pool_eq rfl rfl rfl⟩

/-- Only the registers and the active environment change. -/
theorem ServeSteps.of_registers {registers : SystemRegisters} {active : Option EnvironmentId}
    (request : VirtualMemoryRequest) (steps : RegisterSteps state switched registers active) :
    ServeSteps state request switched { state with registers := registers, active := active } :=
  ⟨.kept rfl fun _ occupied => occupied, steps, rfl, capacity_pool_eq rfl rfl rfl⟩

theorem AllocateSteps.serveSteps {ending : Outcome AllocationError EnvironmentId × VirtualMemory}
    (filed : state.Filed) (steps : AllocateSteps state ending) :
    ServeSteps state .allocate none ending.2 := by
  cases steps with
  | refused effect => exact .of_registers _ .kept
  | noRoot process slots domains asids ended => exact .of_tables _ _ _
  | broken slots domains asids failed =>
      refine ⟨.kept rfl ?_, .kept, rfl, capacity_pool_eq rfl rfl rfl⟩
      exact fun _ => IdentifierPool.getLsbD_take_of_occupied (filed.fits .slot) slots
  | made process slots domains asids ended known =>
      exact ⟨.allocated slots rfl rfl rfl, .kept, rfl, capacity_pool_eq rfl rfl rfl⟩

theorem serveSteps_free (state : VirtualMemory) (id : EnvironmentId) :
    ServeSteps state (.free id) none (state.serve (.free id)) := by
  have steps := freeSteps (ε := Empty) state id
  have final : state.serve (.free id) =
      ((free id : Action VirtualMemory Empty Unit).effect state).2 := rfl
  have succeeds : state.succeeds (.free id) =
      ((free id : Action VirtualMemory Empty Unit).effect state).1.isValue := rfl
  rw [final]
  generalize (free id : Action VirtualMemory Empty Unit).effect state = ending at steps succeeds
  cases steps with
  | corrupted found failed domainsSize asidsSize =>
      exact ⟨.kept rfl fun _ occupied => occupied, .kept, rfl,
        capacity_pool_eq rfl domainsSize asidsSize⟩
  | ended effect =>
      cases effect with
      | missing absent => exact .of_registers _ .kept
      | active running => exact .of_registers _ .kept
      | done found inactive =>
          exact ⟨.freed rfl found succeeds inactive rfl rfl, .kept, rfl,
            capacity_pool_eq rfl rfl rfl⟩

theorem serveSteps_switchTo (state : VirtualMemory) (id : EnvironmentId) :
    ServeSteps state (.switchTo id) (state.switched? (.switchTo id))
      (state.serve (.switchTo id)) := by
  have steps := switchSteps (ε := Empty) state id
  have final : state.serve (.switchTo id) =
      ((switchTo id : Action VirtualMemory Empty Unit).effect state).2 := rfl
  have succeeds : state.succeeds (.switchTo id) =
      ((switchTo id : Action VirtualMemory Empty Unit).effect state).1.isValue := rfl
  rw [final, switched?, succeeds]
  generalize (switchTo id : Action VirtualMemory Empty Unit).effect state = ending at steps
  cases steps with
  | unfit found failed => exact .of_registers _ .kept
  | ended effect =>
      cases effect with
      | missing absent => exact .of_registers _ .kept
      | mmuOn on => exact .of_registers _ .kept
      | done found off tableOf contextOf =>
          have names : (if (Outcome.value () : Outcome Empty Unit).isValue = true then
              state.environments id else none) = some _ := found
          rw [names]
          exact .of_registers _ (.switched found off tableOf contextOf)

/-- Whatever the tables are like, growth changes only them and completes the writes to them. -/
theorem growSteps (page : VirtualAddress) (state : VirtualMemory) :
    ∃ tables, ((growStack page).effect state).2 = { state with tables := tables } ∨
      ((growStack page).effect state).2 =
        { state with registers := state.registers.synced, tables := tables } := by
  unfold growStack
  rw [Action.effect_bind, Action.effect_get]
  dsimp only
  rw [Action.effect_bind]
  rcases state.activeEnvironment? with cause | _ | environment
  · exact ⟨state.tables, .inl rfl⟩
  · exact ⟨state.tables, .inl rfl⟩
  · rw [Action.effect_ofExcept_ok]
    dsimp only
    rw [Action.effect_bind]
    rcases state.addressSpace environment.id with cause | space
    · exact ⟨state.tables, .inl rfl⟩
    · rw [Action.effect_ofExcept_ok]
      dsimp only
      rw [Action.effect_bind]
      rcases isMapped state.memory space page with cause | _ | _
      · exact ⟨state.tables, .inl rfl⟩
      · obtain ⟨tables, mapped⟩ := tables_mapGranule environment.id .page4K page ⟨page.word⟩ .kernel
          state
        simp only [mapGranule] at mapped
        rcases ended : (mapSmallPage environment.id page ⟨page.word⟩ .kernel).effect state with
          ⟨outcome, after⟩
        rw [ended] at mapped
        subst mapped
        refine ⟨tables, ?_⟩
        simp only [Action.effect_ofExcept_ok, Bool.false_eq_true, if_false, Action.effect_bind,
          Action.effect_mapError, ended]
        cases outcome with
        | value descriptor => exact .inr rfl
        | error cause => exact .inl rfl
        | panic cause => exact .inl rfl
      · exact ⟨state.tables, .inl rfl⟩

theorem serveSteps_handleDataAbort (state : VirtualMemory) (pc : Word) :
    ServeSteps state (.handleDataAbort pc) none (state.serve (.handleDataAbort pc)) := by
  have final : state.serve (.handleDataAbort pc) = ((handleDataAbort pc).effect state).2 := rfl
  rw [final, effect_handleDataAbort, Action.effect_mapError_snd]
  cases state.verdict pc with
  | fatal reason => exact .of_registers _ .kept
  | stackGrowth page =>
      obtain ⟨tables, unsynced | synced⟩ := growSteps page state
      · rw [resolve, unsynced]
        exact .of_tables _ _ _
      · rw [resolve, synced]
        exact ⟨.kept rfl fun _ occupied => occupied, .synced, rfl,
          capacity_pool_eq rfl rfl rfl⟩

/-- Whatever is asked, whatever the tables are like, and however it ends. -/
theorem serveSteps (filed : state.Filed) (request : VirtualMemoryRequest) :
    ServeSteps state request (state.switched? request) (state.serve request) := by
  cases request with
  | allocate => exact (allocateSteps filed.fits).serveSteps filed
  | free id => exact serveSteps_free state id
  | switchTo id => exact serveSteps_switchTo state id
  | mmuEnable =>
      have final : state.serve .mmuEnable =
          ((mmuEnable : Action VirtualMemory Empty Unit).effect state).2 := rfl
      rw [final, effect_mmuEnable]
      cases power : state.mmuIsOn with
      | true => exact .of_registers _ .kept
      | false => exact .of_registers _ (.enabled power)
  | mmuDisable =>
      have final : state.serve .mmuDisable =
          ((mmuDisable : Action VirtualMemory Empty Unit).effect state).2 := rfl
      rw [final, effect_mmuDisable]
      cases power : state.mmuIsOn with
      | true => exact .of_registers _ (.disabled power)
      | false => exact .of_registers _ .kept
  | cachesOn => exact .of_registers _ .cachesOn
  | cachesOff => exact .of_registers _ .cachesOff
  | setDomainAccess id access =>
      have final : state.serve (.setDomainAccess id access) =
          ((setDomainAccess id access : Action VirtualMemory Empty Unit).effect state).2 := rfl
      rw [final, effect_setDomainAccess]
      rcases found : state.environments id with _ | environment
      · exact .of_registers _ .kept
      · exact ⟨.granted found rfl rfl, .kept, rfl, capacity_pool_eq rfl rfl rfl⟩
  | map granule id start physical flags =>
      obtain ⟨tables, mapped⟩ := tables_mapGranule id granule start physical flags state
      have final : state.serve (.map granule id start physical flags) =
          ((mapGranule id granule start physical flags).effect state).2 := rfl
      rw [final, mapped]
      exact .of_tables _ _ _
  | recordAbort status address => exact .of_registers _ (.latched status address)
  | handleDataAbort pc => exact serveSteps_handleDataAbort state pc

/-! ## The records over a run -/

theorem Filed.slot_ne (filed : state.Filed) {slot : Nat} (offers : state.slots.Offers slot)
    (found : state.environments id = some environment) : id ≠ ⟨slot⟩ := by
  rintro rfl
  have occupied := filed.occupied found
  rw [offers.free] at occupied
  cases occupied

theorem ServeSteps.filed (steps : ServeSteps state request switched after) (filed : state.Filed) :
    after.Filed := by
  have fits : ∀ resource, (after.pool resource).capacity ≤ IdentifierPool.maxCapacity := by
    intro resource
    rw [steps.capacity]
    exact filed.fits resource
  have records := steps.records
  cases records with
  | kept records slots =>
      refine ⟨fits, fun found => ?_, fun found => ?_⟩
      · rw [records] at found
        exact filed.identified found
      · rw [records] at found
        exact slots _ (filed.occupied found)
  | allocated offers identified records slots =>
      have inBitmap := Nat.lt_of_lt_of_le offers.below (filed.fits .slot)
      refine ⟨fits, fun found => ?_, fun found => ?_⟩
      · rw [records] at found
        rcases EnvironmentTable.of_set_some found with ⟨rfl, rfl⟩ | ⟨-, before⟩
        · exact identified
        · exact filed.identified before
      · rw [records] at found
        rw [slots]
        rcases EnvironmentTable.of_set_some found with ⟨rfl, -⟩ | ⟨-, before⟩
        · rw [IdentifierPool.getLsbD_take inBitmap, decide_eq_true rfl, Bool.or_true]
        · exact IdentifierPool.getLsbD_take_of_occupied (filed.fits .slot) offers
            (filed.occupied before)
  | @freed freedId _ asked owned succeeded inactive records slots =>
      have inBitmap := BitVec.lt_of_getLsbD (filed.occupied owned)
      refine ⟨fits, fun found => ?_, fun {other owner} found => ?_⟩
      · rw [records] at found
        exact filed.identified (EnvironmentTable.of_set_none found).2
      · rw [records] at found
        obtain ⟨different, before⟩ := EnvironmentTable.of_set_none found
        have apart : other.slot ≠ freedId.slot :=
          fun same => different (congrArg EnvironmentId.mk same)
        rw [slots, IdentifierPool.getLsbD_drop inBitmap, filed.occupied before,
          decide_eq_false apart]
        rfl
  | granted owned records slots =>
      refine ⟨fits, fun found => ?_, fun found => ?_⟩
      · rw [records] at found
        rcases EnvironmentTable.of_set_some found with ⟨rfl, rfl⟩ | ⟨-, before⟩
        · have identified := filed.identified owned
          exact identified
        · exact filed.identified before
      · rw [records] at found
        rw [slots]
        rcases EnvironmentTable.of_set_some found with ⟨rfl, -⟩ | ⟨-, before⟩
        · exact filed.occupied owned
        · exact filed.occupied before

/-- A record stays what it is, apart from the domain access, until its environment is freed. -/
theorem ServeSteps.record (steps : ServeSteps state request switched after) (filed : state.Filed)
    (found : state.environments id = some environment) :
    (∃ access, after.environments id = some { environment with domainAccess := access }) ∨
      (request = .free id ∧ state.succeeds request = true ∧ after.active ≠ some id) := by
  have records := steps.records
  cases records with
  | kept records slots =>
      refine .inl ⟨environment.domainAccess, ?_⟩
      rw [records, found]
  | allocated offers identified records slots =>
      refine .inl ⟨environment.domainAccess, ?_⟩
      rw [records, EnvironmentTable.set_of_ne (filed.slot_ne offers found), found]
  | @freed freedId _ asked owned succeeded inactive records slots =>
      by_cases same : id = freedId
      · subst same
        exact .inr ⟨asked, succeeded, inactive⟩
      · refine .inl ⟨environment.domainAccess, ?_⟩
        rw [records, EnvironmentTable.set_of_ne same, found]
  | @granted grantedId owner access owned records slots =>
      by_cases same : id = grantedId
      · subst same
        rw [found] at owned
        cases owned
        refine .inl ⟨access, ?_⟩
        rw [records, EnvironmentTable.set_self]
      · refine .inl ⟨environment.domainAccess, ?_⟩
        rw [records, EnvironmentTable.set_of_ne same, found]

theorem Filed.after_serveAll (filed : state.Filed) (requests : List VirtualMemoryRequest) :
    (state.serveAll requests).Filed := by
  induction requests generalizing state with
  | nil => exact filed
  | cons request later ih => exact ih ((serveSteps filed request).filed filed)

theorem filed_init {tables : TableMemory BumpHeap} {config : VirtualMemoryConfig}
    {registers final : SystemRegisters}
    (accepted : (VirtualMemory.init tables config :
      Action SystemRegisters Empty VirtualMemory).effect registers = (.value state, final)) :
    state.Filed := by
  obtain ⟨-, slots, domains, asids, slotsMade, domainsMade, asidsMade, rfl⟩ := of_init accepted
  have fits : ∀ {reserved capacity pool}, IdentifierPool.create reserved capacity = .ok pool →
      pool.capacity ≤ IdentifierPool.maxCapacity := by
    intro reserved capacity pool created
    obtain ⟨-, inBitmap, same, -⟩ := IdentifierPool.create_eq_ok created
    rw [same]
    exact inBitmap
  refine ⟨fun resource => ?_, fun impossible => ?_, fun impossible => ?_⟩
  · cases resource with
    | slot => exact fits slotsMade
    | domain => exact fits domainsMade
    | asid => exact fits asidsMade
  · cases impossible
  · cases impossible

end Armv6Kernel.VirtualMemory
