import Armv6Kernel.Proofs.VirtualMemory.Atomicity
import Armv6Kernel.Proofs.VirtualMemory.Isolation

/-!
# Which mappings are made visible

The processor walks the tables of the active environment in memory, past the data cache.  A
descriptor written there counts only after the cache has been cleaned and a barrier has waited for
it.  The growth of the stack ends with these two steps; the requests that map a granule are carried
out in the same tables and end without them.
-/

namespace Armv6Kernel.VirtualMemory

/-- Some address of an environment translates after a request and did not before. -/
def AddsMapping (state : VirtualMemory) (request : VirtualMemoryRequest) (id : EnvironmentId) :
    Prop :=
  ∃ address target, state.translate id address = .ok none ∧
    (state.serve request).translate id address = .ok (some target)

/-- The last that a request does to the registers is to clean the data cache and to wait. -/
def Publishes (state : VirtualMemory) (request : VirtualMemoryRequest) : Prop :=
  ∃ events, (state.serve request).registers.history =
    state.registers.history ++ (events ++ [.cleanInvalidateDataCache, .barrier])

/-- The request that maps the page of the recorded address as growth does. -/
def growthMapping (state : VirtualMemory) (id : EnvironmentId) : VirtualMemoryRequest :=
  .map .page4K id state.faultPage (identity state.faultPage) .kernel

/-- Which requests add a mapping to the environment that runs, and which of them make it visible. -/
structure PublishesGrowth (state : VirtualMemory) (id : EnvironmentId) : Prop where
  adds_iff : ∀ request, state.AddsMapping request id ↔ state.succeeds request = true ∧
    ((∃ granule start physical flags, request = .map granule id start physical flags) ∨
      ∃ pc, request = .handleDataAbort pc)
  publishes_iff : ∀ request, state.AddsMapping request id →
    (state.Publishes request ↔ ∃ pc, request = .handleDataAbort pc)
  /-- A mapping that is asked for does nothing to the registers. -/
  silent : ∀ granule start physical flags,
    (state.serve (.map granule id start physical flags)).registers = state.registers
  /-- Growth is such a mapping, and after it the cache is cleaned. -/
  growth : ∀ pc, state.succeeds (.handleDataAbort pc) = true →
    state.serve (.handleDataAbort pc) =
      ((onRegisters Mmu.syncTables : Action VirtualMemory Empty Unit).effect
        (state.serve (state.growthMapping id))).2

variable {state : VirtualMemory} {id : EnvironmentId} {environment : Environment}
  {request : VirtualMemoryRequest}

theorem registers_serve_map (state : VirtualMemory) (id : EnvironmentId) (granule : Granule)
    (start : VirtualAddress) (physical : PhysicalAddress) (flags : MapFlags) :
    (state.serve (.map granule id start physical flags)).registers = state.registers := by
  obtain ⟨tables, mapped⟩ := tables_mapGranule id granule start physical flags state
  have final : state.serve (.map granule id start physical flags) =
      ((mapGranule id granule start physical flags).effect state).2 := rfl
  rw [final, mapped]

/-- A request after which the history is the same has not published anything. -/
theorem not_publishes_of_registers
    (same : (state.serve request).registers = state.registers) : ¬ state.Publishes request := by
  rintro ⟨events, history⟩
  have longer := congrArg List.length history
  simp only [same, List.length_append, List.length_cons, List.length_nil] at longer
  omega

/-! ## Growth -/

/-- Growth leaves what the mapping of the page leaves, with the cache cleaned after it. -/
theorem Consistent.growth_eq (consistent : state.Consistent) (active : state.active = some id)
    {pc : Word} (succeeded : state.succeeds (.handleDataAbort pc) = true) :
    state.serve (.handleDataAbort pc) =
      ((onRegisters Mmu.syncTables : Action VirtualMemory Empty Unit).effect
        (state.serve (state.growthMapping id))).2 := by
  have ended : ((handleDataAbort pc).effect state).1.isValue = true := succeeded
  have final : state.serve (.handleDataAbort pc) = ((handleDataAbort pc).effect state).2 := rfl
  have sorted := sorted_verdict state pc
  rw [final]
  rw [effect_handleDataAbort, Action.effect_mapError] at ended ⊢
  generalize state.verdict pc = verdict at sorted ended ⊢
  cases sorted with
  | growth trusted nonzero window =>
      rw [resolve] at ended ⊢
      have growth := growEffect consistent state.isAligned_faultPage
      generalize (growStack state.faultPage).effect state = ending at ended growth ⊢
      cases growth with
      | @grown running environment descriptor tables current found room source sound maps mapped =>
          have same : running = id := Option.some.inj (current.symm.trans active)
          subst same
          have leaves : state.serve (state.growthMapping running) =
              { state with tables := tables } := by
            change ((mapGranule running .page4K state.faultPage (identity state.faultPage)
              .kernel).effect state).2 = _
            rw [effect_mapGranule consistent found, mapped]
          rw [leaves]
          rfl
      | _ => cases ended
  | _ => cases ended

/-! ## Which requests add a mapping -/

/-- A mapping that is carried out covers an address that was free. -/
theorem Consistent.addsMapping_of_map (consistent : state.Consistent) {granule : Granule}
    {start : VirtualAddress} {physical : PhysicalAddress} {flags : MapFlags}
    (succeeded : state.succeeds (.map granule id start physical flags) = true) :
    state.AddsMapping (.map granule id start physical flags) id := by
  have afterwards := consistent.after_serve (.map granule id start physical flags)
  have ended : ((mapGranule id granule start physical flags).effect state).1.isValue = true :=
    succeeded
  have final : state.serve (.map granule id start physical flags) =
      ((mapGranule id granule start physical flags).effect state).2 := rfl
  rcases found : state.environments id with _ | environment
  · rw [effect_mapGranule_of_none found] at ended
    cases ended
  · have member := Consistent.mem_liveSpaces found
    have effect := mapEffect_mapGranule consistent.sound member granule start physical
      environment.domain flags
    rw [effect_mapGranule consistent found] at ended final
    generalize (environment.space.mapGranule granule start physical environment.domain
      flags).effect state.tables = ending at effect ended final
    cases effect with
    | installed accepts room source sound maps =>
        have covers : granule.Covers start start := granule.covers_self start
        obtain ⟨target, translated, -⟩ := maps.inside start covers
        have still : (state.serve (.map granule id start physical flags)).environments id =
            some environment := by
          rw [final]
          exact found
        refine ⟨start, target, ?_, ?_⟩
        · rw [consistent.translate_eq found]
          exact congrArg Except.ok (maps.free start covers)
        · rw [afterwards.translate_eq still, final]
          exact congrArg Except.ok translated
    | outOfMemory accepts needed full => cases ended
    | refused rejects => cases ended

theorem Consistent.addsMapping_of_growth (consistent : state.Consistent)
    (active : state.active = some id) {pc : Word}
    (succeeded : state.succeeds (.handleDataAbort pc) = true) :
    state.AddsMapping (.handleDataAbort pc) id := by
  have handled := consistent.handlesAbort pc
  have ended : ((handleDataAbort pc).effect state).1.isValue = true := succeeded
  rcases outcome : ((handleDataAbort pc).effect state).1 with ⟨page, descriptor⟩ | fault | cause
  · obtain ⟨running, current, grew⟩ := handled.grown page descriptor outcome
    have same : running = id := Option.some.inj (current.symm.trans active)
    subst same
    have covers : Granule.page4K.Covers page page := Granule.page4K.covers_self page
    exact ⟨page, identity page, grew.unmapped page covers, grew.mapped page covers⟩
  · rw [outcome] at ended
    cases ended
  · rw [outcome] at ended
    cases ended

theorem Consistent.translate_setDomainAccess (consistent : state.Consistent)
    (found : state.environments id = some environment) (access : DomainAccessControl)
    (address : VirtualAddress) :
    (state.serve (.setDomainAccess id access)).translate id address =
      state.translate id address := by
  have final : state.serve (.setDomainAccess id access) =
      setEnvironment id (some { environment with domainAccess := access }) state := by
    change ((setDomainAccess id access : Action VirtualMemory Empty Unit).effect state).2 = _
    rw [effect_setDomainAccess, found]
  have recorded := EnvironmentTable.set_self state.environments id
    (some { environment with domainAccess := access })
  rw [final, (consistent.of_domainAccess found access).translate_eq recorded,
    consistent.translate_eq found]
  rfl

/-- A request that fails leaves no address that translates anew. -/
theorem AddsMapping.succeeds (adds : state.AddsMapping request id)
    (whole : state.AllOrNothing request) : state.succeeds request = true := by
  obtain ⟨address, target, before, after⟩ := adds
  by_contra failed
  rw [whole.failed (Bool.eq_false_iff.mpr failed), before] at after
  cases after

/-- Only a mapping that is asked for, or growth, can add a mapping to the environment that runs. -/
theorem Consistent.succeeds_of_addsMapping (consistent : state.Consistent)
    (on : state.mmuIsOn = true) (active : state.active = some id)
    (adds : state.AddsMapping request id) :
    state.succeeds request = true ∧
      ((∃ granule start physical flags, request = .map granule id start physical flags) ∨
        ∃ pc, request = .handleDataAbort pc) := by
  obtain ⟨environment, found⟩ := consistent.activeLive active
  -- What the request does not concern translates as before; of the requests that name the
  -- environment, freeing it and switching to it are refused while it runs.
  by_cases concerned : state.Concerns request id
  · rcases concerned with named | ⟨pc, page, descriptor, rfl, -⟩
    · cases request with
      | free other =>
          cases named
          have whole : state.AllOrNothing (.free id) :=
            (freeEffect (ε := Empty) consistent id).guarded.allOrNothing rfl rfl
          have inactive := (whole.succeeds_iff.mp (adds.succeeds whole)).2
          exact absurd active inactive
      | switchTo other =>
          have whole : state.AllOrNothing (.switchTo other) :=
            (switchEffect (ε := Empty) consistent other).guarded.allOrNothing rfl rfl
          have off : state.mmuIsOn = false := (whole.succeeds_iff.mp (adds.succeeds whole)).2
          rw [on] at off
          cases off
      | setDomainAccess other access =>
          cases named
          obtain ⟨address, target, before, after⟩ := adds
          rw [consistent.translate_setDomainAccess found, before] at after
          cases after
      | map granule other start physical flags =>
          cases named
          have whole : state.AllOrNothing (.map granule id start physical flags) :=
            (guarded_mapGranule consistent granule id start physical flags).allOrNothing rfl rfl
          exact ⟨adds.succeeds whole, .inl ⟨granule, start, physical, flags, rfl⟩⟩
      | _ => cases named
    · have handled := consistent.handlesAbort pc
      have whole : state.AllOrNothing (.handleDataAbort pc) :=
        (handled.answer.guarded handled.failed).allOrNothing rfl rfl
      exact ⟨adds.succeeds whole, .inr ⟨pc, rfl⟩⟩
  · have alone := consistent.leavesAlone found concerned
    obtain ⟨address, target, before, after⟩ := adds
    rw [alone.translations, before] at after
    cases after

/-- In every reachable state with the MMU on, exactly the mappings that are asked for and growth add
to the environment that runs, and of these growth alone is made visible to the processor. -/
theorem Reachable.publishesGrowth_serve (reachable : Reachable state) (on : state.mmuIsOn = true)
    (active : state.active = some id) : state.PublishesGrowth id := by
  have consistent := reachable.consistent
  have growth : ∀ pc, state.succeeds (.handleDataAbort pc) = true →
      state.serve (.handleDataAbort pc) =
        ((onRegisters Mmu.syncTables : Action VirtualMemory Empty Unit).effect
          (state.serve (state.growthMapping id))).2 :=
    fun _ succeeded => consistent.growth_eq active succeeded
  refine ⟨fun request => ⟨consistent.succeeds_of_addsMapping on active, ?_⟩, fun request adds => ?_,
    registers_serve_map state id, growth⟩
  · rintro ⟨succeeded, ⟨granule, start, physical, flags, rfl⟩ | ⟨pc, rfl⟩⟩
    · exact consistent.addsMapping_of_map succeeded
    · exact consistent.addsMapping_of_growth active succeeded
  · obtain ⟨succeeded, ⟨granule, start, physical, flags, rfl⟩ | ⟨pc, rfl⟩⟩ :=
      consistent.succeeds_of_addsMapping on active adds
    · have silent := registers_serve_map state id granule start physical flags
      refine ⟨fun publishes => absurd publishes (not_publishes_of_registers silent), ?_⟩
      rintro ⟨pc, impossible⟩
      cases impossible
    · refine ⟨fun _ => ⟨pc, rfl⟩, fun _ => ⟨[], ?_⟩⟩
      have silent := registers_serve_map state id .page4K state.faultPage
        (identity state.faultPage) .kernel
      rw [growth pc succeeded, List.nil_append, ← silent]
      simp [onRegisters, Mmu.effect_syncTables, SystemRegisters.synced, growthMapping]

/-- An environment runs when a page is mapped in it and its stack then grows by another. -/
theorem publishesGrowth_serve_smallMachine :
    let state := ((smallMachine.serve .allocate).serve (.switchTo ⟨0⟩)).serve
      (.recordAbort (.ofParts 0b00111 0 true) ⟨0x301004⟩)
    let map : VirtualMemoryRequest := .map .page4K ⟨0⟩ ⟨0x500000⟩ ⟨0x500000⟩ .kernel
    state.mmuIsOn = true ∧ state.active = some ⟨0⟩ ∧ state.PublishesGrowth ⟨0⟩ ∧
      state.AddsMapping map ⟨0⟩ ∧ ¬ state.Publishes map ∧
      (state.serve map).registers.history = state.registers.history ∧
      state.AddsMapping (.handleDataAbort 0x8040) ⟨0⟩ ∧
      state.Publishes (.handleDataAbort 0x8040) := by
  intro state map
  have reachable : Reachable state := ((reachable_smallMachine.serve _).serve _).serve _
  have on : state.mmuIsOn = true := by decide +kernel
  have active : state.active = some ⟨0⟩ := by decide +kernel
  have publishes := reachable.publishesGrowth_serve on active
  have mapped : state.AddsMapping map ⟨0⟩ :=
    (publishes.adds_iff map).mpr ⟨by decide +kernel, .inl ⟨_, _, _, _, rfl⟩⟩
  have grown : state.AddsMapping (.handleDataAbort 0x8040) ⟨0⟩ :=
    (publishes.adds_iff _).mpr ⟨by decide +kernel, .inr ⟨_, rfl⟩⟩
  have hidden : ¬ state.Publishes map := by
    rw [publishes.publishes_iff map mapped]
    simp [map]
  exact ⟨on, active, publishes, mapped, hidden,
    congrArg SystemRegisters.history (publishes.silent _ _ _ _), grown,
    (publishes.publishes_iff _ grown).mpr ⟨_, rfl⟩⟩

end Armv6Kernel.VirtualMemory
