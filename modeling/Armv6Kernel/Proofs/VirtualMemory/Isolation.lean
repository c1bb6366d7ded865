import Armv6Kernel.Proofs.AddressSpace.Filling
import Armv6Kernel.Proofs.Fault.Pipeline

/-!
# Environments do not disturb each other

The tables of all environments lie in one memory.  A request concerns the environment that it names,
or the one whose stack it makes grow.  The record of any other environment, the words of its tables
and what its addresses translate to are the same afterwards, and a new environment translates
nothing.
-/

namespace Armv6Kernel

/-- The environment that a request names. -/
def VirtualMemoryRequest.named? : VirtualMemoryRequest → Option EnvironmentId
  | free id => some id
  | switchTo id => some id
  | setDomainAccess id _ => some id
  | map _ id _ _ _ => some id
  | _ => none

namespace VirtualMemory

/-- The request has an abort handled, and the stack of the environment grows. -/
def GrowsStack (state : VirtualMemory) (request : VirtualMemoryRequest) (id : EnvironmentId) :
    Prop :=
  ∃ pc page descriptor, request = .handleDataAbort pc ∧ state.active = some id ∧
    ((handleDataAbort pc).run state).outcome = .value (.stackGrown page descriptor)

/-- The request may change the environment. -/
def Concerns (state : VirtualMemory) (request : VirtualMemoryRequest) (id : EnvironmentId) :
    Prop :=
  request.named? = some id ∨ state.GrowsStack request id

/-- What a request can do to the records and the tables. -/
inductive ServeEffect (state : VirtualMemory) (request : VirtualMemoryRequest)
    (after : VirtualMemory) : Prop
  | idle (records : after.environments = state.environments) (tables : after.tables = state.tables)
  | recorded {id : EnvironmentId} (named : request.named? = some id)
      (others : ∀ other ≠ id, after.environments other = state.environments other)
      (fewer : after.liveSpaces ⊆ state.liveSpaces) (tables : after.tables = state.tables)
  | allocated {slot domain asid : Nat} (grants : state.Grants slot domain asid)
      (made : after = state.afterAllocate slot domain asid)
  | mapped {id : EnvironmentId} {environment : Environment} {granule : Granule}
      {start : VirtualAddress} {physical : PhysicalAddress} {flags : MapFlags}
      {descriptor : Descriptor (.mapping granule)} (concerns : state.Concerns request id)
      (found : state.environments id = some environment)
      (records : after.environments = state.environments)
      (ended : (environment.space.mapGranule granule start physical environment.domain
        flags).effect state.tables = (.value descriptor, after.tables))

/-- The record of an environment, the words of its tables and its translations are as before. -/
structure LeavesAlone (after before : VirtualMemory) (id : EnvironmentId)
    (environment : Environment) : Prop where
  record : after.environments id = some environment
  words : environment.space.Untouched after.memory before.memory
  translations : ∀ address, after.translate id address = before.translate id address

variable {state after : VirtualMemory} {request : VirtualMemoryRequest} {id : EnvironmentId}
  {environment : Environment}

/-! ## What a request does -/

theorem AllocateEffect.serveEffect {ending : Outcome AllocationError EnvironmentId × VirtualMemory}
    (effect : AllocateEffect state ending) : ServeEffect state request ending.2 := by
  cases effect with
  | made grants => exact .allocated grants rfl
  | _ => exact .idle rfl rfl

theorem FreeEffect.serveEffect {ε : Type} {ending : Outcome ε Unit × VirtualMemory}
    (effect : FreeEffect state id ending) : ServeEffect state (.free id) ending.2 := by
  cases effect with
  | missing absent => exact .idle rfl rfl
  | active running => exact .idle rfl rfl
  | done found inactive =>
      exact .recorded rfl (fun other different => EnvironmentTable.set_of_ne different _)
        (liveSpaces_afterFree state id _) rfl

theorem SwitchEffect.serveEffect {ε : Type} {ending : Outcome ε Unit × VirtualMemory}
    (effect : SwitchEffect state id ending) : ServeEffect state request ending.2 := by
  cases effect <;> exact .idle rfl rfl

theorem serveEffect_setDomainAccess (found : state.environments id = some environment)
    (access : DomainAccessControl) :
    ServeEffect state (.setDomainAccess id access)
      (setEnvironment id (some { environment with domainAccess := access }) state) :=
  .recorded rfl (fun _ different => EnvironmentTable.set_of_ne different _)
    (Consistent.liveSpaces_setDomainAccess found access) rfl

theorem serveEffect_map (consistent : state.Consistent) (granule : Granule) (id : EnvironmentId)
    (start : VirtualAddress) (physical : PhysicalAddress) (flags : MapFlags) :
    ServeEffect state (.map granule id start physical flags)
      ((mapGranule id granule start physical flags).effect state).2 := by
  rcases found : state.environments id with _ | environment
  · rw [effect_mapGranule_of_none found]
    exact .idle rfl rfl
  · have ending := mapEffect_mapGranule consistent.sound (Consistent.mem_liveSpaces found) granule
      start physical environment.domain flags
    rw [effect_mapGranule consistent found]
    rcases ended : (environment.space.mapGranule granule start physical environment.domain
      flags).effect state.tables with ⟨outcome, tables⟩
    rw [ended] at ending
    cases ending with
    | installed accepts room source sound maps => exact .mapped (.inl rfl) found rfl ended
    | outOfMemory accepts needed full => exact .idle rfl rfl
    | refused rejects => exact .idle rfl rfl

theorem serveEffect_handleDataAbort (consistent : state.Consistent) (pc : Word) :
    ServeEffect state (.handleDataAbort pc) ((handleDataAbort pc).effect state).2 := by
  have sorted := sorted_verdict state pc
  have effect := effect_handleDataAbort pc state
  rw [Action.effect_mapError] at effect
  generalize state.verdict pc = verdict at sorted effect
  cases sorted with
  | growth trusted nonzero window =>
      have growth := growEffect consistent state.isAligned_faultPage
      rw [resolve] at effect
      generalize (growStack state.faultPage).effect state = ending at effect growth
      cases growth with
      | @grown id environment descriptor tables active found room source sound maps ended =>
          have grows : state.GrowsStack (.handleDataAbort pc) id :=
            ⟨pc, state.faultPage, descriptor, rfl, active, congrArg Prod.fst effect⟩
          rw [effect]
          exact .mapped (.inr grows) found rfl ended
      | _ =>
          rw [effect]
          exact .idle rfl rfl
  | _ =>
      rw [effect]
      exact .idle rfl rfl

/-- Whatever is asked of a consistent state, and however it ends. -/
theorem serveEffect (consistent : state.Consistent) (request : VirtualMemoryRequest) :
    ServeEffect state request (state.serve request) := by
  cases request with
  | allocate => exact (allocateEffect consistent).serveEffect
  | free id => exact (freeEffect consistent id).serveEffect
  | switchTo id => exact (switchEffect consistent id).serveEffect
  | mmuEnable =>
      change ServeEffect state _ ((VirtualMemory.mmuEnable :
        Action VirtualMemory Empty Unit).effect state).2
      rw [effect_mmuEnable]
      split <;> exact .idle rfl rfl
  | mmuDisable =>
      change ServeEffect state _ ((VirtualMemory.mmuDisable :
        Action VirtualMemory Empty Unit).effect state).2
      rw [effect_mmuDisable]
      split <;> exact .idle rfl rfl
  | cachesOn => exact .idle rfl rfl
  | cachesOff => exact .idle rfl rfl
  | setDomainAccess id access =>
      change ServeEffect state _ ((VirtualMemory.setDomainAccess id access :
        Action VirtualMemory Empty Unit).effect state).2
      rw [effect_setDomainAccess]
      rcases found : state.environments id with _ | environment
      · exact .idle rfl rfl
      · exact serveEffect_setDomainAccess found access
  | map granule id start physical flags =>
      exact serveEffect_map consistent granule id start physical flags
  | recordAbort status address => exact .idle rfl rfl
  | handleDataAbort pc => exact serveEffect_handleDataAbort consistent pc

/-! ## What it leaves alone -/

theorem ServeEffect.record_eq (effect : ServeEffect state request after)
    (consistent : state.Consistent) (found : state.environments id = some environment)
    (unconcerned : ¬ state.Concerns request id) : after.environments id = some environment := by
  cases effect with
  | idle records tables => rw [records, found]
  | @recorded owner named others fewer tables =>
      have different : id ≠ owner := by
        rintro rfl
        exact unconcerned (.inl named)
      rw [others id different, found]
  | @allocated slot domain asid grants made =>
      have vacant := consistent.vacant_of_free grants.slot.free
      have different : id ≠ ⟨slot⟩ := by
        rintro rfl
        rw [vacant] at found
        cases found
      rw [made]
      exact (EnvironmentTable.set_of_ne different _).trans found
  | mapped concerns owned records ended => rw [records, found]

theorem Consistent.space_ne (consistent : state.Consistent) {other : EnvironmentId}
    {owner : Environment} (found : state.environments id = some environment)
    (otherFound : state.environments other = some owner) (different : id ≠ other) :
    environment.space ≠ owner.space := fun same =>
  different (consistent.rootsApart found otherFound (congrArg AddressSpace.root same))

theorem ServeEffect.untouched (effect : ServeEffect state request after)
    (consistent : state.Consistent) (found : state.environments id = some environment)
    (unconcerned : ¬ state.Concerns request id) :
    environment.space.Untouched after.memory state.memory := by
  have member := Consistent.mem_liveSpaces found
  have same : after.tables = state.tables →
      environment.space.Untouched after.memory state.memory := by
    intro tables
    have memories : after.memory = state.memory := congrArg TableMemory.memory tables
    rw [memories]
    exact ⟨fun _ => rfl, fun _ _ _ _ => rfl⟩
  cases effect with
  | idle records tables => exact same tables
  | recorded named others fewer tables => exact same tables
  | allocated grants made =>
      rw [made]
      exact consistent.sound.forest.untouched_of_agree
        (TableMemory.agree_afterRoot grants.room) member
  | @mapped other owner _ _ _ _ _ concerns owned records ended =>
      have different : id ≠ other := by
        rintro rfl
        exact unconcerned concerns
      have ownedMember := Consistent.mem_liveSpaces owned
      have installs := installs_mapGranule consistent.sound ownedMember ended
      exact (installs.fillsOnly consistent.sound ownedMember).untouched member
        (consistent.space_ne found owned different)

theorem Consistent.leavesAlone (consistent : state.Consistent)
    (found : state.environments id = some environment)
    (unconcerned : ¬ state.Concerns request id) :
    (state.serve request).LeavesAlone state id environment := by
  have effect := serveEffect consistent request
  have record := effect.record_eq consistent found unconcerned
  have words := effect.untouched consistent found unconcerned
  refine ⟨record, words, fun address => ?_⟩
  rw [(consistent.after_serve request).translate_eq record, consistent.translate_eq found,
    words.target_eq]

theorem Consistent.translate_allocate (consistent : state.Consistent)
    (allocated : (allocate.run state).outcome = .value id) (address : VirtualAddress) :
    (state.serve .allocate).translate id address = .ok none := by
  have afterwards : (state.serve .allocate).Consistent := consistent.after_serve .allocate
  have effect := allocateEffect consistent
  have outcome : (allocate.effect state).1 = .value id := allocated
  have final : state.serve .allocate = (allocate.effect state).2 := rfl
  rw [final] at afterwards ⊢
  generalize allocate.effect state = ending at effect outcome afterwards
  cases effect with
  | @made slot domain asid grants =>
      cases outcome
      have recorded : (state.afterAllocate slot domain asid).environments ⟨slot⟩ =
          some (state.nextEnvironment slot domain asid) :=
        EnvironmentTable.set_self _ _ _
      rw [afterwards.translate_eq recorded]
      exact congrArg Except.ok (state.tables.target_nextSpace address)
  | _ => cases outcome

/-- From every reachable state, a request leaves alone all environments that it does not concern,
and a new environment translates no address, whatever has lived in its place before. -/
theorem Reachable.isolates_serve (reachable : Reachable state) :
    (∀ request id environment, state.environments id = some environment →
      ¬ state.Concerns request id → (state.serve request).LeavesAlone state id environment) ∧
    ∀ id, (allocate.run state).outcome = .value id → ∀ address,
      (state.serve .allocate).translate id address = .ok none :=
  ⟨fun _ _ _ => reachable.consistent.leavesAlone,
    fun _ => reachable.consistent.translate_allocate⟩

/-- The first of two environments is retired and a third one gets its slot, its domain and its
address space identifier.  It does not see the page of the first, and the second one keeps its
own. -/
theorem isolates_serve_reusedSlot :
    let state := (((smallMachine.serve .allocate).serve .allocate).serve
      (.map .page4K ⟨0⟩ ⟨0x200000⟩ ⟨0x500000⟩ .kernel)).serve
        (.map .page4K ⟨1⟩ ⟨0x200000⟩ ⟨0x600000⟩ .kernel)
    let retired := state.serve (.free ⟨0⟩)
    let renewed := retired.serve .allocate
    let second : Environment := ⟨⟨1⟩, 2, ⟨2⟩, 2, .only ⟨2⟩ .client, ⟨0x144000⟩⟩
    state.environments ⟨0⟩ = some ⟨⟨0⟩, 1, ⟨1⟩, 1, .only ⟨1⟩ .client, ⟨0x140000⟩⟩ ∧
      renewed.environments ⟨0⟩ = some ⟨⟨0⟩, 3, ⟨1⟩, 1, .only ⟨1⟩ .client, ⟨0x14c000⟩⟩ ∧
      state.translate ⟨0⟩ ⟨0x200000⟩ = .ok (some ⟨0x500000⟩) ∧
      (∀ address, renewed.translate ⟨0⟩ address = .ok none) ∧
      renewed.LeavesAlone retired ⟨1⟩ second ∧
      renewed.translate ⟨1⟩ ⟨0x200000⟩ = .ok (some ⟨0x600000⟩) := by
  intro state retired renewed second
  have reachable : Reachable retired :=
    ((((reachable_smallMachine.serve .allocate).serve .allocate).serve _).serve _).serve _
  have live : retired.environments ⟨1⟩ = some second := by decide +kernel
  have unconcerned : ¬ retired.Concerns .allocate ⟨1⟩ := by
    rintro (named | ⟨pc, page, descriptor, impossible, -⟩)
    · cases named
    · cases impossible
  have isolates := reachable.isolates_serve
  exact ⟨by decide +kernel, by decide +kernel, by decide +kernel,
    isolates.2 ⟨0⟩ (by decide +kernel), isolates.1 .allocate ⟨1⟩ second live unconcerned,
    by decide +kernel⟩

end VirtualMemory

end Armv6Kernel
