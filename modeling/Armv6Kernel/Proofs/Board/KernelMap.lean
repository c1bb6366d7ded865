import Armv6Kernel.Proofs.Board.BringUp
import Armv6Kernel.Proofs.VirtualMemory.Allocation
import Armv6Kernel.Proofs.VirtualMemory.Layout

/-!
# The map of the kernel

The sections and the stack pages of the kernel are a plan that is carried out in a new environment,
whatever other environments there are.  So the kernel's environment translates exactly its own parts
of memory, onto themselves, and the only thing that can be missing after the allocation is a table
for the stack pages.
-/

namespace Armv6Kernel

namespace VirtualMemory

/-! ## The plan -/

def planOfSection (region : IdentitySection) : PlannedMapping :=
  ⟨.section1M, .ofNat region.base, .ofNat region.base, region.flags⟩

def planOfPage (page : Nat) : PlannedMapping :=
  ⟨.page4K, .ofNat page, .ofNat page, .kernel⟩

def sectionPlan : List PlannedMapping :=
  identitySections.map planOfSection

def stackPlan : List PlannedMapping :=
  initialStack.map planOfPage

def kernelPlan : List PlannedMapping :=
  sectionPlan ++ stackPlan

/-- The device registers that the kernel maps. -/
def InPeripherals (address : VirtualAddress) : Prop :=
  (0x20000000 ≤ address.toNat ∧ address.toNat < 0x20100000) ∨
    (0x20200000 ≤ address.toNat ∧ address.toNat < 0x20300000)

/-- What the kernel maps: the low three MiB, the top of its stack and the device registers. -/
def InKernelMap (address : VirtualAddress) : Prop :=
  address.toNat < 0x300000 ∨ (0x3FC000 ≤ address.toNat ∧ address.toNat < 0x400000) ∨
    InPeripherals address

instance (address : VirtualAddress) : Decidable (InPeripherals address) :=
  inferInstanceAs (Decidable (_ ∨ _))

instance (address : VirtualAddress) : Decidable (InKernelMap address) :=
  inferInstanceAs (Decidable (_ ∨ _))

theorem feasible_kernelPlan : Feasible kernelPlan where
  placed := by
    unfold Misplaced
    decide
  apart := by decide

theorem kernelPlan_eq : kernelPlan = [
    ⟨.section1M, ⟨0x0⟩, ⟨0x0⟩, .kernel⟩, ⟨.section1M, ⟨0x100000⟩, ⟨0x100000⟩, .kernel⟩,
    ⟨.section1M, ⟨0x200000⟩, ⟨0x200000⟩, .kernel⟩,
    ⟨.section1M, ⟨0x20000000⟩, ⟨0x20000000⟩, .device⟩,
    ⟨.section1M, ⟨0x20200000⟩, ⟨0x20200000⟩, .device⟩,
    ⟨.page4K, ⟨0x3FF000⟩, ⟨0x3FF000⟩, .kernel⟩, ⟨.page4K, ⟨0x3FE000⟩, ⟨0x3FE000⟩, .kernel⟩,
    ⟨.page4K, ⟨0x3FD000⟩, ⟨0x3FD000⟩, .kernel⟩, ⟨.page4K, ⟨0x3FC000⟩, ⟨0x3FC000⟩, .kernel⟩] :=
  rfl

theorem flags_kernel : MapFlags.kernel.asked.cacheable = true ∧
    MapFlags.kernel.asked.bufferable = true := by
  decide

theorem flags_device : MapFlags.device.asked.executeNever = true ∧
    MapFlags.device.asked.cacheable = false ∧ MapFlags.device.asked.bufferable = false := by
  decide

variable {address : VirtualAddress} {planned : PlannedMapping}

theorem exists_kernelPlan_covers_iff :
    (∃ planned ∈ kernelPlan, planned.Covers address) ↔ InKernelMap address := by
  simp only [kernelPlan_eq, List.exists_mem_cons_iff, List.not_mem_nil, false_and, exists_false,
    PlannedMapping.Covers, Granule.Covers, Granule.bytes, Address.toNat, BitVec.ofNat_eq_ofNat,
    BitVec.toNat_ofNat, or_false, InKernelMap, InPeripherals]
  omega

theorem kernelPlan_identity : ∀ planned ∈ kernelPlan,
    planned.physical = identity planned.start := by
  decide

/-- Every part of the plan is ordinary memory or a section of device registers. -/
theorem kernelPlan_cases : ∀ planned ∈ kernelPlan, planned.flags = .kernel ∨
    planned = ⟨.section1M, ⟨0x20000000⟩, ⟨0x20000000⟩, .device⟩ ∨
    planned = ⟨.section1M, ⟨0x20200000⟩, ⟨0x20200000⟩, .device⟩ := by
  decide

theorem covers_device_of_inPeripherals (inside : InPeripherals address) :
    ∃ base, (⟨.section1M, ⟨base⟩, ⟨base⟩, .device⟩ : PlannedMapping) ∈ kernelPlan ∧
      Granule.section1M.Covers ⟨base⟩ address := by
  rcases inside with low | high
  · exact ⟨0x20000000, by decide, low⟩
  · exact ⟨0x20200000, by decide, high⟩

theorem flags_of_not_inPeripherals (listed : planned ∈ kernelPlan)
    (covers : planned.Covers address) (outside : ¬ InPeripherals address) :
    planned.flags = .kernel := by
  rcases kernelPlan_cases planned listed with ordinary | rfl | rfl
  · exact ordinary
  · exact absurd (.inl covers) outside
  · exact absurd (.inr covers) outside

theorem eq_identity_of_leads (listed : planned ∈ kernelPlan) (covers : planned.Covers address)
    {target : PhysicalAddress} (leads : planned.Leads address target) :
    target = identity address := by
  apply Address.eq_of_toNat_eq
  have above := covers.1
  have start : planned.physical.toNat = planned.start.toNat := by
    rw [kernelPlan_identity planned listed]
    rfl
  have place : (identity address).toNat = address.toNat := rfl
  rw [leads, place, start]
  omega

/-! ## Carrying it out -/

variable {state before after : VirtualMemory} {id : EnvironmentId} {environment : Environment}
  {plan : List PlannedMapping}

theorem performs_mapIdentitySection (id : EnvironmentId) (region : IdentitySection) :
    Performs (mapIdentitySection id region) id (planOfSection region) where
  value := by
    intro state after descriptor consistent mapped
    have section1M : (mapSection id (.ofNat region.base) (.ofNat region.base) region.flags :
        Action VirtualMemory AllocationError SectionDescriptor).effect state =
          (.value descriptor, after) :=
      consistent.effect_mapSection_eq (ε := MapError) mapped
    rw [mapIdentitySection, Action.effect_bind, Action.effect_log]
    dsimp only
    rw [Action.effect_bind, section1M]
    rfl
  error := by
    intro state after cause consistent mapped
    exact absurd mapped (consistent.mapSection_ne_error (ε := MapError) cause)

theorem performs_mapStackPage (id : EnvironmentId) (page : Nat) :
    Performs (mapStackPage id page) id (planOfPage page) where
  value := by
    intro state after descriptor _ mapped
    have small : (mapSmallPage id (.ofNat page) (.ofNat page) .kernel).effect state =
        (.value descriptor, after) := mapped
    rw [mapStackPage, Action.effect_bind, Action.effect_mapError, small]
    rfl
  error := by
    intro state after cause _ mapped
    have small : (mapSmallPage id (.ofNat page) (.ofNat page) .kernel).effect state =
        (.error cause, after) := mapped
    rw [mapStackPage, Action.effect_bind, Action.effect_mapError, small]

/-- The ways in which the mapping of the kernel can end. -/
inductive KernelEffect (state : VirtualMemory) :
    Outcome AllocationError EnvironmentId × VirtualMemory → Prop
  | refused {cause : AllocationError} (lacks : state.firstLack? = some cause) :
      KernelEffect state (.error cause, state)
  | short {slot domain asid : Nat} {after : VirtualMemory}
      (grants : state.Grants slot domain asid) (nothing : state.firstLack? = none)
      (lays : Lays (state.afterAllocate slot domain asid) (state.nextEnvironment slot domain asid)
        sectionPlan after)
      (full : ¬ TableLevel.coarse.Fits state.tables.afterRoot.cursor state.tables.limit) :
      KernelEffect state (.error (.map (.outOfMemory .coarse)), after)
  | mapped {slot domain asid : Nat} {after : VirtualMemory}
      (grants : state.Grants slot domain asid) (nothing : state.firstLack? = none)
      (lays : Lays (state.afterAllocate slot domain asid) (state.nextEnvironment slot domain asid)
        kernelPlan after)
      (room : TableLevel.coarse.Fits state.tables.afterRoot.cursor state.tables.limit) :
      KernelEffect state (.value ⟨slot⟩, after)

/-- A new environment has been laid out by the empty plan. -/
theorem Consistent.lays_afterAllocate (consistent : state.Consistent) {slot domain asid : Nat}
    (grants : state.Grants slot domain asid) :
    Lays (state.afterAllocate slot domain asid) (state.nextEnvironment slot domain asid) []
      (state.afterAllocate slot domain asid) where
  tablesOnly := rfl
  consistent := consistent.afterAllocate grants
  laidOut := .of_empty state.tables.nextSpace_empty _
  untouched _ _ _ := ⟨fun _ => rfl, fun _ _ _ _ => rfl⟩
  source _ := rfl

theorem granule_of_mem_sectionPlan (listed : planned ∈ sectionPlan) :
    planned.granule = .section1M := by
  obtain ⟨region, -, rfl⟩ := List.mem_map.mp listed
  rfl

theorem stackPlan_sameSection : ∀ planned ∈ stackPlan,
    FirstLevelIndex.ofAddress planned.start = .ofAddress ⟨0x300000⟩ := by
  decide

/-- The sections leave the MiB of the stack free. -/
theorem Lays.stack_needsTable (lays : Lays before environment sectionPlan after)
    (found : before.environments id = some environment) (listed : planned ∈ stackPlan) :
    environment.space.NeedsTable after.memory planned.granule planned.start := by
  have page : ∀ planned ∈ stackPlan, planned.granule ≠ .section1M := by decide
  have apart : ∀ other ∈ sectionPlan,
      other.Apart ⟨.section1M, ⟨0x300000⟩, ⟨0x300000⟩, .kernel⟩ := by decide
  refine ⟨page planned listed, ?_⟩
  rw [stackPlan_sameSection planned listed]
  exact lays.laidOut.entry_eq_fault lays.consistent.sound
    (Consistent.mem_liveSpaces (lays.found found)) (by decide)
    fun address covers other mapped => (apart other mapped).not_covers covers

theorem Lays.sections_source (lays : Lays before environment sectionPlan after) :
    after.tables.source = before.tables.source :=
  lays.source fun _ => granule_of_mem_sectionPlan

/-- Sections take no table memory, so that the stack finds the room that the allocation left. -/
theorem Lays.room_iff {slot domain asid : Nat} (lays : Lays (state.afterAllocate slot domain asid)
      environment sectionPlan after) :
    TableLevel.coarse.Fits after.tables.cursor after.tables.limit ↔
      TableLevel.coarse.Fits state.tables.afterRoot.cursor state.tables.limit := by
  have source : after.tables.source = state.tables.afterRoot.source := lays.sections_source
  have limit : state.tables.afterRoot.limit = state.tables.limit := TableMemory.limit_afterTable
  rw [TableMemory.cursor_of_source source, TableMemory.limit_of_source source, limit]

theorem kernelEffect_afterSections {slot domain asid : Nat}
    (grants : state.Grants slot domain asid) (nothing : state.firstLack? = none)
    (lays : Lays (state.afterAllocate slot domain asid) (state.nextEnvironment slot domain asid)
      sectionPlan after) :
    KernelEffect state
      ((do initialStack.forM (mapStackPage ⟨slot⟩); pure ⟨slot⟩ :
        Action VirtualMemory AllocationError EnvironmentId).effect after) := by
  have found : (state.afterAllocate slot domain asid).environments ⟨slot⟩ =
      some (state.nextEnvironment slot domain asid) := EnvironmentTable.set_self _ _ _
  have feasible : Feasible (sectionPlan ++ initialStack.map planOfPage) := feasible_kernelPlan
  rw [Action.effect_bind]
  by_cases room : TableLevel.coarse.Fits state.tables.afterRoot.cursor state.tables.limit
  · have pages := lays.layEffect_forM (performs_mapStackPage ⟨slot⟩) found initialStack feasible
    generalize (initialStack.forM (mapStackPage ⟨slot⟩)).effect after = ending at pages
    cases pages with
    | laid lays => exact .mapped grants nothing lays room
    | @short first rest planned _ split laysFirst needed full =>
        have inStack : ∀ {other}, other ∈ first ++ planned :: rest → other ∈ stackPlan := by
          intro other listed
          rw [stackPlan, split]
          exact listed
        have last := stackPlan_sameSection planned
          (inStack (List.mem_append_right _ (List.mem_cons_self ..)))
        -- Only the first page needs a table, and there is room for one.
        cases first with
        | nil =>
            rw [List.append_nil] at laysFirst
            exact absurd (laysFirst.room_iff.mpr room) full
        | cons page first =>
            have same := stackPlan_sameSection page
              (inStack (List.mem_append_left _ (List.mem_cons_self ..)))
            have made : page ∈ sectionPlan ++ page :: first :=
              List.mem_append_right _ (List.mem_cons_self ..)
            exact absurd needed (laysFirst.laidOut.not_needsTable made (same.trans last.symm))
  · have full := mt lays.room_iff.mp room
    obtain ⟨page, pages, stack⟩ : ∃ page pages, initialStack = page :: pages := ⟨_, _, rfl⟩
    have listed : planOfPage page ∈ stackPlan := by
      rw [stackPlan, stack]
      exact List.mem_cons_self ..
    rw [stack] at feasible ⊢
    rw [lays.effect_forM_of_full (performs_mapStackPage ⟨slot⟩) found feasible
      (lays.stack_needsTable found listed) full]
    exact .short grants nothing lays room

theorem kernelEffect (consistent : state.Consistent) :
    KernelEffect state (mapKernel.effect state) := by
  unfold mapKernel
  rw [Action.effect_bind]
  rcases (allocateEffect consistent).firstLack?_cases consistent with
    ⟨cause, lacks, ending⟩ | ⟨slot, domain, asid, grants, nothing, ending⟩
  · rw [ending]
    exact .refused lacks
  · rw [ending]
    dsimp only
    have sections := (consistent.lays_afterAllocate grants).layEffect_forM
      (performs_mapIdentitySection ⟨slot⟩) (EnvironmentTable.set_self _ _ _)
      identitySections feasible_kernelPlan.append_left
    rw [Action.effect_bind]
    generalize (identitySections.forM (mapIdentitySection ⟨slot⟩)).effect
      (state.afterAllocate slot domain asid) = ending at sections
    cases sections with
    | laid lays => exact kernelEffect_afterSections grants nothing lays
    | @short first rest planned _ split lays needed full =>
        have listed : planned ∈ sectionPlan := by
          rw [sectionPlan, split]
          exact List.mem_append_right _ (List.mem_cons_self ..)
        exact absurd (granule_of_mem_sectionPlan listed) needed.1

/-! ## What the kernel finds -/

/-- The environment that the kernel gets, and what becomes of all others. -/
structure MapsKernel (before : VirtualMemory) (id : EnvironmentId) (environment : Environment)
    (after : VirtualMemory) : Prop where
  fresh : before.environments id = none
  recorded : after.environments id = some environment
  translate_eq : ∀ address, after.translate id address =
    .ok (if InKernelMap address then some (identity address) else none)
  confined : environment.space.ConfinedTo after.memory environment.domain
  device : ∀ address, InPeripherals address → ∃ descriptor : SectionDescriptor,
    environment.space.Holds after.memory address descriptor ∧
      descriptor.granted.executeNever = true ∧ descriptor.granted.cacheable = false ∧
        descriptor.granted.bufferable = false
  ordinary : ∀ address, InKernelMap address → ¬ InPeripherals address →
    ∃ (granule : Granule) (descriptor : Descriptor (.mapping granule)),
      environment.space.Holds after.memory address descriptor ∧
        descriptor.granted.cacheable = true ∧ descriptor.granted.bufferable = true
  others : ∀ other owner, before.environments other = some owner →
    after.LeavesAlone before other owner

theorem Lays.target_eq (lays : Lays before environment kernelPlan after)
    (address : VirtualAddress) : environment.space.target after.memory address =
      if InKernelMap address then some (identity address) else none := by
  by_cases inside : InKernelMap address
  · obtain ⟨planned, listed, covers⟩ := exists_kernelPlan_covers_iff.mpr inside
    obtain ⟨target, translated, leads⟩ := lays.laidOut.covered planned listed address covers
    rw [if_pos inside, translated, eq_identity_of_leads listed covers leads]
  · rw [if_neg inside]
    apply lays.laidOut.uncovered
    exact fun planned listed covers =>
      inside (exists_kernelPlan_covers_iff.mp ⟨planned, listed, covers⟩)

/-- Neither the allocation nor the mappings concern any other environment. -/
theorem Lays.leavesAlone (consistent : state.Consistent) {slot domain asid : Nat}
    (grants : state.Grants slot domain asid)
    (lays : Lays (state.afterAllocate slot domain asid) (state.nextEnvironment slot domain asid)
      plan after) {other : EnvironmentId} {owner : Environment}
    (found : state.environments other = some owner) : after.LeavesAlone state other owner := by
  have member := Consistent.mem_liveSpaces found
  have different : other ≠ ⟨slot⟩ := by
    rintro rfl
    rw [consistent.vacant_of_free grants.slot.free] at found
    cases found
  have kept : (state.afterAllocate slot domain asid).environments other = some owner :=
    (EnvironmentTable.set_of_ne different _).trans found
  have allocated : owner.space.Untouched (state.afterAllocate slot domain asid).memory
      state.memory :=
    consistent.sound.forest.untouched_of_agree (TableMemory.agree_afterRoot grants.room) member
  have elsewhere : owner.space ≠ (state.nextEnvironment slot domain asid).space := by
    intro same
    have fresh := consistent.sound.nextSpace_not_mem grants.room
    rw [same] at member
    exact fresh member
  have words := (lays.untouched _ (Consistent.mem_liveSpaces kept) elsewhere).trans allocated
  refine ⟨lays.found kept, words, fun address => ?_⟩
  rw [lays.consistent.translate_eq (lays.found kept), consistent.translate_eq found,
    words.target_eq]

theorem Lays.mapsKernel (consistent : state.Consistent) {slot domain asid : Nat}
    (grants : state.Grants slot domain asid)
    (lays : Lays (state.afterAllocate slot domain asid) (state.nextEnvironment slot domain asid)
      kernelPlan after) :
    state.MapsKernel ⟨slot⟩ (state.nextEnvironment slot domain asid) after := by
  have recorded := lays.found (EnvironmentTable.set_self _ _ _)
  refine
    { fresh := consistent.vacant_of_free grants.slot.free, recorded := recorded,
      translate_eq := ?_, confined := lays.laidOut.confined, device := ?_, ordinary := ?_,
      others := fun other owner found => lays.leavesAlone consistent grants found }
  · intro address
    rw [lays.consistent.translate_eq recorded, lays.target_eq]
  · intro address inside
    obtain ⟨base, listed, covers⟩ := covers_device_of_inPeripherals inside
    obtain ⟨descriptor, holds, granted⟩ := lays.laidOut.held _ listed address covers
    refine ⟨descriptor, holds, ?_⟩
    rw [granted]
    exact flags_device
  · intro address inside outside
    obtain ⟨planned, listed, covers⟩ := exists_kernelPlan_covers_iff.mpr inside
    obtain ⟨descriptor, holds, granted⟩ := lays.laidOut.held planned listed address covers
    refine ⟨planned.granule, descriptor, holds, ?_⟩
    rw [granted, flags_of_not_inPeripherals listed covers outside]
    exact flags_kernel

/-- In every reachable state the mapping of the kernel ends without a panic, and if it makes an
environment, that environment translates exactly the kernel's parts of memory. -/
theorem Reachable.mapsKernel_run (reachable : Reachable state) :
    (∀ cause, (mapKernel.run state).outcome ≠ .panic cause) ∧
      ∀ id, (mapKernel.run state).outcome = .value id →
        ∃ environment, state.MapsKernel id environment (mapKernel.run state).state := by
  have consistent := reachable.consistent
  have outcome : (mapKernel.run state).outcome = (mapKernel.effect state).1 := rfl
  have final : (mapKernel.run state).state = (mapKernel.effect state).2 := rfl
  have effect := kernelEffect consistent
  rw [outcome, final]
  generalize mapKernel.effect state = ending at effect
  cases effect with
  | refused lacks => exact ⟨nofun, nofun⟩
  | short grants nothing lays full => exact ⟨nofun, nofun⟩
  | mapped grants nothing lays room =>
      refine ⟨nofun, ?_⟩
      rintro id ⟨⟩
      exact ⟨_, lays.mapsKernel consistent grants⟩

/-- The kernel is mapped while two other environments live, one of them with a page where the kernel
has its stack. -/
theorem mapsKernel_run_smallMachine :
    let state := ((smallMachine.serve .allocate).serve .allocate).serve
      (.map .page4K ⟨1⟩ ⟨0x3FF000⟩ ⟨0x500000⟩ .kernel)
    let after := (mapKernel.run state).state
    let environment : Environment := ⟨⟨2⟩, 3, ⟨3⟩, 3, .only ⟨3⟩ .client, ⟨0x14c000⟩⟩
    (mapKernel.run state).outcome = .value ⟨2⟩ ∧
      state.MapsKernel ⟨2⟩ environment after ∧
      after.translate ⟨2⟩ ⟨0x3FF123⟩ = .ok (some ⟨0x3FF123⟩) ∧
      after.translate ⟨2⟩ ⟨0x3FB000⟩ = .ok none ∧
      after.translate ⟨1⟩ ⟨0x3FF123⟩ = .ok (some ⟨0x500123⟩) := by
  intro state after environment
  have reachable : Reachable state :=
    ((reachable_smallMachine.serve .allocate).serve .allocate).serve _
  have ended : (mapKernel.run state).outcome = .value ⟨2⟩ := by decide +kernel
  have recorded : after.environments ⟨2⟩ = some environment := by decide +kernel
  obtain ⟨found, maps⟩ := reachable.mapsKernel_run.2 ⟨2⟩ ended
  obtain rfl : environment = found := Option.some.inj (recorded.symm.trans maps.recorded)
  have other : state.environments ⟨1⟩ = some ⟨⟨1⟩, 2, ⟨2⟩, 2, .only ⟨2⟩ .client, ⟨0x144000⟩⟩ := by
    decide +kernel
  refine ⟨ended, maps, maps.translate_eq _, maps.translate_eq _, ?_⟩
  rw [(maps.others ⟨1⟩ _ other).translations]
  decide +kernel

end VirtualMemory

end Armv6Kernel
