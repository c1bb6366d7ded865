import Armv6Kernel.Proofs.VirtualMemory.Orderly

/-!
# A page is grown once

A page that the stack has grown by is mapped onto itself.  No request takes the mapping away from
its environment, and no other environment ever gets the process number.  As long as the environment
lives, the page therefore translates to itself there, and every further abort in it is fatal,
whatever else has happened.
-/

namespace Armv6Kernel

/-- A page is mapped onto itself below a coarse table, and the walk to it stays in memory. -/
structure AddressSpace.FixesPage (space : AddressSpace) (memory : PhysicalMemory)
    (page : VirtualAddress) : Prop where
  root : memory.checkRange TableLevel.first.bytes space.root = .ok ()
  table : ∃ pointer, space.entry memory (.ofAddress page) = .coarse pointer ∧
    memory.checkRange TableLevel.coarse.bytes pointer.table = .ok ()
  fixed : ∀ address, Granule.page4K.Covers page address →
    space.target memory address = some (VirtualMemory.identity address)

namespace AddressSpace.FixesPage

variable {space : AddressSpace} {memory after : PhysicalMemory} {page address : VirtualAddress}

theorem table_inMemory (fixes : space.FixesPage memory page) {pointer : CoarseTableDescriptor}
    (found : space.entry memory (.ofAddress page) = .coarse pointer) :
    memory.checkRange TableLevel.coarse.bytes pointer.table = .ok () := by
  obtain ⟨other, linked, inMemory⟩ := fixes.table
  have same : FirstLevelEntry.coarse other = .coarse pointer := linked.symm.trans found
  cases same
  exact inMemory

theorem translate_eq (fixes : space.FixesPage memory page) (aligned : page.isAligned .page4K = true)
    (covers : Granule.page4K.Covers page address) :
    space.translate memory address = .ok (some (VirtualMemory.identity address)) := by
  have page4K : Granule.page4K ≠ .section1M := by decide
  have sameFirst := ((Granule.covers_page_iff page4K aligned).mp covers).1
  rw [translate_eq_target fixes.root, fixes.fixed address covers]
  intro pointer found
  rw [sameFirst] at found
  exact fixes.table_inMemory found

theorem isMapped_eq (fixes : space.FixesPage memory page) :
    VirtualMemory.isMapped memory space page = .ok true := by
  have covers : Granule.page4K.Covers page page := Granule.page4K.covers_self page
  rw [isMapped_eq_isSome_target fixes.root fun _ found => fixes.table_inMemory found,
    fixes.fixed page covers]
  rfl

theorem of_keeps (fixes : space.FixesPage memory page) {spaces : Set AddressSpace}
    (keeps : Keeps after memory spaces) (member : space ∈ spaces)
    (extent : after.extent = memory.extent) : space.FixesPage after page := by
  obtain ⟨pointer, linked, inMemory⟩ := fixes.table
  refine ⟨?_, ⟨pointer, (keeps.linked ⟨member, linked⟩).entry, ?_⟩, fun address covers => ?_⟩
  · rw [PhysicalMemory.checkRange_eq_of_extent extent]
    exact fixes.root
  · rw [PhysicalMemory.checkRange_eq_of_extent extent]
    exact inMemory
  · exact keeps.target_eq member (fixes.fixed address covers)

end AddressSpace.FixesPage

/-- A small page that has been mapped onto itself is fixed. -/
theorem TableMemory.Planted.fixesPage {A : Type} [TableSource A] [CursorSource A]
    {tables after : TableMemory A} {spaces : Set AddressSpace} {space : AddressSpace}
    {page : VirtualAddress} {domain : Domain} {flags : MapFlags} {descriptor : SmallPageDescriptor}
    (planted : tables.Planted spaces) (member : space ∈ spaces)
    (ended : (space.mapGranule .page4K page (VirtualMemory.identity page) domain flags).effect
      tables = (.value descriptor, after)) : space.FixesPage after.memory page := by
  have steps := planted.mapSteps member .page4K page (VirtualMemory.identity page) domain flags
  obtain ⟨root, table⟩ := planted.walk_inMemory member ended
  rw [ended] at steps
  cases steps with
  | idle failed moved => cases failed
  | installed installs maps extent planted =>
      refine ⟨root, table, fun address covers => ?_⟩
      obtain ⟨target, translated, same⟩ := maps.inside address covers
      have onto : target = VirtualMemory.identity address := by
        apply Address.eq_of_toNat_eq
        rw [same]
        simp only [VirtualMemory.identity, Granule.Covers, Address.toNat] at covers ⊢
        omega
      rw [← onto]
      exact translated

namespace VirtualMemory

/-- The environment with a process number has a page mapped onto itself if it lives, and no later
environment will have the number. -/
structure Settled (state : VirtualMemory) (process : Word) (page : VirtualAddress) : Prop where
  given : process.toNat ≤ state.lastProcess.toNat
  fixes : ∀ id environment, state.environments id = some environment →
    environment.process = process → environment.space.FixesPage state.memory page

/-- The environment with a process number will not grow by the page any more. -/
structure GrownFor (state : VirtualMemory) (process : Word) (page : VirtualAddress) : Prop where
  translates : ∀ id environment, state.environments id = some environment →
    environment.process = process → ∀ address, Granule.page4K.Covers page address →
      state.translate id address = .ok (some (identity address))
  fatal : ∀ id environment, state.active = some id → state.environments id = some environment →
    environment.process = process → Granule.page4K.Covers page state.registers.faultAddress →
      ∀ pc, ∃ fault, ((handleDataAbort pc).run state).outcome = .error fault
  once : ∀ id environment, state.active = some id → state.environments id = some environment →
    environment.process = process → ∀ pc descriptor,
      ((handleDataAbort pc).run state).outcome ≠ .value (.stackGrown page descriptor)

variable {state after : VirtualMemory} {request : VirtualMemoryRequest} {id : EnvironmentId}
  {environment : Environment} {page : VirtualAddress} {process : Word}

/-! ## Growth -/

theorem faultPage_eq_of_covers (aligned : page.isAligned .page4K = true)
    (covers : Granule.page4K.Covers page state.registers.faultAddress) :
    state.faultPage = page := by
  rw [Address.isAligned_iff] at aligned
  apply Address.eq_of_toNat_eq
  rw [faultPage, Address.toNat_alignDown]
  simp only [Granule.Covers, Granule.bytes] at aligned covers ⊢
  omega

theorem covers_faultPage (state : VirtualMemory) :
    Granule.page4K.Covers state.faultPage state.registers.faultAddress := by
  have start : state.faultPage.toNat = state.registers.faultAddress.toNat -
      state.registers.faultAddress.toNat % Granule.page4K.bytes :=
    Address.toNat_alignDown .page4K _
  simp only [Granule.Covers, Granule.bytes] at start ⊢
  omega

/-- A page that has been grown is that of the recorded address, and it is settled afterwards. -/
theorem Orderly.settled_of_grown (orderly : state.Orderly) {pc : Word}
    {descriptor : SmallPageDescriptor} (active : state.active = some id)
    (found : state.environments id = some environment)
    (grown : ((handleDataAbort pc).run state).outcome = .value (.stackGrown page descriptor)) :
    page = state.faultPage ∧
      (state.serve (.handleDataAbort pc)).Settled environment.process page := by
  have ended : ((handleDataAbort pc).effect state).1 = .value (.stackGrown page descriptor) := grown
  have final : state.serve (.handleDataAbort pc) = ((handleDataAbort pc).effect state).2 := rfl
  have sorted := sorted_verdict state pc
  rw [final]
  rw [effect_handleDataAbort, Action.effect_mapError] at ended ⊢
  generalize state.verdict pc = verdict at sorted ended ⊢
  cases sorted with
  | growth trusted nonzero window =>
      rw [resolve] at ended ⊢
      have growth := orderly.growWork state.faultPage
      generalize (growStack state.faultPage).effect state = ending at ended growth ⊢
      cases growth with
      | @idle outcome source failed moved => cases outcome <;> cases ended; cases failed
      | @grown runningId running descriptor tables current live mapped =>
          cases ended
          have sameId : runningId = id := Option.some.inj (current.symm.trans active)
          subst sameId
          have sameRecord : running = environment := Option.some.inj (live.symm.trans found)
          subst sameRecord
          refine ⟨rfl, orderly.processBound found, fun other record otherFound named => ?_⟩
          have sameOther : other = runningId := orderly.processesApart otherFound found named
          subst sameOther
          have sameOwner : record = running := Option.some.inj (otherFound.symm.trans found)
          subst sameOwner
          exact orderly.planted.fixesPage (Consistent.mem_liveSpaces live) mapped
  | _ => cases ended

/-! ## What is settled stays so -/

theorem Work.settled (work : Work state request after) (orderly : state.Orderly)
    (settled : state.Settled process page) : after.Settled process page := by
  obtain ⟨keeps, extent⟩ := work.keeps orderly
  have still : ∀ {id environment}, state.environments id = some environment →
      environment.process = process → environment.space.FixesPage after.memory page :=
    fun found named => (settled.fixes _ _ found named).of_keeps keeps
      (Consistent.mem_liveSpaces found) extent
  cases work with
  | idle moved => exact ⟨settled.given, fun _ _ => still⟩
  | lost slots domains asids moved => exact ⟨settled.given, fun _ _ => still⟩
  | @allocated slot domain asid asked grants =>
      have next := Consistent.process_nextEnvironment grants
      have given := settled.given
      refine ⟨?_, fun id environment live named => ?_⟩
      · change process.toNat ≤ (state.nextEnvironment slot domain asid).process.toNat
        omega
      · rcases EnvironmentTable.of_set_some live with ⟨-, rfl⟩ | ⟨-, before⟩
        · rw [named] at next
          omega
        · exact still before named
  | freed asked found =>
      exact ⟨settled.given, fun _ _ live => still (EnvironmentTable.of_set_none live).2⟩
  | granted asked found =>
      refine ⟨settled.given, fun id environment live named => ?_⟩
      rcases EnvironmentTable.of_set_some live with ⟨-, rfl⟩ | ⟨-, before⟩
      · have same := still found named
        exact same
      · exact still before named
  | mapped concerns found installs maps extent planted => exact ⟨settled.given, fun _ _ => still⟩

theorem Orderly.settled_serveAll (orderly : state.Orderly) (settled : state.Settled process page)
    (requests : List VirtualMemoryRequest) : (state.serveAll requests).Settled process page := by
  induction requests generalizing state with
  | nil => exact settled
  | cons request later ih =>
      have work := orderly.work request
      exact ih (work.orderly orderly) (work.settled orderly settled)

theorem Settled.grownFor (settled : state.Settled process page) (orderly : state.Orderly)
    (aligned : page.isAligned .page4K = true) : state.GrownFor process page := by
  have fatal : ∀ id environment, state.active = some id →
      state.environments id = some environment → environment.process = process →
      Granule.page4K.Covers page state.registers.faultAddress →
        ∀ pc, ∃ fault, ((handleDataAbort pc).run state).outcome = .error fault := by
    intro id environment active found named covers pc
    change ∃ fault, ((handleDataAbort pc).effect state).1 = .error fault
    have sorted := sorted_verdict state pc
    rw [effect_handleDataAbort, Action.effect_mapError]
    generalize state.verdict pc = verdict at sorted ⊢
    cases sorted with
    | growth trusted nonzero window =>
        rw [resolve, faultPage_eq_of_covers aligned covers,
          effect_growStack active found (orderly.identified found) (orderly.ofRoot_eq found),
          (settled.fixes id environment found named).isMapped_eq]
        exact ⟨_, rfl⟩
    | _ => exact ⟨_, rfl⟩
  refine ⟨fun id environment found named address covers => ?_, fatal, ?_⟩
  · simp only [translate, addressSpace, VirtualMemory.environment, found, bind, Except.bind,
      orderly.ofRoot_eq found]
    exact (settled.fixes id environment found named).translate_eq aligned covers
  · intro id environment active found named pc descriptor grown
    have covers := covers_faultPage state
    rw [← (orderly.settled_of_grown active found grown).1] at covers
    obtain ⟨fault, ended⟩ := fatal id environment active found named covers pc
    rw [grown] at ended
    cases ended

/-- Once the stack of an environment has grown by a page, the page translates to itself there as
long as the environment lives, and no abort in the page is resolved again. -/
theorem grownFor_serveAll {tables : TableMemory BumpHeap} {config : VirtualMemoryConfig}
    {registers final : SystemRegisters}
    (accepted : (VirtualMemory.init tables config :
      Action SystemRegisters Empty VirtualMemory).effect registers = (.value state, final))
    (early later : List VirtualMemoryRequest) {pc : Word} {descriptor : SmallPageDescriptor}
    (active : (state.serveAll early).active = some id)
    (found : (state.serveAll early).environments id = some environment)
    (grown : ((handleDataAbort pc).run (state.serveAll early)).outcome =
      .value (.stackGrown page descriptor)) :
    (state.serveAll (early ++ .handleDataAbort pc :: later)).GrownFor environment.process page := by
  have orderly := (orderly_init accepted).after_serveAll early
  have orderlyAfter := orderly.after_serve (.handleDataAbort pc)
  obtain ⟨rfl, settled⟩ := orderly.settled_of_grown active found grown
  have split : state.serveAll (early ++ .handleDataAbort pc :: later) =
      ((state.serveAll early).serve (.handleDataAbort pc)).serveAll later := by
    rw [serveAll, List.foldl_append]
    rfl
  rw [split]
  exact (orderlyAfter.settled_serveAll settled later).grownFor (orderlyAfter.after_serveAll later)
    (state.serveAll early).isAligned_faultPage

/-- A page is grown, both environments are switched off and on, the other one is retired and a third
one takes its place, and memory is taken for more tables.  Then a store to the page aborts again. -/
theorem grownFor_serveAll_smallMachine :
    let early : List VirtualMemoryRequest :=
      [.allocate, .allocate, .switchTo ⟨1⟩, .recordAbort (.ofParts 0b00111 0 true) ⟨0x301004⟩]
    let later : List VirtualMemoryRequest :=
      [.mmuDisable, .switchTo ⟨0⟩, .handleDataAbort 0x8044, .mmuDisable, .free ⟨0⟩, .allocate,
        .map .page64K ⟨1⟩ ⟨0x400000⟩ ⟨0x500000⟩ .kernel, .switchTo ⟨1⟩,
        .recordAbort (.ofParts 0b01111 0 true) ⟨0x301FFC⟩]
    let after := smallMachine.serveAll (early ++ .handleDataAbort 0x8040 :: later)
    let grown : Environment := ⟨⟨1⟩, 2, ⟨2⟩, 2, .only ⟨2⟩ .client, ⟨0x144000⟩⟩
    (smallMachine.serveAll early).environments ⟨1⟩ = some grown ∧ after.active = some ⟨1⟩ ∧
      after.environments ⟨1⟩ = some grown ∧ after.GrownFor 2 ⟨0x301000⟩ ∧
      ∃ fault, ((handleDataAbort 0x8048).run after).outcome = .error fault := by
  intro early later after grown
  have found : (smallMachine.serveAll early).environments ⟨1⟩ = some grown := by decide +kernel
  have active : after.active = some ⟨1⟩ := by decide +kernel
  have lives : after.environments ⟨1⟩ = some grown := by decide +kernel
  have settled : after.GrownFor 2 ⟨0x301000⟩ :=
    @grownFor_serveAll _ ⟨1⟩ grown ⟨0x301000⟩ _ _ _ _ init_smallMachine early later 0x8040
      ⟨0x30103e⟩ (by decide +kernel) found (by decide +kernel)
  have inside : Granule.page4K.Covers ⟨0x301000⟩ after.registers.faultAddress := by decide +kernel
  exact ⟨found, active, lives, settled, settled.fatal ⟨1⟩ grown active lives rfl inside 0x8048⟩

end VirtualMemory

end Armv6Kernel
