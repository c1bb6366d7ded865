import Armv6Kernel.Proofs.VirtualMemory.Permanence
import Mathlib.Order.Bounds.Basic

/-!
# How an allocation ends

Which answer an allocation gives is decided by counts: the process numbers given out, the
environments that live, and the room before the end of the heap.  If nothing is lacking, the new
environment has the least numbers that nobody holds and an empty tree.
-/

namespace Armv6Kernel

/-! ## Full pools -/

theorem countP_range_of_clear {held : Nat → Bool} {bound total : Nat} (within : bound ≤ total)
    (clear : ∀ other, bound ≤ other → held other = false) :
    (List.range total).countP held = (List.range bound).countP held := by
  induction total, within using Nat.le_induction with
  | base => rfl
  | succ total within ih =>
      rw [List.range_succ, List.countP_append, ih, List.countP_singleton, clear total within]
      rfl

namespace IdentifierPool.Tracks

variable {pool : IdentifierPool} {reserved capacity live : Nat} {table : EnvironmentTable}
  {number : Environment → Nat}

/-- The numbers beyond the reserved ones that no environment holds. -/
def Unheld (reserved : Nat) (table : EnvironmentTable) (number : Environment → Nat) : Set Nat :=
  {identifier | reserved ≤ identifier ∧
    ∀ id environment, table id = some environment → number environment ≠ identifier}

theorem clear_of_le (tracks : pool.Tracks reserved capacity table live number) {identifier : Nat}
    (beyond : capacity ≤ identifier) : pool.inUse.getLsbD identifier = false := by
  apply Bool.eq_false_iff.mpr
  intro occupied
  rcases (tracks.occupied_iff identifier).mp occupied with low | ⟨id, environment, found, rfl⟩
  · have reservable := tracks.reservable
    omega
  · have bounds := tracks.bounds found
    omega

/-- A pool is full exactly if the reserved numbers and those of the environments use up its
capacity. -/
theorem full_iff (tracks : pool.Tracks reserved capacity table live number) :
    pool.Full ↔ live + reserved = capacity := by
  have counted : (List.range capacity).countP pool.inUse.getLsbD = reserved + live := by
    rw [← tracks.count]
    exact (countP_range_of_clear tracks.inBitmap fun _ beyond => tracks.clear_of_le beyond).symm
  have full : pool.Full ↔ (List.range capacity).countP pool.inUse.getLsbD =
      (List.range capacity).length := by
    rw [List.countP_eq_length, Full, tracks.capacity_eq]
    simp only [List.mem_range]
  rw [full, counted, List.length_range, Nat.add_comm]

theorem ne_capacity_of_offers (tracks : pool.Tracks reserved capacity table live number)
    {identifier : Nat} (offers : pool.Offers identifier) : live + reserved ≠ capacity :=
  fun full => (tracks.full_iff.mpr full).not_offers identifier offers

/-- What a pool offers is the least number that nobody holds. -/
theorem isLeast_of_offers (tracks : pool.Tracks reserved capacity table live number)
    {identifier : Nat} (offers : pool.Offers identifier) :
    IsLeast (Unheld reserved table number) identifier := by
  have fresh := tracks.fresh offers.free
  refine ⟨⟨fresh.1, fun id environment found => fresh.2 found⟩, ?_⟩
  rintro other ⟨above, unheld⟩
  by_contra lower
  rcases (tracks.occupied_iff other).mp (offers.least other (by omega)) with
    low | ⟨id, environment, found, same⟩
  · omega
  · exact unheld id environment found same

end IdentifierPool.Tracks

theorem DomainAccessControl.word_only_client (domain : Domain) :
    (only domain .client).word = 1#32 <<< (2 * domain.number) := by
  have all : ∀ bits, (only ⟨bits⟩ .client).word = 1#32 <<< (2 * bits.toNat) := by decide
  exact all domain.bits

/-- There are domains and address space identifiers for all environments. -/
def VirtualMemoryConfig.Roomy (config : VirtualMemoryConfig) : Prop :=
  config.maxEnvironments ≤ config.domains - config.reservedDomains ∧
    config.maxEnvironments ≤ config.asids - config.reservedAsids

theorem VirtualMemoryConfig.roomy_standard : VirtualMemoryConfig.standard.Roomy := by
  constructor <;> decide

namespace VirtualMemory

open IdentifierPool.Tracks (Unheld)

/-! ## What an allocation may lack -/

/-- Some aligned block before the end of the heap can hold a first-level table. -/
def RootRoom (state : VirtualMemory) : Prop :=
  ∃ start, start % TableLevel.first.bytes = 0 ∧ state.heap.next.toNat ≤ start ∧
    start + TableLevel.first.bytes ≤ state.heap.limit.toNat

instance (state : VirtualMemory) : Decidable state.RootRoom :=
  decidable_of_iff _ (TableLevel.first.fits_iff state.heap.next.toNat state.heap.limit.toNat)

/-- The first thing that an allocation lacks, as the error that reports it. -/
def firstLack? (state : VirtualMemory) : Option AllocationError :=
  if state.lastProcess.toNat = ContextId.maxProcess then
    some (.noProcess state.lastProcess)
  else if state.liveCount = state.config.maxEnvironments then
    some (.noSlot (.exhausted state.config.maxEnvironments))
  else if state.liveCount + state.config.reservedDomains = state.config.domains then
    some (.noDomain (.exhausted state.config.domains))
  else if state.liveCount + state.config.reservedAsids = state.config.asids then
    some (.noAsid (.exhausted state.config.asids))
  else if state.RootRoom then
    none
  else
    some (.map (.outOfMemory .first))

/-- What a new environment is like.  Whatever memory held before, its tree is empty. -/
structure Makes (state : VirtualMemory) (id : EnvironmentId) (environment : Environment)
    (after : VirtualMemory) : Prop where
  recorded : after.environments id = some environment
  identified : environment.id = id
  slot : IsLeast {slot | state.environments ⟨slot⟩ = none} id.slot
  domain : IsLeast (Unheld state.config.reservedDomains state.environments (·.domain.number))
    environment.domain.number
  asid : IsLeast (Unheld state.config.reservedAsids state.environments (·.asid.toNat))
    environment.asid.toNat
  process : environment.process.toNat = state.lastProcess.toNat + 1
  counted : after.lastProcess = environment.process
  access : environment.domainAccess.word = 1#32 <<< (2 * environment.domain.number)
  empty : ∀ index, environment.space.entry after.memory index = .fault

/-- An allocation reports the first thing that it lacks, and makes an environment if it lacks
nothing. -/
structure AllocatesExactly (state : VirtualMemory) : Prop where
  ends : ∀ cause, (allocate.run state).outcome ≠ .panic cause
  refused_iff : ∀ cause, (allocate.run state).outcome = .error cause ↔
    state.firstLack? = some cause
  made : state.firstLack? = none → ∃ id environment,
    (allocate.run state).outcome = .value id ∧
      state.Makes id environment (allocate.run state).state

section

variable {state : VirtualMemory}

theorem Consistent.unheld_slots (consistent : state.Consistent) :
    Unheld 0 state.environments (·.id.slot) = {slot | state.environments ⟨slot⟩ = none} := by
  ext slot
  constructor
  · rintro ⟨-, unheld⟩
    rcases found : state.environments ⟨slot⟩ with _ | environment
    · exact found
    · have identified := consistent.identified found
      exact absurd (congrArg EnvironmentId.slot identified) (unheld _ environment found)
  · intro vacant
    refine ⟨Nat.zero_le _, ?_⟩
    rintro id environment found rfl
    have identified := consistent.identified found
    change state.environments ⟨environment.id.slot⟩ = none at vacant
    rw [identified] at vacant
    exact nomatch vacant.symm.trans found

theorem Consistent.makes (consistent : state.Consistent) {slot domain asid : Nat}
    (grants : state.Grants slot domain asid) :
    state.Makes ⟨slot⟩ (state.nextEnvironment slot domain asid)
      (state.afterAllocate slot domain asid) := by
  have number := consistent.number_nextEnvironment grants
  refine
    { recorded := EnvironmentTable.set_self _ _ _, identified := rfl, slot := ?_, domain := ?_,
      asid := ?_, process := Consistent.process_nextEnvironment grants, counted := rfl,
      access := DomainAccessControl.word_only_client _,
      empty := fun index => Forest.entry_of_empty (state.tables.nextSpace_empty index) }
  · rw [← consistent.unheld_slots]
    exact consistent.slots.isLeast_of_offers grants.slot
  · rw [number]
    exact consistent.domains.isLeast_of_offers grants.domain
  · rw [consistent.asid_nextEnvironment grants]
    exact consistent.asids.isLeast_of_offers grants.asid

theorem Consistent.slots_left (consistent : state.Consistent) {slot : Nat}
    (offers : state.slots.Offers slot) : state.liveCount ≠ state.config.maxEnvironments :=
  consistent.slots.ne_capacity_of_offers offers

theorem liveCount_le (state : VirtualMemory) :
    state.liveCount ≤ state.config.maxEnvironments := by
  have counted := List.countP_le_length (p := fun slot => (state.environments ⟨slot⟩).isSome)
    (l := List.range state.config.maxEnvironments)
  rw [List.length_range] at counted
  exact counted

/-- Each ending of an allocation comes with what is lacking there. -/
theorem AllocateEffect.firstLack?_cases
    {ending : Outcome AllocationError EnvironmentId × VirtualMemory}
    (effect : AllocateEffect state ending) (consistent : state.Consistent) :
    (∃ cause, state.firstLack? = some cause ∧ ending = (.error cause, state)) ∨
      ∃ slot domain asid, state.Grants slot domain asid ∧ state.firstLack? = none ∧
        ending = (.value ⟨slot⟩, state.afterAllocate slot domain asid) := by
  have roomIff : TableLevel.first.Fits state.tables.cursor state.tables.limit ↔ state.RootRoom :=
    TableLevel.first.fits_iff _ _
  cases effect with
  | noProcess spent =>
      have last : state.lastProcess.toNat = ContextId.maxProcess :=
        Nat.le_antisymm consistent.processLimit spent
      exact .inl ⟨_, if_pos last, rfl⟩
  | noSlot process full =>
      have used : state.liveCount = state.config.maxEnvironments :=
        consistent.slots.full_iff.mp full
      refine .inl ⟨_, ?_, rfl⟩
      rw [firstLack?, if_neg process.ne, if_pos used, consistent.slots.capacity_eq]
  | noDomain process slots full =>
      refine .inl ⟨_, ?_, rfl⟩
      rw [firstLack?, if_neg process.ne, if_neg (consistent.slots_left slots),
        if_pos (consistent.domains.full_iff.mp full), consistent.domains.capacity_eq]
  | noAsid process slots domains full =>
      refine .inl ⟨_, ?_, rfl⟩
      rw [firstLack?, if_neg process.ne, if_neg (consistent.slots_left slots),
        if_neg (consistent.domains.ne_capacity_of_offers domains),
        if_pos (consistent.asids.full_iff.mp full), consistent.asids.capacity_eq]
  | outOfMemory process slots domains asids full =>
      refine .inl ⟨_, ?_, rfl⟩
      rw [firstLack?, if_neg process.ne, if_neg (consistent.slots_left slots),
        if_neg (consistent.domains.ne_capacity_of_offers domains),
        if_neg (consistent.asids.ne_capacity_of_offers asids),
        if_neg fun room => full (roomIff.mpr room)]
  | made grants =>
      refine .inr ⟨_, _, _, grants, ?_, rfl⟩
      rw [firstLack?, if_neg grants.process.ne, if_neg (consistent.slots_left grants.slot),
        if_neg (consistent.domains.ne_capacity_of_offers grants.domain),
        if_neg (consistent.asids.ne_capacity_of_offers grants.asid),
        if_pos (roomIff.mp grants.room)]

theorem Consistent.allocatesExactly (consistent : state.Consistent) : state.AllocatesExactly := by
  have ended : (allocate.run state).outcome = (allocate.effect state).1 := rfl
  have final : (allocate.run state).state = (allocate.effect state).2 := rfl
  have effect := allocateEffect consistent
  refine ⟨effect.ne_panic, ?_, ?_⟩ <;> rw [ended]
  · intro cause
    rcases effect.firstLack?_cases consistent with
      ⟨found, lacks, ending⟩ | ⟨slot, domain, asid, -, lacks, ending⟩
    · rw [ending, lacks, Option.some_inj, Outcome.error.injEq]
    · rw [ending, lacks]
      exact iff_of_false nofun nofun
  · intro lacks
    rw [final]
    rcases effect.firstLack?_cases consistent with
      ⟨found, lacking, -⟩ | ⟨slot, domain, asid, grants, -, ending⟩
    · rw [lacks] at lacking
      cases lacking
    · rw [ending]
      exact ⟨_, _, rfl, consistent.makes grants⟩

/-! ## Where there are identifiers enough -/

theorem Consistent.firstLack?_of_roomy (consistent : state.Consistent)
    (roomy : state.config.Roomy) (cause : IdentifierError) :
    state.firstLack? ≠ some (.noDomain cause) ∧ state.firstLack? ≠ some (.noAsid cause) := by
  obtain ⟨domains, asids⟩ := roomy
  have domainsReserved := consistent.domains.reservable
  have asidsReserved := consistent.asids.reservable
  have bounded := liveCount_le state
  unfold firstLack?
  -- With slots left, fewer environments live than there are numbers for.
  split_ifs with spent slotsUsed domainsUsed asidsUsed room
  · exact ⟨nofun, nofun⟩
  · exact ⟨nofun, nofun⟩
  · omega
  · omega
  · exact ⟨nofun, nofun⟩
  · exact ⟨nofun, nofun⟩

end

/-- In every reachable state an allocation ends as the counts say.  If there are as many domains and
address space identifiers as environments, neither of them is ever lacking in a run. -/
theorem Reachable.allocatesExactly_run {state : VirtualMemory} (reachable : Reachable state) :
    state.AllocatesExactly ∧ (state.config.Roomy → ∀ requests cause,
      (allocate.run (state.serveAll requests)).outcome ≠ .error (.noDomain cause) ∧
      (allocate.run (state.serveAll requests)).outcome ≠ .error (.noAsid cause)) := by
  have consistent := reachable.consistent
  refine ⟨consistent.allocatesExactly, fun roomy requests cause => ?_⟩
  have later := consistent.after_serveAll requests
  rw [← (consistent.bounds_serveAll requests).1] at roomy
  have spared := later.firstLack?_of_roomy roomy cause
  constructor
  · rw [Ne, later.allocatesExactly.refused_iff]
    exact spared.1
  · rw [Ne, later.allocatesExactly.refused_iff]
    exact spared.2

/-- Virtual memory just set up over memory full of ones, with two domains to give away. -/
def crampedMachine : VirtualMemory :=
  { smallMachine with
    tables := ⟨⟨.window 0x140000 0x40000, fun _ => 0xFFFFFFFF⟩, smallMachine.heap⟩
    config := { VirtualMemoryConfig.standard with domains := 3 }
    domains := ⟨3, 1⟩ }

theorem reachable_crampedMachine : Reachable crampedMachine := by
  have simulated : PhysicalMemory.simulated 0x140000 0x40000 = .ok smallMachine.memory := rfl
  have created : BumpHeap.create ⟨0x140000⟩ ⟨0x180000⟩ = .ok smallMachine.heap := rfl
  have clean : HeapInMemory ⟨smallMachine.memory, smallMachine.heap⟩ :=
    heapInMemory_of_simulated simulated created (by decide) (by decide) (by decide)
  have inMemory : HeapInMemory crampedMachine.tables :=
    ⟨clean.above, clean.below, clean.covers.of_extent rfl⟩
  have accepted : (VirtualMemory.init crampedMachine.tables crampedMachine.config :
      Action SystemRegisters Empty VirtualMemory).effect (.reset .fresh) =
        (.value crampedMachine, (SystemRegisters.reset .fresh).initialized) := rfl
  exact .init inMemory accepted

/-- With two environments the domains are used up.  Once the first one is gone, the next one gets
its slot, its domain and its address space identifier, but not its process number.  On the standard
machine this cannot happen. -/
theorem allocatesExactly_run_crampedMachine :
    let crowded := (crampedMachine.serve .allocate).serve .allocate
    let relieved := crowded.serve (.free ⟨0⟩)
    (allocate.run crowded).outcome = .error (.noDomain (.exhausted 3)) ∧
      (∃ environment, (allocate.run relieved).outcome = .value ⟨0⟩ ∧
        relieved.Makes ⟨0⟩ environment (allocate.run relieved).state ∧
        environment.process = 3 ∧ environment.domain = ⟨1⟩ ∧ environment.asid = 1) ∧
      ∀ requests cause, (allocate.run (smallMachine.serveAll requests)).outcome ≠
        .error (.noDomain cause) := by
  intro crowded relieved
  have reachable : Reachable crowded := (reachable_crampedMachine.serve .allocate).serve .allocate
  have lacks : crowded.firstLack? = some (.noDomain (.exhausted 3)) := by decide +kernel
  have nothing : relieved.firstLack? = none := by decide +kernel
  have reused : (allocate.run relieved).state.environments ⟨0⟩ =
      some ⟨⟨0⟩, 3, ⟨1⟩, 1, .only ⟨1⟩ .client, ⟨0x148000⟩⟩ := by decide +kernel
  have first : (allocate.run relieved).outcome = .value ⟨0⟩ := by decide +kernel
  refine ⟨(reachable.allocatesExactly_run.1.refused_iff _).mpr lacks, ?_, ?_⟩
  · obtain ⟨id, environment, ended, makes⟩ :=
      (reachable.serve (.free ⟨0⟩)).allocatesExactly_run.1.made nothing
    obtain rfl : (⟨0⟩ : EnvironmentId) = id := Outcome.value.inj (first.symm.trans ended)
    obtain rfl := Option.some.inj (reused.symm.trans makes.recorded)
    exact ⟨_, first, makes, rfl, rfl, rfl⟩
  · intro requests cause
    exact (reachable_smallMachine.allocatesExactly_run.2 VirtualMemoryConfig.roomy_standard
      requests cause).1

end VirtualMemory

end Armv6Kernel
