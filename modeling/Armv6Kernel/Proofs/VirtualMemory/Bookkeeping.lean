import Armv6Kernel.Proofs.AddressSpace.Soundness
import Armv6Kernel.Proofs.Identifier.Occupancy
import Armv6Kernel.VirtualMemory.Basic

/-!
# Pools, records and tables in step

Three pools, the records of the environments and the trees in memory tell the same story: which
environments live, and what each of them holds.  `Consistent` says so.  It survives the addition,
the removal and the change of a record, whatever operation makes them.
-/

namespace Armv6Kernel

/-- The records of the environments that live. -/
abbrev EnvironmentTable :=
  EnvironmentId → Option Environment

/-- The tree of an environment. -/
def Environment.space (environment : Environment) : AddressSpace :=
  ⟨environment.root⟩

namespace EnvironmentTable

variable {κ : Type}

/-- The records with one of them replaced. -/
def set (table : EnvironmentTable) (id : EnvironmentId) (record : Option Environment) :
    EnvironmentTable :=
  fun other => if other = id then record else table other

/-- The number of environments in the first `bound` slots. -/
def liveCount (table : EnvironmentTable) (bound : Nat) : Nat :=
  (List.range bound).countP fun slot => (table ⟨slot⟩).isSome

/-- No two environments have the same key. -/
def Apart (table : EnvironmentTable) (key : Environment → κ) : Prop :=
  ∀ ⦃id other : EnvironmentId⦄ ⦃first second : Environment⦄, table id = some first →
    table other = some second → key first = key second → id = other

variable {table : EnvironmentTable} {id : EnvironmentId} {environment : Environment}
  {key : Environment → κ}

theorem set_self (table : EnvironmentTable) (id : EnvironmentId) (record : Option Environment) :
    table.set id record id = record :=
  if_pos rfl

theorem set_of_ne {other : EnvironmentId} (different : other ≠ id) (record : Option Environment) :
    table.set id record other = table other :=
  if_neg different

theorem set_eq_some_iff {record : Option Environment} {other : EnvironmentId}
    {found : Environment} :
    table.set id record other = some found ↔
      (other = id ∧ record = some found) ∨ (other ≠ id ∧ table other = some found) := by
  by_cases same : other = id
  · subst same
    simp only [set_self, true_and, ne_eq, not_true_eq_false, false_and, or_false]
  · simp only [set_of_ne same, same, false_and, ne_eq, not_false_eq_true, true_and, false_or]

theorem of_set_some {other : EnvironmentId} {found : Environment}
    (live : table.set id (some environment) other = some found) :
    (other = id ∧ found = environment) ∨ (other ≠ id ∧ table other = some found) := by
  rcases set_eq_some_iff.mp live with ⟨here, same⟩ | old
  · exact .inl ⟨here, (Option.some.inj same).symm⟩
  · exact .inr old

theorem of_set_none {other : EnvironmentId} {found : Environment}
    (live : table.set id none other = some found) : other ≠ id ∧ table other = some found := by
  rcases set_eq_some_iff.mp live with ⟨-, impossible⟩ | old
  · cases impossible
  · exact old

theorem liveCount_add {bound : Nat} (below : id.slot < bound) (vacant : table id = none) :
    (table.set id (some environment)).liveCount bound = table.liveCount bound + 1 := by
  have same : ∀ slot, slot ≠ id.slot →
      (table.set id (some environment) ⟨slot⟩).isSome = (table ⟨slot⟩).isSome := by
    intro slot different
    rw [set_of_ne fun equal => different (congrArg EnvironmentId.slot equal)]
  have was : (table ⟨id.slot⟩).isSome = false := by
    rw [vacant]
    rfl
  have now : (table.set id (some environment) ⟨id.slot⟩).isSome = true := by
    rw [set_self]
    rfl
  exact countP_range_set same was now below

theorem liveCount_remove {bound : Nat} (below : id.slot < bound)
    (found : table id = some environment) :
    (table.set id none).liveCount bound + 1 = table.liveCount bound := by
  have restored : (table.set id none).set id (some environment) = table := by
    funext other
    by_cases same : other = id
    · rw [same, set_self, found]
    · rw [set_of_ne same, set_of_ne same]
  have added : ((table.set id none).set id (some environment)).liveCount bound =
      (table.set id none).liveCount bound + 1 :=
    liveCount_add below (set_self table id none)
  rw [restored] at added
  exact added.symm

theorem Apart.add (apart : table.Apart key)
    (fresh : ∀ {other found}, table other = some found → key found ≠ key environment) :
    (table.set id (some environment)).Apart key := by
  intro first second firstFound secondFound foundFirst foundSecond equal
  rcases of_set_some foundFirst with ⟨rfl, rfl⟩ | ⟨-, old⟩
  · rcases of_set_some foundSecond with ⟨rfl, -⟩ | ⟨-, otherOld⟩
    · rfl
    · exact absurd equal.symm (fresh otherOld)
  · rcases of_set_some foundSecond with ⟨rfl, rfl⟩ | ⟨-, otherOld⟩
    · exact absurd equal (fresh old)
    · exact apart old otherOld equal

theorem Apart.remove (apart : table.Apart key) : (table.set id none).Apart key := by
  intro first second firstFound secondFound foundFirst foundSecond equal
  exact apart (of_set_none foundFirst).2 (of_set_none foundSecond).2 equal

theorem set_none_set (table : EnvironmentTable) (id : EnvironmentId)
    (record : Option Environment) : (table.set id none).set id record = table.set id record := by
  funext other
  by_cases same : other = id
  · rw [same, set_self, set_self]
  · rw [set_of_ne same, set_of_ne same, set_of_ne same]

/-- A record may be replaced by one with the same key. -/
theorem Apart.replace (apart : table.Apart key) {old : Environment} (found : table id = some old)
    (same : key environment = key old) : (table.set id (some environment)).Apart key := by
  rw [← set_none_set]
  apply apart.remove.add
  intro other otherEnvironment otherFound equal
  obtain ⟨different, before⟩ := of_set_none otherFound
  exact different (apart before found (equal.trans same))

theorem liveCount_replace {bound : Nat} {old : Environment} (found : table id = some old) :
    (table.set id (some environment)).liveCount bound = table.liveCount bound := by
  apply List.countP_congr
  intro slot _
  by_cases same : (⟨slot⟩ : EnvironmentId) = id
  · rw [same, set_self, found]
    rfl
  · rw [set_of_ne same]

end EnvironmentTable

/-! ## Pools that follow the records -/

/-- In a pool exactly the reserved numbers and those of the environments are in use, each of them
once. -/
structure IdentifierPool.Tracks (pool : IdentifierPool) (reserved capacity : Nat)
    (table : EnvironmentTable) (live : Nat) (number : Environment → Nat) : Prop where
  capacity_eq : pool.capacity = capacity
  inBitmap : capacity ≤ maxCapacity
  reservable : reserved ≤ capacity
  occupied_iff : ∀ identifier, pool.inUse.getLsbD identifier = true ↔
    identifier < reserved ∨ ∃ id environment, table id = some environment ∧
      number environment = identifier
  bounds : ∀ {id environment}, table id = some environment →
    reserved ≤ number environment ∧ number environment < capacity
  apart : table.Apart number
  count : pool.allocatedCount = reserved + live

namespace IdentifierPool.Tracks

variable {pool : IdentifierPool} {reserved capacity live : Nat} {table : EnvironmentTable}
  {number : Environment → Nat} {id : EnvironmentId} {environment : Environment}

theorem fits (tracks : pool.Tracks reserved capacity table live number) :
    pool.capacity ≤ maxCapacity := by
  rw [tracks.capacity_eq]
  exact tracks.inBitmap

theorem lt_of_offers (tracks : pool.Tracks reserved capacity table live number) {identifier : Nat}
    (offers : pool.Offers identifier) : identifier < capacity := by
  rw [← tracks.capacity_eq]
  exact offers.below

theorem isAllocated_iff (tracks : pool.Tracks reserved capacity table live number)
    (identifier : Nat) :
    pool.isAllocated identifier = true ↔
      identifier < reserved ∨ ∃ id environment, table id = some environment ∧
        number environment = identifier := by
  rw [isAllocated, Bool.and_eq_true, tracks.occupied_iff, decide_eq_true_iff, tracks.capacity_eq,
    and_iff_right_iff_imp]
  rintro (low | ⟨id, environment, found, rfl⟩)
  · exact Nat.lt_of_lt_of_le low tracks.reservable
  · exact (tracks.bounds found).2

theorem occupied (tracks : pool.Tracks reserved capacity table live number)
    (found : table id = some environment) :
    pool.inUse.getLsbD (number environment) = true :=
  (tracks.occupied_iff _).mpr (.inr ⟨id, environment, found, rfl⟩)

theorem fresh (tracks : pool.Tracks reserved capacity table live number) {identifier : Nat}
    (free : pool.inUse.getLsbD identifier = false) :
    reserved ≤ identifier ∧
      ∀ {other found}, table other = some found → number found ≠ identifier := by
  have unused : ¬ pool.inUse.getLsbD identifier = true := by
    rw [free]
    exact Bool.false_ne_true
  rw [tracks.occupied_iff] at unused
  refine ⟨Nat.le_of_not_lt fun below => unused (.inl below), ?_⟩
  intro other found live same
  exact unused (.inr ⟨other, found, live, same⟩)

theorem free_eq (tracks : pool.Tracks reserved capacity table live number) {identifier : Nat}
    (below : identifier < capacity) (occupied : pool.inUse.getLsbD identifier = true) :
    pool.free identifier = .ok (pool.drop identifier) := by
  rw [← tracks.capacity_eq] at below
  exact free_of_occupied below occupied

/-- A new environment takes its number from the pool. -/
theorem add (tracks : pool.Tracks reserved capacity table live number)
    (environment : Environment) (vacant : table id = none) (below : number environment < capacity)
    (free : pool.inUse.getLsbD (number environment) = false) :
    (pool.take (number environment)).Tracks reserved capacity
      (table.set id (some environment)) (live + 1) number := by
  have inBitmap := Nat.lt_of_lt_of_le below tracks.inBitmap
  obtain ⟨above, unused⟩ := tracks.fresh free
  refine
    { capacity_eq := tracks.capacity_eq, inBitmap := tracks.inBitmap,
      reservable := tracks.reservable, occupied_iff := ?_, bounds := ?_,
      apart := tracks.apart.add unused, count := ?_ }
  · intro identifier
    rw [getLsbD_take inBitmap, Bool.or_eq_true, tracks.occupied_iff, decide_eq_true_iff]
    constructor
    · rintro ((low | ⟨other, found, live, same⟩) | rfl)
      · exact .inl low
      · refine .inr ⟨other, found, ?_, same⟩
        rw [EnvironmentTable.set_of_ne, live]
        rintro rfl
        rw [vacant] at live
        cases live
      · exact .inr ⟨id, environment, EnvironmentTable.set_self _ _ _, rfl⟩
    · rintro (low | ⟨other, found, live, same⟩)
      · exact .inl (.inl low)
      · rcases EnvironmentTable.of_set_some live with ⟨-, rfl⟩ | ⟨-, before⟩
        · exact .inr same.symm
        · exact .inl (.inr ⟨other, found, before, same⟩)
  · intro other found live
    rcases EnvironmentTable.of_set_some live with ⟨-, rfl⟩ | ⟨-, before⟩
    · exact ⟨above, below⟩
    · exact tracks.bounds before
  · rw [allocatedCount_take inBitmap free, tracks.count]
    omega

/-- An environment that is gone has given its number back. -/
theorem remove (tracks : pool.Tracks reserved capacity table (live + 1) number)
    (found : table id = some environment) :
    (pool.drop (number environment)).Tracks reserved capacity (table.set id none) live number := by
  have bounds := tracks.bounds found
  have inBitmap := Nat.lt_of_lt_of_le bounds.2 tracks.inBitmap
  refine
    { capacity_eq := tracks.capacity_eq, inBitmap := tracks.inBitmap,
      reservable := tracks.reservable, occupied_iff := ?_, bounds := ?_,
      apart := tracks.apart.remove, count := ?_ }
  · intro identifier
    rw [getLsbD_drop inBitmap, Bool.and_eq_true, tracks.occupied_iff, Bool.not_eq_true',
      decide_eq_false_iff_not]
    constructor
    · rintro ⟨low | ⟨other, otherFound, live, same⟩, different⟩
      · exact .inl low
      · refine .inr ⟨other, otherFound, ?_, same⟩
        rw [EnvironmentTable.set_of_ne, live]
        rintro rfl
        rw [found] at live
        rw [← Option.some.inj live] at same
        exact different same.symm
    · rintro (low | ⟨other, otherFound, live, same⟩)
      · exact ⟨.inl low, by omega⟩
      · obtain ⟨different, before⟩ := EnvironmentTable.of_set_none live
        refine ⟨.inr ⟨other, otherFound, before, same⟩, fun equal => ?_⟩
        exact different (tracks.apart before found (same.trans equal))
  · intro other otherFound live
    exact tracks.bounds (EnvironmentTable.of_set_none live).2
  · have dropped := allocatedCount_drop inBitmap (tracks.occupied found)
    have count := tracks.count
    omega

/-- A record may change as long as it keeps its number. -/
theorem replace (tracks : pool.Tracks reserved capacity table live number) {old : Environment}
    (found : table id = some old) (same : number environment = number old) :
    pool.Tracks reserved capacity (table.set id (some environment)) live number := by
  refine
    { capacity_eq := tracks.capacity_eq, inBitmap := tracks.inBitmap,
      reservable := tracks.reservable, occupied_iff := ?_, bounds := ?_,
      apart := tracks.apart.replace found same, count := tracks.count }
  · intro identifier
    rw [tracks.occupied_iff]
    constructor
    · rintro (low | ⟨other, otherFound, live, equal⟩)
      · exact .inl low
      · by_cases here : other = id
        · subst here
          rw [found] at live
          rw [← Option.some.inj live, ← same] at equal
          exact .inr ⟨other, environment, EnvironmentTable.set_self _ _ _, equal⟩
        · exact .inr ⟨other, otherFound, (EnvironmentTable.set_of_ne here _).trans live, equal⟩
    · rintro (low | ⟨other, otherFound, live, equal⟩)
      · exact .inl low
      · rcases EnvironmentTable.of_set_some live with ⟨-, rfl⟩ | ⟨-, before⟩
        · rw [same] at equal
          exact .inr ⟨id, old, found, equal⟩
        · exact .inr ⟨other, otherFound, before, equal⟩
  · intro other otherFound live
    rcases EnvironmentTable.of_set_some live with ⟨-, rfl⟩ | ⟨-, before⟩
    · rw [same]
      exact tracks.bounds found
    · exact tracks.bounds before

end IdentifierPool.Tracks

/-! ## The invariant -/

namespace VirtualMemory

/-- The trees of the environments that live. -/
def liveSpaces (state : VirtualMemory) : Set AddressSpace :=
  {space | ∃ id environment, state.environments id = some environment ∧ environment.space = space}

/-- The number of environments that live. -/
def liveCount (state : VirtualMemory) : Nat :=
  EnvironmentTable.liveCount state.environments state.config.maxEnvironments

/-- Pools, records and tables agree. -/
structure Consistent (state : VirtualMemory) : Prop where
  sound : state.tables.Sound state.heap.start.toNat state.liveSpaces
  rootsApart : EnvironmentTable.Apart state.environments Environment.root
  processesApart : EnvironmentTable.Apart state.environments Environment.process
  identified : ∀ ⦃id environment⦄, state.environments id = some environment → environment.id = id
  slots : state.slots.Tracks 0 state.config.maxEnvironments state.environments state.liveCount
    (·.id.slot)
  domains : state.domains.Tracks state.config.reservedDomains state.config.domains
    state.environments state.liveCount (·.domain.number)
  asids : state.asids.Tracks state.config.reservedAsids state.config.asids state.environments
    state.liveCount (·.asid.toNat)
  domainLimit : state.config.domains ≤ Domain.count
  asidLimit : state.config.asids ≤ Capacity.asids
  processLimit : state.lastProcess.toNat ≤ ContextId.maxProcess
  processBound : ∀ ⦃id environment⦄, state.environments id = some environment →
    environment.process.toNat ≤ state.lastProcess.toNat
  activeLive : ∀ ⦃id⦄, state.active = some id →
    ∃ environment, state.environments id = some environment

namespace Consistent

variable {state : VirtualMemory} {id : EnvironmentId} {environment : Environment}

theorem slot_lt (consistent : state.Consistent)
    (found : state.environments id = some environment) :
    id.slot < state.config.maxEnvironments := by
  have bounds := consistent.slots.bounds found
  rw [consistent.identified found] at bounds
  exact bounds.2

theorem mem_liveSpaces (found : state.environments id = some environment) :
    environment.space ∈ state.liveSpaces :=
  ⟨id, environment, found, rfl⟩

theorem liveSpaces_setDomainAccess (found : state.environments id = some environment)
    (access : DomainAccessControl) :
    (setEnvironment id (some { environment with domainAccess := access }) state).liveSpaces ⊆
      state.liveSpaces := by
  rintro space ⟨other, owner, live, rfl⟩
  rcases EnvironmentTable.of_set_some live with ⟨-, rfl⟩ | ⟨-, before⟩
  · exact ⟨id, environment, found, rfl⟩
  · exact mem_liveSpaces before

theorem of_registers (consistent : state.Consistent) (registers : SystemRegisters) :
    ({ state with registers := registers } : VirtualMemory).Consistent :=
  { consistent with }

theorem of_tables (consistent : state.Consistent) {tables : TableMemory BumpHeap}
    (sound : tables.Sound state.heap.start.toNat state.liveSpaces)
    (sameStart : tables.source.start = state.heap.start) :
    ({ state with tables := tables } : VirtualMemory).Consistent :=
  { consistent with
    sound := by
      change tables.Sound tables.source.start.toNat state.liveSpaces
      rw [sameStart]
      exact sound }

theorem of_active (consistent : state.Consistent) {active : Option EnvironmentId}
    (live : ∀ ⦃id⦄, active = some id → ∃ environment, state.environments id = some environment) :
    ({ state with active := active } : VirtualMemory).Consistent :=
  { consistent with activeLive := live }

/-- What the domain register will hold for an environment is no part of the bookkeeping. -/
theorem of_domainAccess (consistent : state.Consistent)
    (found : state.environments id = some environment) (access : DomainAccessControl) :
    (setEnvironment id (some { environment with domainAccess := access }) state).Consistent := by
  have sameCount : (setEnvironment id (some { environment with domainAccess := access })
      state).liveCount = state.liveCount :=
    EnvironmentTable.liveCount_replace found
  constructor
  · exact consistent.sound.restrict (liveSpaces_setDomainAccess found access)
  · exact consistent.rootsApart.replace found rfl
  · exact consistent.processesApart.replace found rfl
  · intro other owner live
    rcases EnvironmentTable.of_set_some live with ⟨rfl, rfl⟩ | ⟨-, before⟩
    · have identified := consistent.identified found
      exact identified
    · exact consistent.identified before
  · rw [sameCount]
    exact consistent.slots.replace found rfl
  · rw [sameCount]
    exact consistent.domains.replace found rfl
  · rw [sameCount]
    exact consistent.asids.replace found rfl
  · exact consistent.domainLimit
  · exact consistent.asidLimit
  · exact consistent.processLimit
  · intro other owner live
    rcases EnvironmentTable.of_set_some live with ⟨-, rfl⟩ | ⟨-, before⟩
    · have bound := consistent.processBound found
      exact bound
    · exact consistent.processBound before
  · intro other active
    obtain ⟨owner, live⟩ := consistent.activeLive active
    by_cases same : other = id
    · exact ⟨_, by rw [same]; exact EnvironmentTable.set_self _ _ _⟩
    · exact ⟨owner, (EnvironmentTable.set_of_ne same _).trans live⟩

end Consistent

/-! ## New and retired environments -/

/-- The environment that the next allocation makes from the identifiers it was granted. -/
def nextEnvironment (state : VirtualMemory) (slot domain asid : Nat) : Environment where
  id := ⟨slot⟩
  process := BitVec.ofNat 32 (state.lastProcess.toNat + 1)
  domain := ⟨BitVec.ofNat 4 domain⟩
  asid := BitVec.ofNat 8 asid
  domainAccess := .only ⟨BitVec.ofNat 4 domain⟩ .client
  root := state.tables.nextTable .first

/-- The state after the next environment has been made. -/
def afterAllocate (state : VirtualMemory) (slot domain asid : Nat) : VirtualMemory where
  registers := state.registers
  tables := state.tables.afterRoot
  config := state.config
  slots := state.slots.take slot
  domains := state.domains.take domain
  asids := state.asids.take asid
  environments := EnvironmentTable.set state.environments ⟨slot⟩
    (some (state.nextEnvironment slot domain asid))
  lastProcess := BitVec.ofNat 32 (state.lastProcess.toNat + 1)
  active := state.active

/-- The state after an environment has been retired. -/
def afterFree (state : VirtualMemory) (id : EnvironmentId) (environment : Environment) :
    VirtualMemory where
  registers := state.registers
  tables := state.tables
  config := state.config
  slots := state.slots.drop id.slot
  domains := state.domains.drop environment.domain.number
  asids := state.asids.drop environment.asid.toNat
  environments := EnvironmentTable.set state.environments id none
  lastProcess := state.lastProcess
  active := state.active

theorem liveSpaces_afterAllocate (state : VirtualMemory) (slot domain asid : Nat) :
    (state.afterAllocate slot domain asid).liveSpaces ⊆
      insert state.tables.nextSpace state.liveSpaces := by
  rintro space ⟨other, owner, live, rfl⟩
  rcases EnvironmentTable.of_set_some live with ⟨-, rfl⟩ | ⟨-, before⟩
  · exact .inl rfl
  · exact .inr (Consistent.mem_liveSpaces before)

theorem liveSpaces_afterFree (state : VirtualMemory) (id : EnvironmentId)
    (environment : Environment) :
    (state.afterFree id environment).liveSpaces ⊆ state.liveSpaces := by
  rintro space ⟨other, owner, live, rfl⟩
  exact Consistent.mem_liveSpaces (EnvironmentTable.of_set_none live).2

theorem number_nextEnvironment_of_lt (state : VirtualMemory) (slot asid : Nat) {domain : Nat}
    (below : domain < Domain.count) :
    (state.nextEnvironment slot domain asid).domain.number = domain := by
  simp only [Domain.count] at below
  simp only [nextEnvironment, Domain.number, BitVec.toNat_ofNat]
  omega

theorem asid_nextEnvironment_of_lt (state : VirtualMemory) (slot domain : Nat) {asid : Nat}
    (below : asid < Capacity.asids) :
    (state.nextEnvironment slot domain asid).asid.toNat = asid := by
  simp only [Capacity.asids] at below
  simp only [nextEnvironment, BitVec.toNat_ofNat]
  omega

/-- The identifiers that the next allocation is granted, and the room that it finds. -/
structure Grants (state : VirtualMemory) (slot domain asid : Nat) : Prop where
  process : state.lastProcess.toNat < ContextId.maxProcess
  slot : state.slots.Offers slot
  domain : state.domains.Offers domain
  asid : state.asids.Offers asid
  room : TableLevel.first.Fits state.tables.cursor state.tables.limit

namespace Consistent

variable {state : VirtualMemory}

theorem vacant_of_free (consistent : state.Consistent) {slot : Nat}
    (free : state.slots.inUse.getLsbD slot = false) : state.environments ⟨slot⟩ = none := by
  rcases found : state.environments ⟨slot⟩ with _ | environment
  · rfl
  · have unused := (consistent.slots.fresh free).2 found
    rw [consistent.identified found] at unused
    exact absurd rfl unused

theorem number_nextEnvironment (consistent : state.Consistent) {slot domain asid : Nat}
    (grants : state.Grants slot domain asid) :
    (state.nextEnvironment slot domain asid).domain.number = domain :=
  number_nextEnvironment_of_lt _ _ _
    (Nat.lt_of_lt_of_le (consistent.domains.lt_of_offers grants.domain) consistent.domainLimit)

theorem asid_nextEnvironment (consistent : state.Consistent) {slot domain asid : Nat}
    (grants : state.Grants slot domain asid) :
    (state.nextEnvironment slot domain asid).asid.toNat = asid :=
  asid_nextEnvironment_of_lt _ _ _
    (Nat.lt_of_lt_of_le (consistent.asids.lt_of_offers grants.asid) consistent.asidLimit)

theorem process_nextEnvironment {slot domain asid : Nat}
    (grants : state.Grants slot domain asid) :
    (state.nextEnvironment slot domain asid).process.toNat = state.lastProcess.toNat + 1 := by
  have bound := grants.process
  simp only [ContextId.maxProcess] at bound
  simp only [nextEnvironment, BitVec.toNat_ofNat]
  omega

theorem afterAllocate (consistent : state.Consistent) {slot domain asid : Nat}
    (grants : state.Grants slot domain asid) :
    (state.afterAllocate slot domain asid).Consistent := by
  have vacant := consistent.vacant_of_free grants.slot.free
  have slotBelow := consistent.slots.lt_of_offers grants.slot
  have domainBelow := consistent.domains.lt_of_offers grants.domain
  have asidBelow := consistent.asids.lt_of_offers grants.asid
  have number := consistent.number_nextEnvironment grants
  have asidNumber := consistent.asid_nextEnvironment grants
  have process := process_nextEnvironment grants
  have count : (state.afterAllocate slot domain asid).liveCount = state.liveCount + 1 := by
    rw [liveCount, liveCount]
    exact EnvironmentTable.liveCount_add slotBelow vacant
  have sameStart : (state.afterAllocate slot domain asid).heap.start = state.heap.start :=
    BumpHeap.start_moveTo _ state.heap
  constructor
  · rw [sameStart]
    exact (consistent.sound.afterRoot grants.room).restrict
      (liveSpaces_afterAllocate state slot domain asid)
  · apply consistent.rootsApart.add
    intro other owner live same
    have fresh := consistent.sound.nextSpace_not_mem grants.room
    have sameSpace : owner.space = state.tables.nextSpace := congrArg AddressSpace.mk same
    exact fresh ⟨other, owner, live, sameSpace⟩
  · apply consistent.processesApart.add
    intro other owner live same
    have bound := consistent.processBound live
    rw [same, process] at bound
    omega
  · intro other owner live
    rcases EnvironmentTable.of_set_some live with ⟨rfl, rfl⟩ | ⟨-, before⟩
    · rfl
    · exact consistent.identified before
  · rw [count]
    exact consistent.slots.add (state.nextEnvironment slot domain asid) vacant slotBelow
      grants.slot.free
  · rw [count]
    have added := consistent.domains.add (state.nextEnvironment slot domain asid) vacant
    rw [number] at added
    exact added domainBelow grants.domain.free
  · rw [count]
    have added := consistent.asids.add (state.nextEnvironment slot domain asid) vacant
    rw [asidNumber] at added
    exact added asidBelow grants.asid.free
  · exact consistent.domainLimit
  · exact consistent.asidLimit
  · have bound := grants.process
    change (state.nextEnvironment slot domain asid).process.toNat ≤ ContextId.maxProcess
    omega
  · intro other owner live
    rcases EnvironmentTable.of_set_some live with ⟨-, rfl⟩ | ⟨-, before⟩
    · exact Nat.le_refl _
    · have bound := consistent.processBound before
      change owner.process.toNat ≤ (state.nextEnvironment slot domain asid).process.toNat
      omega
  · intro other active
    obtain ⟨owner, live⟩ := consistent.activeLive active
    refine ⟨owner, (EnvironmentTable.set_of_ne ?_ _).trans live⟩
    rintro rfl
    rw [vacant] at live
    cases live

theorem afterFree (consistent : state.Consistent) {id : EnvironmentId}
    {environment : Environment} (found : state.environments id = some environment)
    (inactive : state.active ≠ some id) : (state.afterFree id environment).Consistent := by
  have count : (state.afterFree id environment).liveCount + 1 = state.liveCount :=
    EnvironmentTable.liveCount_remove (consistent.slot_lt found) found
  have slots := consistent.slots
  have domains := consistent.domains
  have asids := consistent.asids
  rw [← count] at slots domains asids
  constructor
  · exact consistent.sound.restrict (liveSpaces_afterFree state id environment)
  · exact consistent.rootsApart.remove
  · exact consistent.processesApart.remove
  · intro other owner live
    exact consistent.identified (EnvironmentTable.of_set_none live).2
  · have removed := slots.remove found
    rw [consistent.identified found] at removed
    exact removed
  · exact domains.remove found
  · exact asids.remove found
  · exact consistent.domainLimit
  · exact consistent.asidLimit
  · exact consistent.processLimit
  · intro other owner live
    exact consistent.processBound (EnvironmentTable.of_set_none live).2
  · intro other active
    obtain ⟨owner, live⟩ := consistent.activeLive active
    refine ⟨owner, (EnvironmentTable.set_of_ne ?_ _).trans live⟩
    rintro rfl
    exact inactive active

end Consistent

end VirtualMemory

end Armv6Kernel
