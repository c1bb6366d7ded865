import Armv6Kernel.Proofs.VirtualMemory.Allocation
import Armv6Kernel.Proofs.VirtualMemory.ProcessNumbers

/-!
# Numbers that are held back

A configuration says how many domains and address space identifiers are held back.  No environment
of a run gets one of these numbers, wherever the heap lies.  Whatever is not held back is given
away, the least number first.  So number zero, which stands in the context register while the table
changes, is kept from the environments only by a configuration that holds it back.
-/

namespace Armv6Kernel

/-- The first numbers are in use for good, and no environment has one of them. -/
structure IdentifierPool.HoldsBack (pool : IdentifierPool) (reserved : Nat)
    (table : EnvironmentTable) (number : Environment → Nat) : Prop where
  occupied : ∀ identifier < reserved, pool.inUse.getLsbD identifier = true
  above : ∀ {id environment}, table id = some environment → reserved ≤ number environment

namespace IdentifierPool.HoldsBack

variable {pool : IdentifierPool} {reserved : Nat} {table : EnvironmentTable}
  {number : Environment → Nat} {id : EnvironmentId} {environment : Environment}

theorem create {capacity : Nat} (created : create reserved capacity = .ok pool)
    (number : Environment → Nat) : pool.HoldsBack reserved (fun _ => none) number where
  occupied identifier below := by
    rw [(create_eq_ok created).2.2.2.1, decide_eq_true below]
  above impossible := nomatch impossible

theorem le_of_offers (holds : pool.HoldsBack reserved table number) {identifier : Nat}
    (offers : pool.Offers identifier) : reserved ≤ identifier := by
  by_contra below
  have occupied := holds.occupied identifier (Nat.lt_of_not_le below)
  rw [offers.free] at occupied
  cases occupied

theorem take (holds : pool.HoldsBack reserved table number) (fits : pool.capacity ≤ maxCapacity)
    {identifier : Nat} (offers : pool.Offers identifier) :
    (pool.take identifier).HoldsBack reserved table number where
  occupied other below := getLsbD_take_of_occupied fits offers (holds.occupied other below)
  above := holds.above

theorem add (holds : pool.HoldsBack reserved table number) (fits : pool.capacity ≤ maxCapacity)
    (id : EnvironmentId) {identifier : Nat} (offers : pool.Offers identifier)
    (given : number environment = identifier) :
    (pool.take identifier).HoldsBack reserved (table.set id (some environment)) number := by
  refine ⟨(holds.take fits offers).occupied, fun live => ?_⟩
  rcases EnvironmentTable.of_set_some live with ⟨-, rfl⟩ | ⟨-, before⟩
  · rw [given]
    exact holds.le_of_offers offers
  · exact holds.above before

/-- The number of an environment that is gone was none of those held back. -/
theorem remove (holds : pool.HoldsBack reserved table number) (backs : pool.Backs table number)
    (found : table id = some environment) :
    (pool.drop (number environment)).HoldsBack reserved (table.set id none) number := by
  refine ⟨fun other below => ?_, fun live => holds.above (EnvironmentTable.of_set_none live).2⟩
  have given := holds.above found
  have inBitmap := BitVec.lt_of_getLsbD (backs.occupied found)
  have different : other ≠ number environment := by omega
  rw [getLsbD_drop inBitmap, holds.occupied other below, decide_eq_false different]
  rfl

theorem replace (holds : pool.HoldsBack reserved table number) {old : Environment}
    (found : table id = some old) (same : number environment = number old) :
    pool.HoldsBack reserved (table.set id (some environment)) number := by
  refine ⟨holds.occupied, fun live => ?_⟩
  rcases EnvironmentTable.of_set_some live with ⟨-, rfl⟩ | ⟨-, before⟩
  · rw [same]
    exact holds.above found
  · exact holds.above before

end IdentifierPool.HoldsBack

/-- The environment has none of the numbers that the configuration holds back. -/
def VirtualMemoryConfig.Releases (config : VirtualMemoryConfig) (environment : Environment) :
    Prop :=
  config.reservedDomains ≤ environment.domain.number ∧
    config.reservedAsids ≤ environment.asid.toNat

namespace VirtualMemory

open IdentifierPool.Tracks (Unheld)

/-- The numbers that a configuration holds back are held back. -/
structure HoldsBack (state : VirtualMemory) (config : VirtualMemoryConfig) : Prop where
  domains : state.domains.HoldsBack config.reservedDomains state.environments (·.domain.number)
  asids : state.asids.HoldsBack config.reservedAsids state.environments (·.asid.toNat)

variable {config : VirtualMemoryConfig} {state after : VirtualMemory}
  {request : VirtualMemoryRequest} {requests : List VirtualMemoryRequest}
  {environment : Environment}

/-! ## Above what is held back -/

theorem HoldsBack.releases (holds : state.HoldsBack config) {id : EnvironmentId}
    (found : state.environments id = some environment) : config.Releases environment :=
  ⟨holds.domains.above found, holds.asids.above found⟩

theorem Work.holdsBack (work : Work state request after) (orderly : state.Orderly)
    (holds : state.HoldsBack config) : after.HoldsBack config := by
  cases work with
  | idle moved => exact ⟨holds.domains, holds.asids⟩
  | lost slots domains asids moved =>
      exact ⟨holds.domains.take orderly.domains.fits domains,
        holds.asids.take orderly.asids.fits asids⟩
  | allocated asked grants =>
      have domainBelow := Nat.lt_of_lt_of_le grants.domain.below orderly.domainLimit
      have asidBelow := Nat.lt_of_lt_of_le grants.asid.below orderly.asidLimit
      exact ⟨holds.domains.add orderly.domains.fits _ grants.domain
          (number_nextEnvironment_of_lt state _ _ domainBelow),
        holds.asids.add orderly.asids.fits _ grants.asid
          (asid_nextEnvironment_of_lt state _ _ asidBelow)⟩
  | freed asked found =>
      exact ⟨holds.domains.remove orderly.domains found, holds.asids.remove orderly.asids found⟩
  | granted asked found =>
      exact ⟨holds.domains.replace found rfl, holds.asids.replace found rfl⟩
  | mapped concerns found installs maps extent planted => exact ⟨holds.domains, holds.asids⟩

/-- A new environment lives in the state that the request leaves. -/
theorem recorded_of_made? (makes : state.made? request = some environment) :
    ∃ id, (state.serve request).environments id = some environment := by
  cases request with
  | allocate =>
      rw [made?] at makes
      split at makes
      · next id ended => exact ⟨id, makes⟩
      · cases makes
  | _ => cases makes

theorem HoldsBack.run (holds : state.HoldsBack config) (orderly : state.Orderly)
    (requests : List VirtualMemoryRequest) :
    (state.serveAll requests).HoldsBack config ∧
      ∀ environment ∈ state.made requests, config.Releases environment := by
  induction requests generalizing state with
  | nil => exact ⟨holds, fun environment impossible => absurd impossible List.not_mem_nil⟩
  | cons request later hypothesis =>
      have next := (orderly.work request).holdsBack orderly holds
      obtain ⟨last, rest⟩ := hypothesis next (orderly.after_serve request)
      refine ⟨last, fun environment member => ?_⟩
      rcases List.mem_append.mp member with here | after
      · obtain ⟨id, found⟩ := recorded_of_made? (Option.mem_toList.mp here)
        exact next.releases found
      · exact rest environment after

theorem holdsBack_init {tables : TableMemory BumpHeap} {registers final : SystemRegisters}
    (accepted : (VirtualMemory.init tables config :
      Action SystemRegisters Empty VirtualMemory).effect registers = (.value state, final)) :
    state.HoldsBack config := by
  obtain ⟨-, slots, domains, asids, -, domainsMade, asidsMade, rfl⟩ := of_init accepted
  exact ⟨.create domainsMade _, .create asidsMade _⟩

/-! ## From the first number that is not held back -/

theorem eq_of_isLeast_unheld {reserved identifier : Nat} {table : EnvironmentTable}
    {number : Environment → Nat} (nobody : ∀ id, table id = none)
    (least : IsLeast (Unheld reserved table number) identifier) : identifier = reserved := by
  have unheld : reserved ∈ Unheld reserved table number := by
    refine ⟨Nat.le_refl _, fun id environment found => ?_⟩
    rw [nobody id] at found
    cases found
  exact Nat.le_antisymm (least.2 unheld) least.1.1

/-- Where nobody lives, somebody lives after a request only if it made an environment. -/
theorem Orderly.nobody_of_none_made (orderly : state.Orderly)
    (nobody : ∀ id, state.environments id = none) (unmade : state.made? request = none)
    (id : EnvironmentId) : (state.serve request).environments id = none := by
  rcases orderly.made?_cases request with ⟨environment, makes, -, -⟩ | ⟨-, counter⟩
  · rw [unmade] at makes
    cases makes
  · have work := orderly.work request
    generalize state.serve request = after at work counter
    cases work with
    | allocated asked grants =>
        -- The counter tells this case from the others.
        have next := Consistent.process_nextEnvironment grants
        have same := congrArg BitVec.toNat counter
        exact absurd (next.symm.trans same) (Nat.succ_ne_self _)
    | freed asked found =>
        rw [nobody] at found
        cases found
    | granted asked found =>
        rw [nobody] at found
        cases found
    | _ => exact nobody id

/-- The first environment of all gets the first numbers that are not held back. -/
theorem Consistent.first_made (consistent : state.Consistent) (orderly : state.Orderly)
    (nobody : ∀ id, state.environments id = none) {later : List Environment}
    (list : state.made requests = environment :: later) :
    environment.domain.number = state.config.reservedDomains ∧
      environment.asid.toNat = state.config.reservedAsids := by
  induction requests generalizing state with
  | nil => cases list
  | cons request rest hypothesis =>
      rw [made] at list
      rcases makes : state.made? request with _ | first
      · rw [makes] at list
        have same : (state.serve request).config = state.config :=
          (consistent.bounds_serveAll [request]).1
        rw [← same]
        exact hypothesis (consistent.after_serve request) (orderly.after_serve request)
          (orderly.nobody_of_none_made nobody makes) list
      · rw [makes] at list
        obtain rfl : first = environment := (List.cons.inj list).1
        obtain rfl : request = .allocate := by
          cases request with
          | allocate => rfl
          | _ => cases makes
        rcases orderly.allocate_cases with ⟨slot, domain, asid, grants, ending⟩ | ⟨failed, -⟩
        · rw [made?_of_grants ending] at makes
          cases makes
          have given := consistent.makes grants
          exact ⟨eq_of_isLeast_unheld nobody given.domain, eq_of_isLeast_unheld nobody given.asid⟩
        · rw [made?_of_failed failed] at makes
          cases makes

/-- Where the numbers of the environments of a run begin. -/
structure NumbersFrom (state : VirtualMemory) (config : VirtualMemoryConfig)
    (requests : List VirtualMemoryRequest) : Prop where
  made : ∀ environment ∈ state.made requests, config.Releases environment
  living : ∀ id environment, (state.serveAll requests).environments id = some environment →
    config.Releases environment

/-- Which environments of a run get the number zero. -/
structure ReachesZero (state : VirtualMemory) (config : VirtualMemoryConfig)
    (requests : List VirtualMemoryRequest) : Prop where
  first : ∀ environment later, state.made requests = environment :: later →
    environment.domain.number = config.reservedDomains ∧
      environment.asid.toNat = config.reservedAsids
  domain_iff : (∃ environment ∈ state.made requests, environment.domain.number = 0) ↔
    config.reservedDomains = 0 ∧ state.made requests ≠ []
  asid_iff : (∃ environment ∈ state.made requests,
      environment.asid = ContextId.reserved.asid) ↔
    config.reservedAsids = 0 ∧ state.made requests ≠ []

/-- Somebody has the number zero exactly if numbers begin at zero and anything has been made. -/
theorem exists_zero_iff {made : List Environment} {number : Environment → Nat} {reserved : Nat}
    (above : ∀ environment ∈ made, reserved ≤ number environment)
    (first : ∀ environment later, made = environment :: later → number environment = reserved) :
    (∃ environment ∈ made, number environment = 0) ↔ reserved = 0 ∧ made ≠ [] := by
  constructor
  · rintro ⟨environment, member, zero⟩
    have bound := above environment member
    exact ⟨by omega, List.ne_nil_of_mem member⟩
  · rintro ⟨zero, nonempty⟩
    obtain ⟨environment, later, list⟩ := List.exists_cons_of_ne_nil nonempty
    rw [list]
    exact ⟨environment, List.mem_cons_self, (first environment later list).trans zero⟩

theorem NumbersFrom.reachesZero (numbers : state.NumbersFrom config requests)
    (first : ∀ environment later, state.made requests = environment :: later →
      environment.domain.number = config.reservedDomains ∧
        environment.asid.toNat = config.reservedAsids) :
    state.ReachesZero config requests := by
  have parked : ∀ asid : BitVec 8, asid = ContextId.reserved.asid ↔ asid.toNat = 0 :=
    fun asid => ⟨fun same => congrArg BitVec.toNat same, fun zero => BitVec.eq_of_toNat_eq zero⟩
  refine ⟨first, ?_, ?_⟩
  · exact exists_zero_iff (fun environment member => (numbers.made environment member).1)
      fun environment later list => (first environment later list).1
  · simp only [parked]
    exact exists_zero_iff (fun environment member => (numbers.made environment member).2)
      fun environment later list => (first environment later list).2

/-- No run gives away what the configuration holds back, and nothing else is held back: if the heap
lies in memory, the first environment gets number zero where the configuration holds nothing
back. -/
theorem numbersFrom_serveAll {tables : TableMemory BumpHeap} {registers final : SystemRegisters}
    (accepted : (VirtualMemory.init tables config :
      Action SystemRegisters Empty VirtualMemory).effect registers = (.value state, final)) :
    ∀ requests, state.NumbersFrom config requests ∧
      (HeapInMemory tables → state.ReachesZero config requests) := by
  intro requests
  have orderly := orderly_init accepted
  obtain ⟨last, made⟩ := (holdsBack_init accepted).run orderly requests
  have numbers : state.NumbersFrom config requests :=
    ⟨made, fun id environment found => last.releases found⟩
  refine ⟨numbers, fun inMemory => numbers.reachesZero ?_⟩
  have consistent := consistent_init inMemory accepted
  intro environment later list
  obtain ⟨-, slots, domains, asids, -, -, -, rfl⟩ := of_init accepted
  exact consistent.first_made orderly (fun _ => rfl) list

/-- Virtual memory just set up with nothing held back. -/
def unreservedMachine : VirtualMemory :=
  { smallMachine with
    config := { VirtualMemoryConfig.standard with reservedDomains := 0, reservedAsids := 0 }
    domains := ⟨16, 0⟩
    asids := ⟨64, 0⟩ }

/-- The configuration is accepted, and the first environment gets domain zero and the identifier
that the context register is parked on. -/
theorem numbersFrom_serveAll_unreservedMachine :
    (unreservedMachine.made [.allocate]).map
        (fun environment => (environment.domain.number, environment.asid)) =
      [(0, ContextId.reserved.asid)] ∧
    ∀ requests, unreservedMachine.ReachesZero unreservedMachine.config requests := by
  have accepted : (VirtualMemory.init unreservedMachine.tables unreservedMachine.config :
      Action SystemRegisters Empty VirtualMemory).effect (.reset .fresh) =
        (.value unreservedMachine, (SystemRegisters.reset .fresh).initialized) := rfl
  have simulated : PhysicalMemory.simulated 0x140000 0x40000 = .ok smallMachine.memory := rfl
  have created : BumpHeap.create ⟨0x140000⟩ ⟨0x180000⟩ = .ok smallMachine.heap := rfl
  have inMemory : HeapInMemory unreservedMachine.tables :=
    heapInMemory_of_simulated simulated created (by decide) (by decide) (by decide)
  exact ⟨by decide +kernel, fun requests => (numbersFrom_serveAll accepted requests).2 inMemory⟩

end VirtualMemory

end Armv6Kernel
