import Armv6Kernel.Proofs.Register.DomainCells
import Armv6Kernel.Proofs.VirtualMemory.Activity
import Armv6Kernel.Proofs.VirtualMemory.Orderly

/-!
# Environments are confined to their domains

Whatever is mapped in an environment, every section and every coarse table of its tree is in the
domain of the environment.  As long as nobody replaces its domain access, an active environment
therefore finds that it is a client of all that is mapped in its own tree, and that it has no access
to what is mapped in any other.
-/

namespace Armv6Kernel

/-- The domain of what a first-level slot holds. -/
def FirstLevelEntry.domain? : FirstLevelEntry → Option Domain
  | coarse pointer => some pointer.domain
  | section1M descriptor => some descriptor.domain
  | _ => none

/-- The environment has the domain access that it was made with. -/
def Environment.Original (environment : Environment) : Prop :=
  environment.domainAccess = .only environment.domain .client

/-- Every section and every coarse table of the tree is in the domain. -/
def AddressSpace.ConfinedTo (space : AddressSpace) (memory : PhysicalMemory) (domain : Domain) :
    Prop :=
  ∀ index found, (space.entry memory index).domain? = some found → found = domain

theorem AddressSpace.ConfinedTo.of_entry_eq {space : AddressSpace} {memory after : PhysicalMemory}
    {domain : Domain} (confined : space.ConfinedTo memory domain)
    (same : ∀ index, space.entry after index = space.entry memory index) :
    space.ConfinedTo after domain := by
  intro index found named
  rw [same] at named
  exact confined index found named

section Mapping

variable {A : Type} [TableSource A] [CursorSource A] {tables after : TableMemory A} {low : Nat}
  {spaces : Set AddressSpace} {space : AddressSpace} {granule : Granule}
  {start : VirtualAddress} {physical : PhysicalAddress} {domain : Domain} {flags : MapFlags}
  {descriptor : Descriptor (.mapping granule)}

/-- A mapping is in the domain that it was asked for in, or below a coarse table that was there
before. -/
theorem Installs.confinedTo
    (installs : Installs tables space start physical domain flags descriptor after)
    (sound : tables.Sound low spaces) (member : space ∈ spaces)
    (confined : space.ConfinedTo tables.memory domain) : space.ConfinedTo after.memory domain := by
  intro index found named
  by_cases here : index = .ofAddress start
  · subst here
    rcases installs.entry_cases sound member with
      ⟨-, -, ⟨section1M, made, filled⟩, -⟩ | ⟨-, ⟨pointer, linked, kept⟩, -⟩ |
      ⟨-, -, -, ⟨pointer, made, linked⟩, -⟩
    · rw [filled] at named
      cases named
      exact (Descriptor.forSection_eq_ok made).2
    · rw [kept, ← linked] at named
      exact confined _ _ named
    · rw [linked] at named
      cases named
      exact Descriptor.domain_of_forTable made
  · have same := (installs.fillsOnly sound member).entry_eq member fun both => here both.2
    rw [same] at named
    exact confined _ _ named

end Mapping

namespace VirtualMemory

/-- The tree of every environment is in the domain of the environment. -/
def Confined (state : VirtualMemory) : Prop :=
  ∀ id environment, state.environments id = some environment →
    environment.space.ConfinedTo state.memory environment.domain

/-- Whether a request replaces the domain access of the environment with a process number. -/
def overrides (state : VirtualMemory) (request : VirtualMemoryRequest) (process : Word) : Bool :=
  match request with
  | .setDomainAccess id _ => (state.environments id).any (·.process = process)
  | _ => false

/-- Whether the domain access of the environment with a process number is ever replaced in a run. -/
def overridden (state : VirtualMemory) : List VirtualMemoryRequest → Word → Bool
  | [], _ => false
  | request :: later, process =>
      state.overrides request process || (state.serve request).overridden later process

variable {state after : VirtualMemory} {request : VirtualMemoryRequest} {id : EnvironmentId}
  {environment : Environment} {requests : List VirtualMemoryRequest} {process : Word}

/-! ## The trees -/

theorem Work.confined (work : Work state request after) (orderly : state.Orderly)
    (confined : state.Confined) : after.Confined := by
  intro id environment live
  cases work with
  | idle moved => exact confined id environment live
  | lost slots domains asids moved => exact confined id environment live
  | @allocated slot domain asid asked grants =>
      rcases EnvironmentTable.of_set_some live with ⟨-, rfl⟩ | ⟨-, before⟩
      · intro index found named
        have blank := Forest.entry_of_empty (state.tables.nextSpace_empty index)
        have named : (state.tables.nextSpace.entry state.tables.afterRoot.memory index).domain? =
          some found := named
        rw [blank] at named
        cases named
      · refine (confined id environment before).of_entry_eq fun index => ?_
        exact congrArg Slot.firstLevelEntry (orderly.planted.forest.firstSlot_of_agree
          (TableMemory.agree_afterRoot grants.room) (Consistent.mem_liveSpaces before) index)
  | freed asked found => exact confined id environment (EnvironmentTable.of_set_none live).2
  | granted asked found =>
      rcases EnvironmentTable.of_set_some live with ⟨-, rfl⟩ | ⟨-, before⟩
      · have same := confined _ _ found
        exact same
      · exact confined id environment before
  | @mapped owner record granule start physical flags descriptor _ tables concerns found installs
      maps extent planted =>
      have member := Consistent.mem_liveSpaces found
      have sound := orderly.planted.sound_of_mem member
      by_cases here : id = owner
      · subst here
        rw [found] at live
        cases live
        exact installs.confinedTo sound member (confined id _ found)
      · have elsewhere : environment.space ≠ record.space := fun same =>
          here (orderly.rootsApart live found (congrArg AddressSpace.root same))
        refine (confined id environment live).of_entry_eq fun index => ?_
        exact (installs.fillsOnly sound member).entry_eq (Consistent.mem_liveSpaces live)
          fun both => elsewhere both.1

theorem Orderly.confined_serveAll (orderly : state.Orderly) (confined : state.Confined)
    (requests : List VirtualMemoryRequest) : (state.serveAll requests).Confined := by
  induction requests generalizing state with
  | nil => exact confined
  | cons request later ih =>
      have work := orderly.work request
      exact ih (work.orderly orderly) (work.confined orderly confined)

/-! ## The domain access -/

theorem overridden_append (state : VirtualMemory) (requests : List VirtualMemoryRequest)
    (request : VirtualMemoryRequest) (process : Word) :
    state.overridden (requests ++ [request]) process =
      (state.overridden requests process ||
        (state.serveAll requests).overrides request process) := by
  induction requests generalizing state with
  | nil => exact Bool.or_false _
  | cons first later ih =>
      rw [List.cons_append, overridden, overridden, ih, Bool.or_assoc]
      rfl

theorem switched?_eq_some (switched : state.switched? request = some environment) :
    ∃ id, state.environments id = some environment := by
  cases request with
  | switchTo id =>
      simp only [switched?] at switched
      split at switched
      · exact ⟨id, switched⟩
      · cases switched
  | _ => cases switched

/-- A record that nobody overrides stays as it is, and a new one is original. -/
theorem Work.record_or_original (work : Work state request after)
    (found : after.environments id = some environment)
    (spared : state.overrides request environment.process = false) :
    state.environments id = some environment ∨ environment.Original := by
  cases work with
  | idle moved => exact .inl found
  | lost slots domains asids moved => exact .inl found
  | allocated asked grants =>
      rcases EnvironmentTable.of_set_some found with ⟨-, rfl⟩ | ⟨-, before⟩
      · exact .inr rfl
      · exact .inl before
  | freed asked owned => exact .inl (EnvironmentTable.of_set_none found).2
  | @granted owner record access asked owned =>
      rcases EnvironmentTable.of_set_some found with ⟨-, rfl⟩ | ⟨-, before⟩
      · subst asked
        simp only [overrides, owned, Option.any_some, decide_true, Bool.true_eq_false] at spared
      · exact .inl before
  | mapped concerns owned installs maps extent planted => exact .inl found

theorem Orderly.original_serveAll (orderly : state.Orderly)
    (nobody : ∀ id, state.environments id = none) (requests : List VirtualMemoryRequest) :
    (∀ id environment, (state.serveAll requests).environments id = some environment →
      state.overridden requests environment.process = false → environment.Original) ∧
    ∀ installed, state.lastSwitch? requests = some installed →
      state.overridden requests installed.process = false → installed.Original := by
  induction requests using List.reverseRecOn with
  | nil =>
      refine ⟨fun id environment found => ?_, fun installed impossible => nomatch impossible⟩
      rw [serveAll, List.foldl_nil, nobody] at found
      cases found
  | append_singleton requests request ih =>
      obtain ⟨records, last⟩ := ih
      constructor
      · intro id environment found spared
        rw [serveAll_append] at found
        rw [overridden_append, Bool.or_eq_false_iff] at spared
        have work := (orderly.after_serveAll requests).work request
        rcases work.record_or_original found spared.2 with before | original
        · exact records id environment before spared.1
        · exact original
      · intro installed latest spared
        rw [lastSwitch?_append] at latest
        rw [overridden_append, Bool.or_eq_false_iff] at spared
        rcases switched : (state.serveAll requests).switched? request with _ | record
        · rw [switched, Option.none_or] at latest
          exact last installed latest spared.1
        · rw [switched, Option.some_or] at latest
          cases latest
          obtain ⟨id, found⟩ := switched?_eq_some switched
          exact records id installed found spared.1

/-! ## Confinement -/

/-- What is mapped in an environment is in its domain, and while the environment runs with the
domain access that it was made with, the register lets it use its own domain and no domain of
another environment. -/
structure ConfinesDomains (state : VirtualMemory) (requests : List VirtualMemoryRequest) :
    Prop where
  trees : (state.serveAll requests).Confined
  own : ∀ id environment, (state.serveAll requests).active = some id →
    (state.serveAll requests).environments id = some environment →
    state.overridden requests environment.process = false → ∀ index domain,
      (environment.space.entry (state.serveAll requests).memory index).domain? = some domain →
        (state.serveAll requests).registers.domainAccess.access domain = .client
  others : ∀ id environment, (state.serveAll requests).active = some id →
    (state.serveAll requests).environments id = some environment →
    state.overridden requests environment.process = false → ∀ other owner, other ≠ id →
      (state.serveAll requests).environments other = some owner → ∀ index domain,
        (owner.space.entry (state.serveAll requests).memory index).domain? = some domain →
          (state.serveAll requests).registers.domainAccess.access domain = .noAccess

/-- After any requests the environments are confined to their domains. -/
theorem confinesDomains_serveAll {tables : TableMemory BumpHeap} {config : VirtualMemoryConfig}
    {registers final : SystemRegisters}
    (accepted : (VirtualMemory.init tables config :
      Action SystemRegisters Empty VirtualMemory).effect registers = (.value state, final))
    (requests : List VirtualMemoryRequest) : state.ConfinesDomains requests := by
  have orderly := orderly_init accepted
  have nobody : ∀ id, state.environments id = none := by
    obtain ⟨-, slots, domains, asids, -, -, -, rfl⟩ := of_init accepted
    exact fun _ => rfl
  have confined : state.Confined := by
    intro id environment found
    rw [nobody] at found
    cases found
  have trees := orderly.confined_serveAll confined requests
  have apart := (orderly.after_serveAll requests).domains.apart
  -- The register holds what the last switch found in the record of the environment that is active.
  have selects : ∀ id environment, (state.serveAll requests).active = some id →
      (state.serveAll requests).environments id = some environment →
      state.overridden requests environment.process = false →
        (state.serveAll requests).registers.domainAccess = .only environment.domain .client := by
    intro id environment active found spared
    obtain ⟨-, running, selected⟩ := agree_serveAll_init accepted requests
    obtain ⟨record, installed, recorded, latest, same⟩ := running id active
    obtain rfl : record = environment := Option.some.inj (recorded.symm.trans found)
    have process : record.process = installed.process := by rw [same]
    have domain : record.domain = installed.domain := by rw [same]
    rw [process] at spared
    rw [(selected installed latest).access, domain]
    exact (orderly.original_serveAll nobody requests).2 installed latest spared
  refine ⟨trees, ?_, ?_⟩
  · intro id environment active found spared index domain named
    rw [selects id environment active found spared, trees id environment found index domain named]
    exact DomainAccessControl.access_only _ _
  · intro id environment active found spared other owner different otherFound index domain named
    rw [selects id environment active found spared, trees other owner otherFound index domain named]
    apply DomainAccessControl.access_only_of_ne
    exact fun same => different (apart otherFound found (congrArg Domain.number same))

/-- Two environments with a page and a section each.  The first one grows its stack and has its
domain access replaced, then the second one runs. -/
theorem confinesDomains_serveAll_smallMachine :
    let requests : List VirtualMemoryRequest :=
      [.allocate, .allocate, .map .page4K ⟨0⟩ ⟨0x200000⟩ ⟨0x500000⟩ .kernel,
        .map .section1M ⟨1⟩ ⟨0x100000⟩ ⟨0x100000⟩ .kernel,
        .map .page64K ⟨1⟩ ⟨0x200000⟩ ⟨0x600000⟩ .kernel, .switchTo ⟨0⟩,
        .recordAbort (.ofParts 0b00111 1 true) ⟨0x3FB004⟩, .handleDataAbort 0x8040, .mmuDisable,
        .setDomainAccess ⟨0⟩ .fresh, .switchTo ⟨1⟩]
    let after := smallMachine.serveAll requests
    let domain? (root : PhysicalAddress) (address : VirtualAddress) :=
      ((AddressSpace.mk root).entry after.memory (.ofAddress address)).domain?
    after.active = some ⟨1⟩ ∧
      after.environments ⟨1⟩ = some ⟨⟨1⟩, 2, ⟨2⟩, 2, .only ⟨2⟩ .client, ⟨0x144000⟩⟩ ∧
      smallMachine.overridden requests 1 = true ∧ smallMachine.overridden requests 2 = false ∧
      domain? ⟨0x140000⟩ ⟨0x3FB000⟩ = some ⟨1⟩ ∧ domain? ⟨0x144000⟩ ⟨0x100000⟩ = some ⟨2⟩ ∧
      after.registers.domainAccess.access ⟨2⟩ = .client ∧
        smallMachine.ConfinesDomains requests := by
  intro requests after domain?
  have confines := confinesDomains_serveAll init_smallMachine requests
  have active : after.active = some ⟨1⟩ := by decide +kernel
  have found : after.environments ⟨1⟩ =
      some ⟨⟨1⟩, 2, ⟨2⟩, 2, .only ⟨2⟩ .client, ⟨0x144000⟩⟩ := by decide +kernel
  have spared : smallMachine.overridden requests 2 = false := by decide +kernel
  have sectionDomain : domain? ⟨0x144000⟩ ⟨0x100000⟩ = some ⟨2⟩ := by decide +kernel
  exact ⟨active, found, by decide +kernel, spared, by decide +kernel, sectionDomain,
    confines.own ⟨1⟩ _ active found spared _ _ sectionDomain, confines⟩

end VirtualMemory

end Armv6Kernel
