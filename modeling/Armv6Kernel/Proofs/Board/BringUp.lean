import Armv6Kernel.Board.BringUp
import Armv6Kernel.Proofs.VirtualMemory.Permanence

/-!
# Bring-up as a run of requests

Where bring-up succeeds it has done nothing but serve requests, each with success: it has made an
environment, mapped the sections of the kernel and the top of its stack onto themselves, and
switched.  So the mappings are there for as long as the environment lives.
-/

namespace Armv6Kernel.VirtualMemory

def sectionRequest (id : EnvironmentId) (region : IdentitySection) : VirtualMemoryRequest :=
  .map .section1M id (.ofNat region.base) (.ofNat region.base) region.flags

def stackPageRequest (id : EnvironmentId) (page : Nat) : VirtualMemoryRequest :=
  .map .page4K id (.ofNat page) (.ofNat page) .kernel

/-- The requests of a bring-up that makes the given environment. -/
def bringUpRequests (id : EnvironmentId) : List VirtualMemoryRequest :=
  [.allocate] ++ (identitySections.map (sectionRequest id) ++
    (initialStack.map (stackPageRequest id) ++ [.switchTo id]))

/-- The requests are served one after the other, all of them with success. -/
structure Carries (state : VirtualMemory) (requests : List VirtualMemoryRequest)
    (after : VirtualMemory) : Prop where
  succeed : state.AllSucceed requests
  final : after = state.serveAll requests

variable {state middle after : VirtualMemory} {requests later : List VirtualMemoryRequest}
  {request : VirtualMemoryRequest} {id : EnvironmentId} {environment : Environment}

theorem Carries.nil (state : VirtualMemory) : Carries state [] state :=
  ⟨trivial, rfl⟩

theorem Carries.cons (succeeds : state.succeeds request = true)
    (carries : Carries (state.serve request) later after) :
    Carries state (request :: later) after :=
  ⟨⟨succeeds, carries.succeed⟩, carries.final⟩

theorem Carries.append (first : Carries state requests middle)
    (rest : Carries middle later after) : Carries state (requests ++ later) after := by
  obtain ⟨succeed, rfl⟩ := first
  induction requests generalizing state with
  | nil => exact rest
  | cons request requests ih => exact .cons succeed.1 (ih succeed.2 rest)

theorem Carries.consistent (carries : Carries state requests after)
    (consistent : state.Consistent) : after.Consistent := by
  rw [carries.final]
  exact consistent.after_serveAll requests

/-- A loop whose steps serve requests serves all of them. -/
theorem Consistent.carries_forM {ε β : Type} {step : β → Action VirtualMemory ε Unit}
    {requestOf : β → VirtualMemoryRequest}
    (serves : ∀ {state after : VirtualMemory} (item : β), state.Consistent →
      (step item).effect state = (.value (), after) → Carries state [requestOf item] after)
    (consistent : state.Consistent) {items : List β}
    (ended : (items.forM step).effect state = (.value (), after)) :
    Carries state (items.map requestOf) after := by
  induction items generalizing state with
  | nil =>
      cases ended
      exact .nil state
  | cons item items ih =>
      obtain ⟨_, middle, first, rest⟩ := Action.effect_bind_eq_value ended
      have carries := serves item consistent first
      exact carries.append (ih (carries.consistent consistent) rest)

/-! ## The steps -/

theorem effect_mapSection_of_some {ε : Type} (consistent : state.Consistent)
    (found : state.environments id = some environment) (start : VirtualAddress)
    (physical : PhysicalAddress) (flags : MapFlags) :
    (mapSection id start physical flags : Action VirtualMemory ε SectionDescriptor).effect state =
      (((environment.space.mapSection start physical environment.domain flags :
          Action (TableMemory BumpHeap) ε SectionDescriptor).effect state.tables).1,
        { state with
          tables := ((environment.space.mapSection start physical environment.domain flags :
            Action (TableMemory BumpHeap) ε SectionDescriptor).effect state.tables).2 }) := by
  simp only [mapSection, Action.effect_bind, effect_readEnvironment_of_some found,
    consistent.ofRoot_eq found, Action.effect_ofExcept_ok, onTables, Action.effect_onPart]

/-- Mapping a section cannot fail with an error, so its result is the same whatever the errors
are. -/
theorem Consistent.effect_mapSection_eq {ε ε' : Type} (consistent : state.Consistent)
    {start : VirtualAddress} {physical : PhysicalAddress} {flags : MapFlags}
    {descriptor : SectionDescriptor}
    (ended : (mapSection id start physical flags :
      Action VirtualMemory ε SectionDescriptor).effect state = (.value descriptor, after)) :
    (mapSection id start physical flags :
      Action VirtualMemory ε' SectionDescriptor).effect state = (.value descriptor, after) := by
  rcases found : state.environments id with _ | environment
  · simp only [mapSection, Action.effect_bind, effect_readEnvironment_of_none found] at ended
    cases ended
  · have member := mem_liveSpaces found
    rw [effect_mapSection_of_some consistent found] at ended ⊢
    rcases effect_mapSection (ε := ε) consistent.sound member start physical environment.domain
      flags with ⟨startAligned, physicalAligned, vacant, _, made, effect⟩ | ⟨-, cause, effect⟩
    · rcases effect_mapSection (ε := ε') consistent.sound member start physical
        environment.domain flags with ⟨-, -, -, _, otherMade, otherEffect⟩ | ⟨rejected, -⟩
      · rw [effect] at ended
        rw [made] at otherMade
        cases otherMade
        rw [otherEffect]
        cases ended
        rfl
      · exact absurd ⟨startAligned, physicalAligned, vacant⟩ rejected
    · rw [effect] at ended
      cases ended

theorem Consistent.mapSection_ne_error {ε : Type} (consistent : state.Consistent)
    {start : VirtualAddress} {physical : PhysicalAddress} {flags : MapFlags} (cause : ε) :
    (mapSection id start physical flags :
      Action VirtualMemory ε SectionDescriptor).effect state ≠ (.error cause, after) := by
  intro ended
  rcases found : state.environments id with _ | environment
  · simp only [mapSection, Action.effect_bind, effect_readEnvironment_of_none found] at ended
    cases ended
  · rw [effect_mapSection_of_some consistent found] at ended
    rcases effect_mapSection (ε := ε) consistent.sound (mem_liveSpaces found) start physical
      environment.domain flags with ⟨-, -, -, _, -, effect⟩ | ⟨-, _, effect⟩
    · rw [effect] at ended
      cases ended
    · rw [effect] at ended
      cases ended

theorem Consistent.carries_mapSection {ε : Type} (consistent : state.Consistent)
    {start : VirtualAddress} {physical : PhysicalAddress} {flags : MapFlags}
    {descriptor : SectionDescriptor}
    (ended : (mapSection id start physical flags :
      Action VirtualMemory ε SectionDescriptor).effect state = (.value descriptor, after)) :
    Carries state [.map .section1M id start physical flags] after := by
  have mapped : (mapGranule id .section1M start physical flags).effect state =
      (.value descriptor, after) :=
    consistent.effect_mapSection_eq ended
  exact .cons (Action.isValue_of_effect mapped) ⟨trivial, (congrArg Prod.snd mapped).symm⟩

theorem Consistent.carries_switchTo {ε : Type} (consistent : state.Consistent)
    (ended : (switchTo id : Action VirtualMemory ε Unit).effect state = (.value (), after)) :
    Carries state [.switchTo id] after := by
  have switched : (switchTo id : Action VirtualMemory Empty Unit).effect state =
      (.value (), after) := by
    have effect := switchEffect (ε := ε) consistent id
    have otherEffect := switchEffect (ε := Empty) consistent id
    rw [ended] at effect
    generalize (switchTo id : Action VirtualMemory Empty Unit).effect state = ending at otherEffect
    cases effect with
    | done found off tableOf contextOf =>
        cases otherEffect with
        | missing absent =>
            rw [absent] at found
            cases found
        | mmuOn on =>
            rw [off] at on
            cases on
        | done otherFound _ otherTableOf otherContextOf =>
            rw [found] at otherFound
            cases otherFound
            rw [tableOf] at otherTableOf
            rw [contextOf] at otherContextOf
            cases otherTableOf
            cases otherContextOf
            rfl
  exact .cons (Action.isValue_of_effect switched) ⟨trivial, (congrArg Prod.snd switched).symm⟩

theorem carries_mapIdentitySection (region : IdentitySection) (consistent : state.Consistent)
    (ended : (mapIdentitySection id region).effect state = (.value (), after)) :
    Carries state [sectionRequest id region] after := by
  unfold mapIdentitySection at ended
  obtain ⟨_, logged, log, rest⟩ := Action.effect_bind_eq_value ended
  cases log
  obtain ⟨descriptor, mapped, mapping, result⟩ := Action.effect_bind_eq_value rest
  cases result
  exact consistent.carries_mapSection mapping

theorem carries_mapStackPage (page : Nat)
    (ended : (mapStackPage id page).effect state = (.value (), after)) :
    Carries state [stackPageRequest id page] after := by
  unfold mapStackPage at ended
  obtain ⟨descriptor, mapped, mapping, result⟩ := Action.effect_bind_eq_value ended
  cases result
  rw [Action.effect_mapError] at mapping
  rcases small : (mapSmallPage id (.ofNat page) (.ofNat page) .kernel).effect state with
    ⟨other | cause | cause, final⟩
  · rw [small] at mapping
    cases mapping
    have granule : (mapGranule id .page4K (.ofNat page) (.ofNat page) .kernel).effect state = _ :=
      small
    exact .cons (Action.isValue_of_effect granule) ⟨trivial, (congrArg Prod.snd granule).symm⟩
  · rw [small] at mapping
    cases mapping
  · rw [small] at mapping
    cases mapping

/-- A bring-up that succeeds serves its requests. -/
theorem Consistent.carries_bringUp (consistent : state.Consistent)
    (ended : bringUp.effect state = (.value id, after)) :
    Carries state (bringUpRequests id) after := by
  unfold bringUp mapKernel at ended
  obtain ⟨made, mapped, mapping, rest⟩ := Action.effect_bind_eq_value ended
  obtain ⟨allocatedId, allocated, allocating, restOfMapping⟩ := Action.effect_bind_eq_value mapping
  obtain ⟨_, sectioned, sections, restOfPages⟩ := Action.effect_bind_eq_value restOfMapping
  obtain ⟨_, stacked, pages, result⟩ := Action.effect_bind_eq_value restOfPages
  cases result
  obtain ⟨_, switched, switching, report⟩ := Action.effect_bind_eq_value rest
  cases report
  have allocation : Carries state [.allocate] allocated :=
    .cons (Action.isValue_of_effect allocating) ⟨trivial, (congrArg Prod.snd allocating).symm⟩
  have afterAllocation := allocation.consistent consistent
  have sectionCarries := afterAllocation.carries_forM carries_mapIdentitySection sections
  have afterSections := sectionCarries.consistent afterAllocation
  have stackCarries := afterSections.carries_forM (fun page _ => carries_mapStackPage page) pages
  have afterStack := stackCarries.consistent afterSections
  have switchCarries := afterStack.carries_switchTo switching
  exact allocation.append (sectionCarries.append (stackCarries.append switchCarries))

end Armv6Kernel.VirtualMemory
