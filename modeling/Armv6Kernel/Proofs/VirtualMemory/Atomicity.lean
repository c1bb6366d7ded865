import Armv6Kernel.Proofs.Fault.Pipeline
import Armv6Kernel.Proofs.VirtualMemory.Serving

/-!
# All or nothing

A request has several places at which it can fail, some of them after it has taken identifiers or
memory.  In a reachable state it is carried out exactly if what it needs is there from the start;
otherwise it leaves the state as it was, pools, records, registers, heap and memory alike.
-/

namespace Armv6Kernel.VirtualMemory

def Lives (state : VirtualMemory) (id : EnvironmentId) : Prop :=
  ∃ environment, state.environments id = some environment

/-- What a request needs. -/
def Permits (state : VirtualMemory) (request : VirtualMemoryRequest) : Prop :=
  match request with
  | .allocate => ∃ slot domain asid, state.Grants slot domain asid
  | .free id => state.Lives id ∧ state.active ≠ some id
  | .switchTo id => state.Lives id ∧ state.mmuIsOn = false
  | .mmuEnable => state.mmuIsOn = false
  | .mmuDisable => state.mmuIsOn = true
  | .cachesOn => True
  | .cachesOff => True
  | .setDomainAccess id _ => state.Lives id
  | .map granule id start physical _ =>
      ∃ environment, state.environments id = some environment ∧
        environment.space.Accepts state.memory granule start physical ∧
        (environment.space.NeedsTable state.memory granule start →
          TableLevel.coarse.Fits state.tables.cursor state.tables.limit)
  | .recordAbort _ _ => True
  | .handleDataAbort pc =>
      (state.Trusted pc ∧ state.registers.faultAddress.word ≠ 0 ∧ state.InWindow) ∧
        ∃ id, state.active = some id ∧ ¬ state.PageTranslates id state.faultPage ∧
          (state.SlotEmpty id state.faultPage → state.CoarseRoom)

/-- A request that is permitted ends with a value; any other does not, and changes nothing. -/
structure AllOrNothing (state : VirtualMemory) (request : VirtualMemoryRequest) : Prop where
  succeeds_iff : state.succeeds request = true ↔ state.Permits request
  failed : state.succeeds request = false → state.serve request = state

/-- An ending with a value if a need is met, and otherwise an ending that leaves the state as it
was. -/
inductive Guarded {ε α : Type} (state : VirtualMemory) (need : Prop) :
    Outcome ε α × VirtualMemory → Prop
  | carried {result : α} {after : VirtualMemory} (met : need) :
      Guarded state need (.value result, after)
  | failed {cause : ε} (unmet : ¬ need) : Guarded state need (.error cause, state)
  | panicked {cause : Panic} (unmet : ¬ need) : Guarded state need (.panic cause, state)

variable {state : VirtualMemory} {request : VirtualMemoryRequest} {id : EnvironmentId}

theorem Guarded.allOrNothing {ε α : Type} {ending : Outcome ε α × VirtualMemory}
    (guarded : Guarded state (state.Permits request) ending)
    (succeeds : state.succeeds request = ending.1.isValue)
    (final : state.serve request = ending.2) : state.AllOrNothing request := by
  cases guarded with
  | carried met =>
      refine ⟨⟨fun _ => met, fun _ => succeeds⟩, fun failed => ?_⟩
      rw [succeeds] at failed
      cases failed
  | failed unmet =>
      refine ⟨⟨fun carried => ?_, fun met => absurd met unmet⟩, fun _ => final⟩
      rw [succeeds] at carried
      cases carried
  | panicked unmet =>
      refine ⟨⟨fun carried => ?_, fun met => absurd met unmet⟩, fun _ => final⟩
      rw [succeeds] at carried
      cases carried

/-! ## The operations -/

theorem AllocateEffect.guarded {ending : Outcome AllocationError EnvironmentId × VirtualMemory}
    (effect : AllocateEffect state ending) :
    Guarded state (∃ slot domain asid, state.Grants slot domain asid) ending := by
  cases effect with
  | noProcess spent =>
      apply Guarded.failed
      rintro ⟨slot, domain, asid, grants⟩
      exact Nat.not_lt_of_le spent grants.process
  | noSlot process full =>
      apply Guarded.failed
      rintro ⟨slot, domain, asid, grants⟩
      exact full.not_offers slot grants.slot
  | noDomain process slots full =>
      apply Guarded.failed
      rintro ⟨slot, domain, asid, grants⟩
      exact full.not_offers domain grants.domain
  | noAsid process slots domains full =>
      apply Guarded.failed
      rintro ⟨slot, domain, asid, grants⟩
      exact full.not_offers asid grants.asid
  | outOfMemory process slots domains asids full =>
      apply Guarded.failed
      rintro ⟨slot, domain, asid, grants⟩
      exact full grants.room
  | made grants => exact .carried ⟨_, _, _, grants⟩

theorem not_lives (absent : state.environments id = none) : ¬ state.Lives id := by
  rintro ⟨environment, found⟩
  rw [absent] at found
  cases found

theorem FreeEffect.guarded {ε : Type} {ending : Outcome ε Unit × VirtualMemory}
    (effect : FreeEffect state id ending) :
    Guarded state (state.Lives id ∧ state.active ≠ some id) ending := by
  cases effect with
  | missing absent => exact .panicked fun needs => not_lives absent needs.1
  | active running => exact .panicked fun needs => needs.2 running
  | done found inactive => exact .carried ⟨⟨_, found⟩, inactive⟩

theorem SwitchEffect.guarded {ε : Type} {ending : Outcome ε Unit × VirtualMemory}
    (effect : SwitchEffect state id ending) :
    Guarded state (state.Lives id ∧ state.mmuIsOn = false) ending := by
  cases effect with
  | missing absent => exact .panicked fun needs => not_lives absent needs.1
  | mmuOn on =>
      apply Guarded.panicked
      rintro ⟨-, off⟩
      rw [on] at off
      cases off
  | done found off tableOf contextOf => exact .carried ⟨⟨_, found⟩, off⟩

theorem guarded_mmuEnable (state : VirtualMemory) :
    Guarded state (state.mmuIsOn = false)
      ((mmuEnable : Action VirtualMemory Empty Unit).effect state) := by
  rw [effect_mmuEnable]
  cases state.mmuIsOn with
  | true => exact .panicked fun off => Bool.false_ne_true off.symm
  | false => exact .carried rfl

theorem guarded_mmuDisable (state : VirtualMemory) :
    Guarded state (state.mmuIsOn = true)
      ((mmuDisable : Action VirtualMemory Empty Unit).effect state) := by
  rw [effect_mmuDisable]
  cases state.mmuIsOn with
  | true => exact .carried rfl
  | false => exact .panicked Bool.false_ne_true

theorem guarded_setDomainAccess (state : VirtualMemory) (id : EnvironmentId)
    (access : DomainAccessControl) :
    Guarded state (state.Lives id)
      ((setDomainAccess id access : Action VirtualMemory Empty Unit).effect state) := by
  rw [effect_setDomainAccess]
  rcases found : state.environments id with _ | environment
  · exact .panicked (not_lives found)
  · exact .carried ⟨environment, found⟩

theorem guarded_mapGranule (consistent : state.Consistent) (granule : Granule)
    (id : EnvironmentId) (start : VirtualAddress) (physical : PhysicalAddress) (flags : MapFlags) :
    Guarded state (state.Permits (.map granule id start physical flags))
      ((mapGranule id granule start physical flags).effect state) := by
  rcases found : state.environments id with _ | environment
  · rw [effect_mapGranule_of_none found]
    exact .panicked fun ⟨environment, owned, _⟩ => not_lives found ⟨environment, owned⟩
  · have ending := mapEffect_mapGranule consistent.sound (Consistent.mem_liveSpaces found) granule
      start physical environment.domain flags
    rw [effect_mapGranule consistent found]
    rcases ended : (environment.space.mapGranule granule start physical environment.domain
      flags).effect state.tables with ⟨outcome, tables⟩
    rw [ended] at ending
    cases ending with
    | installed accepts room source sound maps => exact .carried ⟨environment, found, accepts, room⟩
    | outOfMemory accepts needed full =>
        apply Guarded.failed
        rintro ⟨owner, owned, -, room⟩
        rw [found] at owned
        cases owned
        exact full (room needed)
    | refused rejects =>
        apply Guarded.panicked
        rintro ⟨owner, owned, accepts, -⟩
        rw [found] at owned
        cases owned
        exact rejects accepts

theorem AbortAnswer.guarded {pc : Word} {outcome : Outcome FatalFault FaultResolution}
    (answer : AbortAnswer state pc outcome) {final : VirtualMemory}
    (failed : ∀ fault, outcome = .error fault → final = state) :
    Guarded state (state.Permits (.handleDataAbort pc)) (outcome, final) := by
  have refuse : ∀ {fault}, outcome = .error fault → ¬ state.Permits (.handleDataAbort pc) →
      Guarded state (state.Permits (.handleDataAbort pc)) (outcome, final) := by
    intro fault ended unmet
    rw [failed fault ended, ended]
    exact .failed unmet
  cases answer with
  | untrusted doubtful => exact refuse rfl fun ⟨⟨trusted, _⟩, _⟩ => doubtful trusted
  | null trusted zero => exact refuse rfl fun ⟨⟨_, nonzero, _⟩, _⟩ => nonzero zero
  | heap trusted nonzero outside inside =>
      exact refuse rfl fun ⟨⟨_, _, window⟩, _⟩ => outside window
  | outOfRange trusted nonzero outside apart =>
      exact refuse rfl fun ⟨⟨_, _, window⟩, _⟩ => outside window
  | idle trusted nonzero window inactive =>
      refine refuse rfl fun ⟨_, id, active, _⟩ => ?_
      rw [inactive] at active
      cases active
  | mapped trusted nonzero window running taken =>
      refine refuse rfl fun ⟨_, id, active, free, _⟩ => ?_
      rw [running] at active
      cases active
      exact free taken
  | outOfMemory trusted nonzero window running free needed full =>
      refine refuse rfl fun ⟨_, id, active, _, room⟩ => ?_
      rw [running] at active
      cases active
      exact full (room needed)
  | grown trusted nonzero window running free room =>
      exact .carried ⟨⟨trusted, nonzero, window⟩, _, running, free, room⟩

/-- From every reachable state, whatever is asked, all of it is done or nothing. -/
theorem Reachable.allOrNothing_serve (reachable : Reachable state)
    (request : VirtualMemoryRequest) : state.AllOrNothing request := by
  have consistent := reachable.consistent
  cases request with
  | allocate => exact (allocateEffect consistent).guarded.allOrNothing rfl rfl
  | free id => exact (freeEffect (ε := Empty) consistent id).guarded.allOrNothing rfl rfl
  | switchTo id => exact (switchEffect (ε := Empty) consistent id).guarded.allOrNothing rfl rfl
  | mmuEnable => exact (guarded_mmuEnable state).allOrNothing rfl rfl
  | mmuDisable => exact (guarded_mmuDisable state).allOrNothing rfl rfl
  | cachesOn =>
      have effect : Guarded state True
          ((cachesOn : Action VirtualMemory Empty Unit).effect state) := .carried trivial
      exact effect.allOrNothing rfl rfl
  | cachesOff =>
      have effect : Guarded state True
          ((cachesOff : Action VirtualMemory Empty Unit).effect state) := .carried trivial
      exact effect.allOrNothing rfl rfl
  | setDomainAccess id access =>
      exact (guarded_setDomainAccess state id access).allOrNothing rfl rfl
  | map granule id start physical flags =>
      exact (guarded_mapGranule consistent granule id start physical flags).allOrNothing rfl rfl
  | recordAbort status address =>
      exact ⟨⟨fun _ => trivial, fun _ => rfl⟩, fun impossible => by cases impossible⟩
  | handleDataAbort pc =>
      have handled := consistent.handlesAbort pc
      exact (handled.answer.guarded handled.failed).allOrNothing rfl rfl

/-- Virtual memory just set up over a heap with room for one tree and one coarse table. -/
def tightMachine : VirtualMemory :=
  { smallMachine with
    tables := ⟨smallMachine.memory, ⟨⟨0x140000⟩, ⟨0x140000⟩, ⟨0x140000⟩, ⟨0x144400⟩⟩⟩ }

theorem reachable_tightMachine : Reachable tightMachine :=
  reachable_smallMachine_upTo (by decide) (by decide)

/-- The heap is full and an environment runs.  Allocation has taken three identifiers when it finds
no memory for a tree, and growth and mapping find none for a coarse table; the other requests break
a rule. -/
theorem allOrNothing_serve_tightMachine :
    let state := (((tightMachine.serve .allocate).serve
      (.map .page4K ⟨0⟩ ⟨0x100000⟩ ⟨0x100000⟩ .kernel)).serve (.switchTo ⟨0⟩)).serve
        (.recordAbort (.ofParts 0b00111 0 true) ⟨0x301004⟩)
    (allocate.run state).outcome = .error (.map (.outOfMemory .first)) ∧
      ((handleDataAbort 0x8040).run state).outcome =
        .error ⟨state.latchedAbort 0x8040, .outOfMemory (.outOfMemory .coarse)⟩ ∧
      ∀ request ∈ [.allocate, .handleDataAbort 0x8040,
          .map .page64K ⟨0⟩ ⟨0x200000⟩ ⟨0x200000⟩ .kernel,
          .map .section1M ⟨0⟩ ⟨0x100000⟩ ⟨0x100000⟩ .kernel, .free ⟨0⟩, .free ⟨1⟩, .switchTo ⟨0⟩,
          .mmuEnable, .setDomainAccess ⟨1⟩ .fresh],
        state.succeeds request = false ∧ state.serve request = state := by
  intro state
  have reachable : Reachable state := (((reachable_tightMachine.serve _).serve _).serve _).serve _
  refine ⟨by decide +kernel, by decide +kernel, fun request listed => ?_⟩
  have failed : state.succeeds request = false := by
    revert listed request
    decide +kernel
  exact ⟨failed, (reachable.allOrNothing_serve request).failed failed⟩

end Armv6Kernel.VirtualMemory
