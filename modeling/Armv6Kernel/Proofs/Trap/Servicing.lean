import Armv6Kernel.Proofs.Fault.Pipeline
import Armv6Kernel.Proofs.Irq.Ownership
import Armv6Kernel.Trap.DataAbort

/-!
# Servicing an abort under the lock

The trap takes the lock of virtual memory, handles the abort and drops the guard.  If the lock was
free, all that is left of this is what the handler made of virtual memory, also if the trap ends
with a panic.  If the lock was held, nothing changes.
-/

namespace Armv6Kernel

/-! ## Changing a value under its lock -/

namespace Core

variable {ι α ε β : Type} [DecidableEq ι] {core : Core ι α} {name : ι}

omit [DecidableEq ι] in
theorem eq_of_parts_eq {first second : Core ι α} (status : first.status = second.status)
    (lock : ∀ name, first.lock name = second.lock name) : first = second := by
  rcases first with ⟨firstStatus, firstLock⟩
  rcases second with ⟨secondStatus, secondLock⟩
  have sameStatus : firstStatus = secondStatus := status
  have sameLock : firstLock = secondLock := funext lock
  rw [sameStatus, sameLock]

/-- Taking a free lock, replacing its value and dropping the guard comes to replacing the value. -/
theorem dropLockGuard_setValue_taken (free : core.isLocked name = false) (value : α) :
    ((core.taken name).setValue name value).dropLockGuard (core.nextGuard name) =
      core.setValue name value := by
  apply eq_of_parts_eq
  · exact InterruptGuard.drop_acquire core.status
  · intro other
    have freeBefore : (core.lock name).held = false := free
    by_cases same : other = name
    · simp only [dropLockGuard_eq, Core.free, dropInterruptGuard, nextGuard, setValue, setLock,
        same, if_true, freeBefore]
    · simp only [dropLockGuard_eq, Core.free, dropInterruptGuard, nextGuard, setValue, setLock,
        taken, masked, if_neg same]

/-- An action on the value of a lock, run with the lock held. -/
theorem effect_withLock_onValue (core : Core ι α) (name : ι) (action : Action α ε β) :
    (withLock name (onValue name action)).effect core =
      if core.isLocked name then (.panic .lockReentered, core)
      else ((action.effect (core.value name)).1,
        core.setValue name (action.effect (core.value name)).2) := by
  rw [effect_withLock, onValue, Action.effect_onPart, value_taken]
  cases held : core.isLocked name with
  | true => rfl
  | false =>
      simp only [Bool.false_eq_true, if_false]
      rw [dropLockGuard_setValue_taken held]

end Core

/-! ## The trap -/

namespace VirtualMemory

variable {ι ε : Type} [DecidableEq ι]

/-- What the trap makes of the value of the lock: it returns what the handler returned, and panics
if the handler failed or there is nothing to handle the abort on. -/
inductive Serviced (pc : Word) :
    Option VirtualMemory → Outcome ε FaultResolution × Option VirtualMemory → Prop
  | absent : Serviced pc none (.panic (.abortBeforeSetup pc), none)
  | resolved {state : VirtualMemory} {resolution : FaultResolution}
      (handled : ((handleDataAbort pc).run state).outcome = .value resolution) :
      Serviced pc (some state) (.value resolution, some ((handleDataAbort pc).run state).state)
  | fatal {state : VirtualMemory} {fault : FatalFault}
      (handled : ((handleDataAbort pc).run state).outcome = .error fault) :
      Serviced pc (some state)
        (.panic (.fatalAbort fault), some ((handleDataAbort pc).run state).state)

/-- The handler does not panic on a state that can be reached, so the trap only panics by itself. -/
theorem serviced_serviceUnlocked {state : Option VirtualMemory}
    (reachable : ∀ present ∈ state, Reachable present) (pc : Word) :
    Serviced pc state
      ((serviceUnlocked pc : Action (Option VirtualMemory) ε FaultResolution).effect state) := by
  cases state with
  | none => exact .absent
  | some present =>
      have handled := (reachable present rfl).consistent.handlesAbort pc
      rcases ended : ((handleDataAbort pc).run present).outcome with resolution | fault | cause
      · rw [Action.effect, Action.run, serviceUnlocked, ended]
        exact .resolved ended
      · rw [Action.effect, Action.run, serviceUnlocked, ended]
        exact .fatal ended
      · exact absurd ended (handled.noPanic cause)

/-- What servicing an abort does to a core. -/
structure ServicesAbort (name : ι) (pc : Word) (before : Core ι (Option VirtualMemory))
    (outcome : Outcome ε FaultResolution) (after : Core ι (Option VirtualMemory)) : Prop where
  /-- A lock that was free is free again, and only the value of the lock may have changed. -/
  free : before.isLocked name = false →
    Serviced pc (before.value name) (outcome, after.value name) ∧
      after.isLocked name = false ∧ after.status = before.status ∧
      ∀ other, other ≠ name → after.lock other = before.lock other
  /-- A lock that was held stays as it was, and so does everything else. -/
  held : before.isLocked name = true → outcome = .panic .lockReentered ∧ after = before
  returns_iff : (∃ resolution, outcome = .value resolution) ↔
    before.isLocked name = false ∧ ∃ state resolution, before.value name = some state ∧
      ((handleDataAbort pc).run state).outcome = .value resolution

theorem Serviced.returns_iff {pc : Word} {state final : Option VirtualMemory}
    {outcome : Outcome ε FaultResolution} (serviced : Serviced pc state (outcome, final)) :
    (∃ resolution, outcome = .value resolution) ↔
      ∃ present resolution, state = some present ∧
        ((handleDataAbort pc).run present).outcome = .value resolution := by
  cases serviced with
  | absent =>
      constructor
      · rintro ⟨resolution, impossible⟩
        cases impossible
      · rintro ⟨present, resolution, impossible, -⟩
        cases impossible
  | resolved handled => exact ⟨fun _ => ⟨_, _, rfl, handled⟩, fun _ => ⟨_, rfl⟩⟩
  | fatal handled =>
      constructor
      · rintro ⟨resolution, impossible⟩
        cases impossible
      · rintro ⟨present, resolution, same, returned⟩
        cases same
        rw [handled] at returned
        cases returned

/-- Whatever the interrupt mask and the fault registers are, the trap frees a lock that it found
free, and leaves a lock that it found held as it was. -/
theorem servicesAbort_run {core : Core ι (Option VirtualMemory)} {name : ι}
    (reachable : ∀ state ∈ core.value name, Reachable state) (pc : Word) :
    let ended := (serviceDataAbort name pc : Action _ ε FaultResolution).run core
    ServicesAbort name pc core ended.outcome ended.state := by
  have effect := core.effect_withLock_onValue name
    (serviceUnlocked pc : Action (Option VirtualMemory) ε FaultResolution)
  have serviced := serviced_serviceUnlocked (ε := ε) reachable pc
  change ServicesAbort name pc core
    ((serviceDataAbort name pc : Action _ ε FaultResolution).effect core).1
    ((serviceDataAbort name pc : Action _ ε FaultResolution).effect core).2
  rw [serviceDataAbort, effect]
  cases held : core.isLocked name with
  | true =>
      constructor
      · intro free
        cases held.symm.trans free
      · exact fun _ => ⟨rfl, rfl⟩
      · constructor
        · rintro ⟨resolution, impossible⟩
          cases impossible
        · rintro ⟨free, -⟩
          cases held.symm.trans free
  | false =>
      constructor
      · intro _
        refine ⟨?_, ?_, rfl, fun other different => core.lock_setValue_of_ne different _⟩
        · simp only [Bool.false_eq_true, if_false, Core.value_setValue_self]
          exact serviced
        · exact (core.isLocked_setValue name name _).trans held
      · intro taken
        cases held.symm.trans taken
      · rw [held, eq_self_iff_true, true_and]
        exact serviced.returns_iff

/-- A store just below the stack window, serviced with interrupts masked and the lock free, and once
more while the lock is held. -/
theorem servicesAbort_run_smallMachine :
    let state := ((smallMachine.serve .allocate).serve (.switchTo ⟨0⟩)).serve
      (.recordAbort (.ofParts 0b00111 0 true) ⟨0x301004⟩)
    let core : Core Unit (Option VirtualMemory) := ⟨0x80, fun _ => ⟨false, some state⟩⟩
    let first := (serviceDataAbort () 0x8040 : Action _ Empty FaultResolution).run core
    let second := (serviceDataAbort () 0x8040 : Action _ Empty FaultResolution).run (core.taken ())
    first.outcome = .value (.stackGrown ⟨0x301000⟩ ⟨0x30103e⟩) ∧
      first.state.isLocked () = false ∧ first.state.status = 0x80 ∧
      second.outcome = .panic .lockReentered ∧ second.state.isLocked () = true := by
  intro state core first second
  have reachable : Reachable state :=
    ((reachable_smallMachine.serve .allocate).serve (.switchTo ⟨0⟩)).serve _
  have present : ∀ other ∈ core.value (), Reachable other := by
    intro other same
    cases same
    exact reachable
  have services : ServicesAbort () 0x8040 core first.outcome first.state :=
    servicesAbort_run present 0x8040
  have stillPresent : ∀ other ∈ (core.taken ()).value (), Reachable other := by
    rw [core.value_taken]
    exact present
  have refuses : ServicesAbort () 0x8040 (core.taken ()) second.outcome second.state :=
    servicesAbort_run stillPresent 0x8040
  obtain ⟨-, free, masked, -⟩ := services.free rfl
  obtain ⟨panics, unchanged⟩ := refuses.held rfl
  refine ⟨by decide +kernel, free, masked, panics, ?_⟩
  rw [unchanged]
  rfl

end VirtualMemory

end Armv6Kernel
