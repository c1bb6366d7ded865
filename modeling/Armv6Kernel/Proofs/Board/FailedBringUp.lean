import Armv6Kernel.Proofs.Board.KernelMap

/-!
# What a failed bring-up leaves behind

The kernel's environment is allocated first and mapped afterwards.  Where the allocation fails
nothing has happened.  Where there is room for the tree but not for the table of the stack pages,
bring-up fails as well, and the new environment stays, with a slot, a domain and an address space
identifier that nobody can give back.
-/

namespace Armv6Kernel.VirtualMemory

/-- The same environments live, and the same identifiers are in use. -/
structure SameEnvironments (after before : VirtualMemory) : Prop where
  environments : after.environments = before.environments
  slots : after.slots = before.slots
  domains : after.domains = before.domains
  asids : after.asids = before.asids

/-- One environment more lives, and its identifiers have been taken from the pools. -/
structure GainsEnvironment (after before : VirtualMemory) (environment : Environment) : Prop where
  fresh : before.environments environment.id = none
  environments : after.environments =
    EnvironmentTable.set before.environments environment.id (some environment)
  count : after.liveCount = before.liveCount + 1
  slots : after.slots = before.slots.take environment.id.slot
  domains : after.domains = before.domains.take environment.domain.number
  asids : after.asids = before.asids.take environment.asid.toNat

/-- There is room for a first-level table and a coarse table right behind it. -/
def KernelRoom (state : VirtualMemory) : Prop :=
  ∃ start, start % TableLevel.first.bytes = 0 ∧ state.heap.next.toNat ≤ start ∧
    start + TableLevel.first.bytes + TableLevel.coarse.bytes ≤ state.heap.limit.toNat

/-- When making the kernel's environment fails, and what is left then. -/
structure FailsExactly (state : VirtualMemory)
    (run : Run VirtualMemory AllocationError EnvironmentId) : Prop where
  failed_iff : (∃ cause, run.outcome = .error cause) ↔
    state.firstLack? ≠ none ∨ ¬ state.KernelRoom
  same_iff : ∀ cause, run.outcome = .error cause →
    (SameEnvironments run.state state ↔ state.firstLack? ≠ none)
  refused : ∀ cause, state.firstLack? = some cause →
    run.outcome = .error cause ∧ run.state = state
  short : state.firstLack? = none → ¬ state.KernelRoom →
    run.outcome = .error (.map (.outOfMemory .coarse)) ∧
      ∃ environment, GainsEnvironment run.state state environment

variable {state after : VirtualMemory} {environment : Environment}
  {ending : Outcome AllocationError EnvironmentId × VirtualMemory}

theorem GainsEnvironment.not_same (gains : GainsEnvironment after state environment) :
    ¬ SameEnvironments after state := by
  intro same
  have lives : after.environments environment.id = some environment := by
    rw [gains.environments]
    exact EnvironmentTable.set_self _ _ _
  rw [same.environments, gains.fresh] at lives
  cases lives

theorem Consistent.gainsEnvironment (consistent : state.Consistent) {slot domain asid : Nat}
    (grants : state.Grants slot domain asid) {plan : List PlannedMapping}
    (lays : Lays (state.afterAllocate slot domain asid) (state.nextEnvironment slot domain asid)
      plan after) :
    GainsEnvironment after state (state.nextEnvironment slot domain asid) := by
  have vacant := consistent.vacant_of_free grants.slot.free
  rw [lays.tablesOnly]
  refine
    { fresh := vacant, environments := rfl, count := ?_, slots := rfl, domains := ?_, asids := ?_ }
  · exact EnvironmentTable.liveCount_add (consistent.slots.lt_of_offers grants.slot) vacant
  · rw [consistent.number_nextEnvironment grants]
    rfl
  · rw [consistent.asid_nextEnvironment grants]
    rfl

theorem roundUp_behind_first {place : Nat} (aligned : place % TableLevel.first.bytes = 0) :
    roundUp (place + TableLevel.first.bytes) TableLevel.coarse.bytes =
      place + TableLevel.first.bytes := by
  rw [TableLevel.bytes_first] at aligned ⊢
  rw [TableLevel.bytes_coarse, roundUp]
  omega

/-- A coarse table follows the first-level table without a gap. -/
theorem kernelRoom_iff {slot domain asid : Nat} (grants : state.Grants slot domain asid) :
    state.KernelRoom ↔
      TableLevel.coarse.Fits state.tables.afterRoot.cursor state.tables.limit := by
  have cursor : state.tables.afterRoot.cursor =
      roundUp state.tables.cursor TableLevel.first.bytes + TableLevel.first.bytes := by
    have source : state.tables.afterRoot.source = (state.tables.afterTable .first).source := rfl
    rw [TableMemory.cursor_of_source source, TableMemory.cursor_afterTable grants.room,
      TableMemory.toNat_nextTable grants.room]
  have next : state.heap.next.toNat = state.tables.cursor := rfl
  have limit : state.heap.limit.toNat = state.tables.limit := rfl
  have aligned := TableLevel.first.dvd_roundUp state.tables.cursor
  have above := TableLevel.first.le_roundUp state.tables.cursor
  rw [KernelRoom, next, limit, cursor, TableLevel.Fits, roundUp_behind_first aligned]
  constructor
  · rintro ⟨start, multiple, behind, ends⟩
    -- The next first-level table comes no later than the one that is known to fit.
    have earlier : TableLevel.first.Fits state.tables.cursor (start + TableLevel.first.bytes) :=
      (TableLevel.first.fits_iff _ _).mpr ⟨start, multiple, behind, Nat.le_refl _⟩
    rw [TableLevel.Fits] at earlier
    omega
  · intro fits
    exact ⟨_, aligned, above, fits⟩

/-! ## The two actions -/

/-- An action fails exactly where the mapping of the kernel fails, with the same state. -/
def FailsAlike (state : VirtualMemory)
    (action : Action VirtualMemory AllocationError EnvironmentId) : Prop :=
  ∀ cause after, action.effect state = (.error cause, after) ↔
    mapKernel.effect state = (.error cause, after)

theorem Consistent.failsAlike_bringUp (consistent : state.Consistent) :
    state.FailsAlike bringUp := by
  intro cause after
  have effect := kernelEffect consistent
  unfold bringUp
  rw [Action.effect_bind]
  generalize mapKernel.effect state = ending at effect
  cases effect with
  | refused lacks => rfl
  | short grants nothing lays full => rfl
  | @mapped slot domain asid middle grants nothing lays room =>
      -- A switch panics or succeeds, and what follows it only reports.
      have switch := switchEffect (ε := AllocationError) lays.consistent ⟨slot⟩
      dsimp only
      rw [Action.effect_bind]
      generalize (switchTo ⟨slot⟩ : Action VirtualMemory AllocationError Unit).effect middle =
        switching at switch
      constructor
      · intro failed
        cases switch <;> cases failed
      · intro failed
        cases failed

namespace FailsExactly

variable {run : Run VirtualMemory AllocationError EnvironmentId} {cause : AllocationError}

theorem of_refused (lacks : state.firstLack? = some cause) (outcome : run.outcome = .error cause)
    (final : run.state = state) : state.FailsExactly run := by
  have lacking : state.firstLack? ≠ none := by
    rw [lacks]
    exact Option.some_ne_none cause
  refine
    { failed_iff := iff_of_true ⟨cause, outcome⟩ (.inl lacking), same_iff := ?_, refused := ?_,
      short := fun nothing => absurd nothing lacking }
  · intro other _
    rw [final]
    exact iff_of_true ⟨rfl, rfl, rfl, rfl⟩ lacking
  · intro other same
    rw [lacks] at same
    cases same
    exact ⟨outcome, final⟩

theorem of_short (nothing : state.firstLack? = none) (cramped : ¬ state.KernelRoom)
    (outcome : run.outcome = .error (.map (.outOfMemory .coarse)))
    (gains : GainsEnvironment run.state state environment) : state.FailsExactly run := by
  refine
    { failed_iff := iff_of_true ⟨_, outcome⟩ (.inr cramped), same_iff := ?_, refused := ?_,
      short := fun _ _ => ⟨outcome, environment, gains⟩ }
  · intro other _
    exact iff_of_false gains.not_same (not_not_intro nothing)
  · intro other lacks
    rw [nothing] at lacks
    cases lacks

theorem of_unfailed (nothing : state.firstLack? = none) (roomy : state.KernelRoom)
    (unfailed : ∀ cause, run.outcome ≠ .error cause) : state.FailsExactly run := by
  refine
    { failed_iff := iff_of_false ?_ ?_, same_iff := ?_, refused := ?_,
      short := fun _ cramped => absurd roomy cramped }
  · rintro ⟨cause, outcome⟩
    exact unfailed cause outcome
  · rintro (lacking | cramped)
    · exact lacking nothing
    · exact cramped roomy
  · exact fun cause outcome => absurd outcome (unfailed cause)
  · intro cause lacks
    rw [nothing] at lacks
    cases lacks

end FailsExactly

theorem FailsAlike.failsExactly {action : Action VirtualMemory AllocationError EnvironmentId}
    (alike : state.FailsAlike action) (consistent : state.Consistent) :
    state.FailsExactly (action.run state) := by
  have effect := kernelEffect consistent
  have errors : ∀ cause after, ((action.run state).outcome, (action.run state).state) =
      (.error cause, after) ↔ mapKernel.effect state = (.error cause, after) := alike
  generalize mapKernel.effect state = ending at effect errors
  cases effect with
  | refused lacks =>
      obtain ⟨outcome, final⟩ := Prod.mk.inj ((errors _ state).mpr rfl)
      exact .of_refused lacks outcome final
  | @short slot domain asid after grants nothing lays full =>
      obtain ⟨outcome, final⟩ := Prod.mk.inj ((errors _ after).mpr rfl)
      have gains := consistent.gainsEnvironment grants lays
      rw [← final] at gains
      exact .of_short nothing (mt (kernelRoom_iff grants).mp full) outcome gains
  | mapped grants nothing lays room =>
      refine .of_unfailed nothing ((kernelRoom_iff grants).mpr room) fun cause outcome => ?_
      have impossible := (errors cause (action.run state).state).mp (by rw [outcome])
      cases impossible

/-- In every reachable state, a mapping of the kernel or a bring-up that fails leaves the
environments and the pools as they were exactly if the allocation failed.  Otherwise one environment
more lives, which no caller can name. -/
theorem Reachable.failsExactly_run (reachable : Reachable state) :
    state.FailsExactly (mapKernel.run state) ∧ state.FailsExactly (bringUp.run state) := by
  have consistent := reachable.consistent
  have mapAlike : state.FailsAlike mapKernel := fun _ _ => .rfl
  exact ⟨mapAlike.failsExactly consistent, consistent.failsAlike_bringUp.failsExactly consistent⟩

/-- Virtual memory just set up over a heap with room for one tree and nothing else. -/
def rootOnlyMachine : VirtualMemory :=
  { smallMachine with
    tables := ⟨smallMachine.memory, ⟨⟨0x140000⟩, ⟨0x140000⟩, ⟨0x140000⟩, ⟨0x144000⟩⟩⟩ }

theorem reachable_rootOnlyMachine : Reachable rootOnlyMachine :=
  reachable_smallMachine_upTo (by decide) (by decide)

/-- Bring-up finds no room for the table of the stack and leaves an environment behind. -/
theorem failsExactly_run_rootOnlyMachine :
    (bringUp.run rootOnlyMachine).outcome = .error (.map (.outOfMemory .coarse)) ∧
      rootOnlyMachine.liveCount = 0 ∧ (bringUp.run rootOnlyMachine).state.liveCount = 1 ∧
      ¬ SameEnvironments (bringUp.run rootOnlyMachine).state rootOnlyMachine := by
  have fails := reachable_rootOnlyMachine.failsExactly_run.2
  have failed : (bringUp.run rootOnlyMachine).outcome = .error (.map (.outOfMemory .coarse)) := by
    decide +kernel
  have nothing : rootOnlyMachine.firstLack? = none := by decide +kernel
  refine ⟨failed, by decide +kernel, by decide +kernel, ?_⟩
  rw [fails.same_iff _ failed]
  exact not_not_intro nothing

end Armv6Kernel.VirtualMemory
