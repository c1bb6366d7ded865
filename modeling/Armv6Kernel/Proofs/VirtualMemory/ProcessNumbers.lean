import Armv6Kernel.Proofs.VirtualMemory.Orderly
import Mathlib.Data.List.Nodup

/-!
# Process numbers are never used twice

The process numbers of the environments that are made count up from the last one, whatever is freed,
fails or panics in between, and wherever the heap lies.  When the range is used up nothing is made
any more.  Hence no two environments ever ask for the same value of the context register.
-/

namespace Armv6Kernel

/-- What the context register will hold for an environment. -/
def Environment.context (environment : Environment) : Except Panic ContextId :=
  ContextId.forProcess environment.process environment.asid

theorem Environment.context_of_le {environment : Environment}
    (bound : environment.process.toNat ≤ ContextId.maxProcess) :
    ∃ context, environment.context = .ok context := by
  rw [context, ContextId.forProcess, if_pos bound]
  exact ⟨_, rfl⟩

/-- Environments with different process numbers have different contexts. -/
theorem Environment.context_ne {first second : Environment}
    (bound : first.process.toNat ≤ ContextId.maxProcess)
    (different : first.process.toNat ≠ second.process.toNat) : first.context ≠ second.context := by
  intro same
  obtain ⟨context, made⟩ := context_of_le bound
  have read := (ContextId.readback made).1
  have otherRead := (ContextId.readback (same.symm.trans made)).1
  exact different (read.symm.trans otherRead)

namespace VirtualMemory

/-- The environment that a request makes. -/
def made? (state : VirtualMemory) (request : VirtualMemoryRequest) : Option Environment :=
  match request with
  | .allocate =>
      match (allocate.run state).outcome with
      | .value id => (allocate.run state).state.environments id
      | _ => none
  | _ => none

/-- The environments that the requests make, in the order in which they are made. -/
def made (state : VirtualMemory) : List VirtualMemoryRequest → List Environment
  | [] => []
  | request :: later => (state.made? request).toList ++ (state.serve request).made later

/-- The last process number has been given out: an allocation reports it and changes nothing. -/
structure Exhausted (state : VirtualMemory) : Prop where
  refused : (allocate.run state).outcome =
    .error (.noProcess (BitVec.ofNat 32 ContextId.maxProcess))
  unchanged : (allocate.run state).state = state

/-- What a run does with the process numbers. -/
structure CountsProcesses (state : VirtualMemory) (requests : List VirtualMemoryRequest) :
    Prop where
  recorded : ∀ id, (allocate.run (state.serveAll requests)).outcome = .value id →
    ∃ environment, (state.serveAll requests).made? .allocate = some environment ∧
      environment.id = id
  consecutive : (state.made requests).map (·.process.toNat) =
    List.range' (state.lastProcess.toNat + 1) (state.made requests).length
  bounded : ∀ environment ∈ state.made requests,
    environment.process.toNat ≤ ContextId.maxProcess
  exhausted : state.lastProcess.toNat + (state.made requests).length = ContextId.maxProcess →
    ∀ later, ((state.serveAll requests).serveAll later).Exhausted
  contexts : ∀ id environment, (state.serveAll requests).environments id = some environment →
    ∃ context, environment.context = .ok context
  switches : ∀ id cause,
    ((switchTo id : Action VirtualMemory Empty Unit).run (state.serveAll requests)).outcome =
      .panic cause → cause = .environmentNotAllocated id.slot ∨ cause = .switchWithMmuOn
  distinct : ((state.made requests).map Environment.context).Nodup
  fresh : ∀ id environment, state.environments id = some environment →
    environment.context ∉ (state.made requests).map Environment.context

variable {state : VirtualMemory} {request : VirtualMemoryRequest}

/-! ## One request -/

/-- An allocation makes the next environment, or none and the counter stays. -/
theorem Orderly.allocate_cases (orderly : state.Orderly) :
    (∃ slot domain asid, state.Grants slot domain asid ∧
      allocate.effect state = (.value ⟨slot⟩, state.afterAllocate slot domain asid)) ∨
    ((allocate.effect state).1.isValue = false ∧
      (allocate.effect state).2.lastProcess = state.lastProcess) := by
  have steps := allocateSteps orderly.poolFits
  generalize allocate.effect state = ending at steps
  cases steps with
  | refused effect => exact .inr ⟨rfl, rfl⟩
  | noRoot process slots domains asids ended => exact .inr ⟨rfl, rfl⟩
  | broken slots domains asids failed =>
      rcases failed with ⟨-, same⟩ | unknown
      · exact .inr ⟨rfl, same⟩
      · rw [orderly.ofNat_domain domains] at unknown
        cases unknown
  | made process slots domains asids ended known =>
      have rooted := TableMemory.rootSteps state.tables
      rw [ended] at rooted
      rw [orderly.ofNat_domain domains] at known
      cases known
      cases rooted with
      | made room => exact .inl ⟨_, _, _, ⟨process, slots, domains, asids, room⟩, rfl⟩
      | idle failed moved => cases failed

theorem made?_of_failed (failed : (allocate.effect state).1.isValue = false) :
    state.made? .allocate = none := by
  have ended : (allocate.run state).outcome = (allocate.effect state).1 := rfl
  rw [made?, ended]
  generalize (allocate.effect state).1 = outcome at failed
  cases outcome with
  | value id => cases failed
  | error cause => rfl
  | panic cause => rfl

theorem made?_of_grants {slot domain asid : Nat}
    (ending : allocate.effect state = (.value ⟨slot⟩, state.afterAllocate slot domain asid)) :
    state.made? .allocate = some (state.nextEnvironment slot domain asid) := by
  have ended : (allocate.run state).outcome = .value ⟨slot⟩ := congrArg Prod.fst ending
  have final : (allocate.run state).state = state.afterAllocate slot domain asid :=
    congrArg Prod.snd ending
  rw [made?, ended, final]
  exact EnvironmentTable.set_self _ _ _

/-- A request makes the environment with the next process number, or none and the counter stays. -/
theorem Orderly.made?_cases (orderly : state.Orderly) (request : VirtualMemoryRequest) :
    (∃ environment, state.made? request = some environment ∧
      environment.process.toNat = state.lastProcess.toNat + 1 ∧
      (state.serve request).lastProcess = environment.process) ∨
    (state.made? request = none ∧ (state.serve request).lastProcess = state.lastProcess) := by
  by_cases asks : request = .allocate
  · subst asks
    have final : state.serve .allocate = (allocate.effect state).2 := rfl
    rcases orderly.allocate_cases with ⟨slot, domain, asid, grants, ending⟩ | ⟨failed, same⟩
    · refine .inl ⟨_, made?_of_grants ending, Consistent.process_nextEnvironment grants, ?_⟩
      rw [final, ending]
      rfl
    · exact .inr ⟨made?_of_failed failed, same⟩
  · have none : state.made? request = none := by
      cases request <;> first | rfl | exact absurd rfl asks
    refine .inr ⟨none, ?_⟩
    have work := orderly.work request
    generalize state.serve request = after at work
    cases work with
    | allocated asked grants => exact absurd asked asks
    | _ => rfl

/-! ## Runs -/

theorem Orderly.counts (orderly : state.Orderly) (requests : List VirtualMemoryRequest) :
    (state.made requests).map (·.process.toNat) =
        List.range' (state.lastProcess.toNat + 1) (state.made requests).length ∧
      (state.serveAll requests).lastProcess.toNat =
        state.lastProcess.toNat + (state.made requests).length := by
  induction requests generalizing state with
  | nil => exact ⟨rfl, rfl⟩
  | cons request later ih =>
      obtain ⟨numbers, counter⟩ := ih (orderly.after_serve request)
      have run : state.serveAll (request :: later) = (state.serve request).serveAll later := rfl
      rcases orderly.made?_cases request with ⟨environment, makes, next, last⟩ | ⟨none, same⟩
      · have number : (state.serve request).lastProcess.toNat = state.lastProcess.toNat + 1 := by
          rw [last, next]
        rw [number] at numbers counter
        have list : state.made (request :: later) =
            environment :: (state.serve request).made later := by
          rw [made, makes]
          rfl
        rw [list, List.map_cons, List.length_cons, List.range'_succ, numbers, next, run, counter]
        exact ⟨rfl, by omega⟩
      · have list : state.made (request :: later) = (state.serve request).made later := by
          rw [made, none]
          rfl
        rw [same] at numbers counter
        rw [list, run]
        exact ⟨numbers, counter⟩

theorem exhausted_of_last (last : state.lastProcess.toNat = ContextId.maxProcess) :
    state.Exhausted := by
  have word : state.lastProcess = BitVec.ofNat 32 ContextId.maxProcess := by
    rw [← last, BitVec.ofNat_toNat, BitVec.setWidth_eq]
  have ending : allocate.effect state = (.error (.noProcess state.lastProcess), state) := by
    unfold allocate
    rw [Action.effect_bind, Action.effect_get]
    dsimp only
    rw [last, if_pos (Nat.lt_succ_self _)]
    rfl
  rw [word] at ending
  exact ⟨congrArg Prod.fst ending, congrArg Prod.snd ending⟩

theorem Orderly.recorded (orderly : state.Orderly) {id : EnvironmentId}
    (ended : (allocate.run state).outcome = .value id) :
    ∃ environment, state.made? .allocate = some environment ∧ environment.id = id := by
  have outcome : (allocate.run state).outcome = (allocate.effect state).1 := rfl
  rw [outcome] at ended
  rcases orderly.allocate_cases with ⟨slot, domain, asid, -, ending⟩ | ⟨failed, -⟩
  · rw [ending] at ended
    exact ⟨_, made?_of_grants ending, Outcome.value.inj ended⟩
  · rw [ended] at failed
    cases failed

theorem Orderly.switch_panics (orderly : state.Orderly) {id : EnvironmentId} {cause : Panic}
    (ended : ((switchTo id : Action VirtualMemory Empty Unit).run state).outcome =
      .panic cause) : cause = .environmentNotAllocated id.slot ∨ cause = .switchWithMmuOn := by
  have steps := switchSteps (ε := Empty) state id
  have outcome : ((switchTo id : Action VirtualMemory Empty Unit).run state).outcome =
      ((switchTo id : Action VirtualMemory Empty Unit).effect state).1 := rfl
  rw [outcome] at ended
  generalize (switchTo id : Action VirtualMemory Empty Unit).effect state = ending at steps ended
  cases steps with
  | ended effect => exact effect.panic_cause ended
  | @unfit environment _ found failed =>
      rcases failed with misaligned | tooWide
      · have aligned : environment.root.toNat % TableLevel.first.bytes = 0 :=
          orderly.planted.forest.rootAligned (Consistent.mem_liveSpaces found)
        obtain ⟨table, tableOf⟩ := TranslationTableBase.ofTable_of_aligned aligned
        rw [tableOf] at misaligned
        cases misaligned
      · have bound := Nat.le_trans (orderly.processBound found) orderly.processLimit
        rw [ContextId.forProcess, if_pos bound] at tooWide
        cases tooWide

theorem Orderly.countsProcesses (orderly : state.Orderly) (requests : List VirtualMemoryRequest) :
    state.CountsProcesses requests := by
  have after := orderly.after_serveAll requests
  obtain ⟨consecutive, counter⟩ := orderly.counts requests
  have limit := after.processLimit
  have number : ∀ environment ∈ state.made requests,
      state.lastProcess.toNat < environment.process.toNat ∧
        environment.process.toNat ≤ ContextId.maxProcess := by
    intro environment member
    have listed := List.mem_map_of_mem (f := (·.process.toNat)) member
    rw [consecutive, List.mem_range'_1] at listed
    omega
  refine
    { recorded := fun id ended => after.recorded ended, consecutive := consecutive,
      bounded := fun environment member => (number environment member).2, exhausted := ?_,
      contexts := ?_, switches := fun id cause ended => after.switch_panics ended,
      distinct := ?_, fresh := ?_ }
  · intro last later
    -- The counter can go no further, so nothing is made any more.
    have stays := (after.counts later).2
    have bound := (after.after_serveAll later).processLimit
    exact exhausted_of_last (by omega)
  · intro id environment found
    exact Environment.context_of_le (Nat.le_trans (after.processBound found) limit)
  · have apart : ((state.made requests).map (·.process.toNat)).Nodup := by
      rw [consecutive]
      exact List.nodup_range'
    have pairs := List.pairwise_map.mp apart
    exact List.pairwise_map.mpr (pairs.imp_of_mem fun member _ different =>
      Environment.context_ne (number _ member).2 different)
  · intro id environment found member
    obtain ⟨other, made, same⟩ := List.mem_map.mp member
    have later := number other made
    have earlier := orderly.processBound found
    exact Environment.context_ne later.2 (by omega) same

/-- From the start, and from any later state whose counter is set ahead, the process numbers count
up and none is used twice. -/
theorem countsProcesses_serveAll {tables : TableMemory BumpHeap} {config : VirtualMemoryConfig}
    {registers final : SystemRegisters}
    (accepted : (VirtualMemory.init tables config :
      Action SystemRegisters Empty VirtualMemory).effect registers = (.value state, final)) :
    (state.lastProcess = 0 ∧ ∀ requests, state.CountsProcesses requests) ∧
      ∀ (earlier : List VirtualMemoryRequest) (last : Word),
        last.toNat ≤ ContextId.maxProcess →
        (∀ id environment, (state.serveAll earlier).environments id = some environment →
          environment.process.toNat ≤ last.toNat) →
        ∀ requests,
          ({ state.serveAll earlier with lastProcess := last } :
            VirtualMemory).CountsProcesses requests := by
  have orderly := orderly_init accepted
  constructor
  · obtain ⟨-, slots, domains, asids, -, -, -, rfl⟩ := of_init accepted
    exact ⟨rfl, orderly.countsProcesses⟩
  · intro earlier last limit bound
    have ahead : ({ state.serveAll earlier with lastProcess := last } : VirtualMemory).Orderly :=
      { orderly.after_serveAll earlier with
        processLimit := limit, processBound := fun found => bound _ _ found }
    exact ahead.countsProcesses

/-- One number is left while an environment lives.  It goes to the next environment; then, whatever
is freed, nothing is made any more. -/
theorem countsProcesses_serveAll_lastNumber :
    let state : VirtualMemory :=
      { smallMachine.serveAll [.allocate] with lastProcess := 0xFFFFFE }
    let requests : List VirtualMemoryRequest :=
      [.free ⟨3⟩, .allocate, .allocate, .free ⟨0⟩, .allocate]
    (state.made requests).map (·.process) = [0xFFFFFF] ∧
      ∀ later, ((state.serveAll requests).serveAll later).Exhausted := by
  intro state requests
  have live : ∀ id environment,
      (smallMachine.serveAll [.allocate]).environments id = some environment →
        environment.process.toNat ≤ (0xFFFFFE : Word).toNat := by
    intro id environment found
    have bound := ((orderly_init init_smallMachine).after_serveAll [.allocate]).processBound found
    have last : (smallMachine.serveAll [.allocate]).lastProcess = 1 := by decide +kernel
    rw [last] at bound
    exact Nat.le_trans bound (by decide)
  have counts := (countsProcesses_serveAll init_smallMachine).2 [.allocate] 0xFFFFFE (by decide)
    live requests
  have given : (state.made requests).map (·.process) = [0xFFFFFF] := by decide +kernel
  refine ⟨given, counts.exhausted ?_⟩
  have one : (state.made requests).length = 1 := by decide +kernel
  rw [one]
  rfl

end VirtualMemory

end Armv6Kernel
