import Armv6Kernel.Proofs.Mmu.Discipline
import Armv6Kernel.Proofs.VirtualMemory.Serving

/-!
# The order of register writes over a run

What a run of requests adds to the history of the registers keeps the rules for register writes,
whichever of the requests fail.  So an address space identifier or a domain that is used again never
meets entries of the translation buffer that its previous owner left.
-/

namespace Armv6Kernel.VirtualMemory

open RegisterLog

variable {state : VirtualMemory} {registers : SystemRegisters} {past log : RegisterLog}
  {active : Option EnvironmentId} {switched : Option Environment}

theorem RegisterSteps.recorded (steps : RegisterSteps state switched registers active)
    (recorded : Recorded state.registers past log) : ∃ longer, Recorded registers past longer := by
  cases steps with
  | kept => exact ⟨log, recorded⟩
  | latched status address =>
      exact ⟨log, recorded.history, recorded.control, recorded.disciplined⟩
  | enabled off => exact recorded.enabled
  | disabled on => exact recorded.disabled
  | cachesOn => exact recorded.withCachesOn
  | cachesOff => exact recorded.withCachesOff
  | synced => exact recorded.synced
  | switched found off tableOf contextOf =>
      obtain ⟨longer, installed⟩ := recorded.installed off _ _ _
      exact installed.enabled

theorem Filed.recorded_serveAll (filed : state.Filed) (recorded : Recorded state.registers past log)
    (requests : List VirtualMemoryRequest) :
    ∃ longer, Recorded (state.serveAll requests).registers past longer := by
  induction requests using List.reverseRecOn with
  | nil => exact ⟨log, recorded⟩
  | append_singleton requests request ih =>
      obtain ⟨longer, recordedBefore⟩ := ih
      have steps := serveSteps (filed.after_serveAll requests) request
      rw [serveAll_append]
      exact steps.registers.recorded recordedBefore

/-- From the setup on, over any requests, the registers record a log that keeps the rules, and two
moments with translation on are always separated. -/
theorem serveAll_records_disciplined {tables : TableMemory BumpHeap} {config : VirtualMemoryConfig}
    {registers final : SystemRegisters}
    (accepted : (VirtualMemory.init tables config :
      Action SystemRegisters Empty VirtualMemory).effect registers = (.value state, final))
    (requests : List VirtualMemoryRequest) :
    ∃ log : RegisterLog, (state.serveAll requests).registers.history = registers.history ++ log ∧
      log.lastControl? = some (state.serveAll requests).registers.control ∧ log.Disciplined ∧
      ∀ first between : RegisterLog, first ++ between <+: log → first.translating = true →
        (first ++ between : RegisterLog).translating = true → Separates first between := by
  obtain ⟨log, recorded⟩ : ∃ log, Recorded state.registers registers.history log := by
    obtain ⟨-, slots, domains, asids, -, -, -, rfl⟩ := of_init accepted
    exact recorded_initialized registers
  obtain ⟨longer, history, control, disciplined⟩ :=
    (filed_init accepted).recorded_serveAll recorded requests
  exact ⟨longer, history, control, disciplined,
    fun first between inside on stillOn => disciplined.separates inside on stillOn⟩

/-- An environment is retired between two periods of translation, and the next one gets its
identifiers.  Two of the requests fail. -/
theorem serveAll_records_disciplined_smallMachine :
    let requests : List VirtualMemoryRequest :=
      [.allocate, .switchTo ⟨0⟩, .free ⟨0⟩, .mmuDisable, .free ⟨0⟩, .allocate, .switchTo ⟨0⟩,
        .mmuEnable, .cachesOn]
    let log : RegisterLog := (smallMachine.serveAll requests).registers.history
    log.length = 37 ∧ log.Disciplined ∧
      RegisterLog.translating (log.take 18) = true ∧ log.translating = true ∧
      Separates (log.take 18) (log.drop 18) := by
  intro requests log
  obtain ⟨recorded, history, -, disciplined, separated⟩ :=
    serveAll_records_disciplined init_smallMachine requests
  have whole : log = recorded := history
  have cut : (log.take 18 ++ log.drop 18 : RegisterLog) = log := List.take_append_drop 18 log
  have on : RegisterLog.translating (log.take 18) = true := by decide +kernel
  have stillOn : log.translating = true := by decide +kernel
  refine ⟨by decide +kernel, whole ▸ disciplined, on, stillOn, separated _ _ ?_ on ?_⟩
  · exact ⟨[], by rw [List.append_nil, cut, whole]⟩
  · rw [cut]
    exact stillOn

end Armv6Kernel.VirtualMemory
