import Armv6Kernel.Proofs.VirtualMemory.Serving

/-!
# The active environment and the registers

The record of the active environment, the control register and the three registers that select an
address space are written by different requests.  In every run they agree: an environment is active
only while the MMU is on, and table, context and domain access all come from the last switch.
-/

namespace Armv6Kernel

/-- The registers hold what a switch to an environment writes. -/
structure SystemRegisters.Select (registers : SystemRegisters) (environment : Environment) :
    Prop where
  table : registers.tableBase.table = environment.root
  context : ContextId.forProcess environment.process environment.asid = .ok registers.contextId
  access : registers.domainAccess = environment.domainAccess

theorem SystemRegisters.Select.of_same {registers otherRegisters : SystemRegisters}
    {environment : Environment} (select : registers.Select environment)
    (table : otherRegisters.tableBase = registers.tableBase)
    (context : otherRegisters.contextId = registers.contextId)
    (access : otherRegisters.domainAccess = registers.domainAccess) :
    otherRegisters.Select environment := by
  constructor
  · rw [table, select.table]
  · rw [context, select.context]
  · rw [access, select.access]

namespace VirtualMemory

/-- The last environment that a run switched to, as its record was then. -/
def lastSwitch? (state : VirtualMemory) : List VirtualMemoryRequest → Option Environment
  | [] => none
  | request :: later => ((state.serve request).lastSwitch? later).or (state.switched? request)

/-- The records, the registers and the active environment agree with the last switch. -/
structure Agree (records : EnvironmentTable) (registers : SystemRegisters)
    (active : Option EnvironmentId) (last : Option Environment) : Prop where
  idle : registers.control.mmuIsOn = false → active = none
  running : ∀ id, active = some id → ∃ environment installed, records id = some environment ∧
    last = some installed ∧
      environment = { installed with domainAccess := environment.domainAccess }
  selected : ∀ installed, last = some installed → registers.Select installed

variable {state after : VirtualMemory} {request : VirtualMemoryRequest} {id : EnvironmentId}
  {records : EnvironmentTable} {registers otherRegisters : SystemRegisters}
  {active : Option EnvironmentId} {last switched : Option Environment}

theorem lastSwitch?_append (state : VirtualMemory) (requests : List VirtualMemoryRequest)
    (request : VirtualMemoryRequest) :
    state.lastSwitch? (requests ++ [request]) =
      ((state.serveAll requests).switched? request).or (state.lastSwitch? requests) := by
  induction requests generalizing state with
  | nil => exact Option.or_none.symm
  | cons first later ih =>
      rw [List.cons_append, lastSwitch?, lastSwitch?, ih, Option.or_assoc]
      rfl

/-! ## One request -/

/-- Other registers may be written, and other bits of the control register. -/
theorem Agree.of_registers (agree : Agree records registers active last)
    (power : otherRegisters.control.mmuIsOn = registers.control.mmuIsOn)
    (table : otherRegisters.tableBase = registers.tableBase)
    (context : otherRegisters.contextId = registers.contextId)
    (access : otherRegisters.domainAccess = registers.domainAccess) :
    Agree records otherRegisters active last :=
  ⟨fun off => agree.idle (power.symm.trans off), agree.running,
    fun installed latest => (agree.selected installed latest).of_same table context access⟩

/-- With no active environment the MMU may be turned on or off. -/
theorem Agree.of_inactive (agree : Agree records registers active last)
    (table : otherRegisters.tableBase = registers.tableBase)
    (context : otherRegisters.contextId = registers.contextId)
    (access : otherRegisters.domainAccess = registers.domainAccess) :
    Agree records otherRegisters none last :=
  ⟨fun _ => rfl, fun _ impossible => (nomatch impossible),
    fun installed latest => (agree.selected installed latest).of_same table context access⟩

theorem RegisterSteps.agree
    (steps : RegisterSteps state switched registers active)
    (agree : Agree state.environments state.registers state.active last) :
    Agree state.environments registers active (switched.or last) := by
  cases steps with
  | kept => exact agree
  | latched status address => exact agree.of_registers rfl rfl rfl rfl
  | enabled off =>
      have inactive : state.active = none := agree.idle off
      rw [inactive]
      exact agree.of_inactive rfl rfl rfl
  | disabled on => exact agree.of_inactive rfl rfl rfl
  | cachesOn =>
      exact agree.of_registers (SystemControl.mmuIsOn_withAllCaches _ _) rfl rfl rfl
  | cachesOff =>
      exact agree.of_registers (SystemControl.mmuIsOn_withAllCaches _ _) rfl rfl rfl
  | synced => exact agree.of_registers rfl rfl rfl rfl
  | @switched id environment table context found off tableOf contextOf =>
      have on : (state.registers.installed environment.domainAccess table
          context).enabled.control.mmuIsOn = true :=
        SystemControl.mmuIsOn_withMmu _ _
      refine ⟨fun impossible => ?_, fun other chosen => ?_, fun installed latest => ?_⟩
      · rw [on] at impossible
        cases impossible
      · cases chosen
        exact ⟨environment, environment, found, rfl, rfl⟩
      · cases latest
        exact ⟨TranslationTableBase.table_of_ofTable tableOf, contextOf, rfl⟩

theorem ServeSteps.agree (steps : ServeSteps state request switched after) (filed : state.Filed)
    (agree : Agree state.environments state.registers state.active last) :
    Agree after.environments after.registers after.active (switched.or last) := by
  obtain ⟨idle, running, selected⟩ := steps.registers.agree agree
  refine ⟨idle, fun id chosen => ?_, selected⟩
  obtain ⟨environment, installed, found, latest, same⟩ := running id chosen
  rcases steps.record filed found with ⟨access, kept⟩ | ⟨-, -, inactive⟩
  · refine ⟨_, installed, kept, latest, ?_⟩
    rw [same]
  · exact absurd chosen inactive

/-! ## Runs -/

theorem Filed.agree_serveAll (filed : state.Filed)
    (agree : Agree state.environments state.registers state.active none)
    (requests : List VirtualMemoryRequest) :
    Agree (state.serveAll requests).environments (state.serveAll requests).registers
      (state.serveAll requests).active (state.lastSwitch? requests) := by
  induction requests using List.reverseRecOn with
  | nil => exact agree
  | append_singleton requests request ih =>
      have filedBefore := filed.after_serveAll requests
      rw [serveAll_append, lastSwitch?_append]
      exact (serveSteps filedBefore request).agree filedBefore ih

theorem agree_serveAll_init {tables : TableMemory BumpHeap} {config : VirtualMemoryConfig}
    {registers final : SystemRegisters}
    (accepted : (VirtualMemory.init tables config :
      Action SystemRegisters Empty VirtualMemory).effect registers = (.value state, final))
    (requests : List VirtualMemoryRequest) :
    Agree (state.serveAll requests).environments (state.serveAll requests).registers
      (state.serveAll requests).active (state.lastSwitch? requests) := by
  have filed := filed_init accepted
  have agree : Agree state.environments state.registers state.active none := by
    obtain ⟨-, slots, domains, asids, -, -, -, rfl⟩ := of_init accepted
    exact ⟨fun _ => rfl, fun _ impossible => (nomatch impossible),
      fun _ impossible => (nomatch impossible)⟩
  exact filed.agree_serveAll agree requests

/-- The environment that runs after a list of requests, and what the registers hold for it. -/
structure Running (state : VirtualMemory) (requests : List VirtualMemoryRequest)
    (id : EnvironmentId) (environment installed : Environment) : Prop where
  mmuIsOn : (state.serveAll requests).mmuIsOn = true
  found : (state.serveAll requests).environments id = some environment
  current : (state.serveAll requests).activeEnvironment? = .ok (some environment)
  latest : state.lastSwitch? requests = some installed
  same : environment = { installed with domainAccess := environment.domainAccess }
  table : (state.serveAll requests).registers.tableBase.table = environment.root
  context : ContextId.forProcess environment.process environment.asid =
    .ok (state.serveAll requests).registers.contextId
  access : (state.serveAll requests).registers.domainAccess = installed.domainAccess

/-- After any requests no environment is active unless the MMU is on.  An active one lives, and
table and context are its own, while the domain access is the one that it had when the last switch
installed it.  Whether the MMU is on or off, all three registers come from the last switch. -/
theorem active_agrees_with_registers {tables : TableMemory BumpHeap} {config : VirtualMemoryConfig}
    {registers final : SystemRegisters}
    (accepted : (VirtualMemory.init tables config :
      Action SystemRegisters Empty VirtualMemory).effect registers = (.value state, final))
    (requests : List VirtualMemoryRequest) :
    ((state.serveAll requests).mmuIsOn = false → (state.serveAll requests).active = none) ∧
      (∀ id, (state.serveAll requests).active = some id →
        ∃ environment installed, state.Running requests id environment installed) ∧
      ∀ installed, state.lastSwitch? requests = some installed →
        (state.serveAll requests).registers.Select installed := by
  obtain ⟨idle, running, selected⟩ := agree_serveAll_init accepted requests
  refine ⟨idle, fun id active => ?_, selected⟩
  obtain ⟨environment, installed, found, latest, same⟩ := running id active
  have select := selected installed latest
  have root : environment.root = installed.root := by rw [same]
  have process : environment.process = installed.process := by rw [same]
  have asid : environment.asid = installed.asid := by rw [same]
  have on : (state.serveAll requests).mmuIsOn = true := by
    cases power : (state.serveAll requests).mmuIsOn with
    | true => rfl
    | false =>
        rw [idle power] at active
        cases active
  refine ⟨environment, installed, on, found, ?_, latest, same, ?_, ?_, select.access⟩
  · simp only [activeEnvironment?, active, VirtualMemory.environment, found]
    rfl
  · rw [select.table, root]
  · rw [process, asid, select.context]

/-- Two environments run one after the other.  The domain access of the second one is replaced while
it runs, the MMU cannot be turned on again, and the first one is retired. -/
theorem active_agrees_with_registers_smallMachine :
    let requests : List VirtualMemoryRequest :=
      [.allocate, .allocate, .switchTo ⟨0⟩, .cachesOn, .free ⟨0⟩, .mmuDisable, .switchTo ⟨1⟩,
        .setDomainAccess ⟨1⟩ .fresh, .mmuEnable, .free ⟨0⟩, .cachesOff]
    let after := smallMachine.serveAll requests
    let installed : Environment := ⟨⟨1⟩, 2, ⟨2⟩, 2, .only ⟨2⟩ .client, ⟨0x144000⟩⟩
    after.active = some ⟨1⟩ ∧ smallMachine.lastSwitch? requests = some installed ∧
      after.environments ⟨1⟩ = some { installed with domainAccess := .fresh } ∧
      after.registers.Select installed ∧
      ∃ environment selected, smallMachine.Running requests ⟨1⟩ environment selected := by
  intro requests after installed
  have active : after.active = some ⟨1⟩ := by decide +kernel
  have latest : smallMachine.lastSwitch? requests = some installed := by decide +kernel
  obtain ⟨-, running, selected⟩ := active_agrees_with_registers init_smallMachine requests
  exact ⟨active, latest, by decide +kernel, selected installed latest, running ⟨1⟩ active⟩

end VirtualMemory

end Armv6Kernel
