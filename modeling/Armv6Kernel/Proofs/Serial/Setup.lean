import Armv6Kernel.Proofs.Bits.Setters
import Armv6Kernel.Proofs.Serial.Accesses

/-!
# Setting up the serial line

Setting up is a fixed sequence of steps, each of which changes at most one register.  What such a
sequence makes of a register is the composition of the changes at its address, so that everything
else is kept bit by bit.  The order of the accesses is read off their list: the line is off while
its registers change, and a barrier stands wherever the accesses go from one device to another.
-/

namespace Armv6Kernel

/-! ## Steps -/

/-- A step that sets up a device. -/
inductive SetupStep where
  /-- Replaces a register by a function of its value. -/
  | update (address : Nat) (change : Word → Word)
  | write (address : Nat) (value : Word)
  /-- Completes the accesses before it. -/
  | barrier

namespace SetupStep

variable {ε : Type} {step : SetupStep} {steps : List SetupStep} {address : PhysicalAddress}

def action : SetupStep → Action RegisterBus ε Unit
  | update address change => MiniUart.update address change
  | write address value => MiniUart.write address value
  | barrier => MiniUart.deviceBarrier

/-- The register that the step changes. -/
def address? : SetupStep → Option PhysicalAddress
  | update address _ => some (.ofNat address)
  | write address _ => some (.ofNat address)
  | barrier => none

/-- What the step makes of the value of a register. -/
def changeAt (address : PhysicalAddress) (value : Word) : SetupStep → Word
  | update own change => if address = .ofNat own then change value else value
  | write own new => if address = .ofNat own then new else value
  | barrier => value

def apply (registers : DeviceRegisters) (step : SetupStep) : DeviceRegisters :=
  fun address => step.changeAt address (registers address)

/-- The accesses of the step. -/
def accesses (registers : DeviceRegisters) : SetupStep → List BusEvent
  | update address change =>
      [.read (.ofNat address) (registers (.ofNat address)),
        .write (.ofNat address) (change (registers (.ofNat address)))]
  | write address value => [.write (.ofNat address) value]
  | barrier => [.barrier]

/-- The accesses of steps one after the other. -/
def trace : List SetupStep → DeviceRegisters → List BusEvent
  | [], _ => []
  | step :: steps, registers => step.accesses registers ++ trace steps (step.apply registers)

def applyAll (steps : List SetupStep) (registers : DeviceRegisters) : DeviceRegisters :=
  steps.foldl apply registers

/-- The step leaves the register alone that changes by itself. -/
def Steady (step : SetupStep) : Prop :=
  step.address? ≠ some RegisterBus.lineStatusRegister

instance : Decidable step.Steady :=
  inferInstanceAs (Decidable (_ ≠ _))

/-- The bus after steps that leave the line status alone. -/
def after (bus : RegisterBus) (steps : List SetupStep) : RegisterBus :=
  { bus with
    registers := applyAll steps bus.registers
    accesses := bus.accesses ++ trace steps bus.registers }

theorem effect_action (steady : step.Steady) (bus : RegisterBus) :
    (step.action : Action RegisterBus ε Unit).effect bus =
      (.value (), after bus [step]) := by
  have changes : ∀ (registers : DeviceRegisters) (own : PhysicalAddress) (value : Word),
      registers.write own value = fun other => if other = own then value else registers other :=
    fun _ _ _ => rfl
  cases step with
  | update own change =>
      have other : (.ofNat own : PhysicalAddress) ≠ RegisterBus.lineStatusRegister :=
        fun same => steady (congrArg some same)
      have applied : applyAll [update own change] bus.registers =
          bus.registers.write (.ofNat own) (change (bus.registers (.ofNat own))) := by
        funext address
        by_cases here : address = .ofNat own
        · subst here
          simp [applyAll, apply, changeAt, changes]
        · simp [applyAll, apply, changeAt, changes, here]
      rw [action, MiniUart.effect_update, RegisterBus.answer_of_ne other,
        RegisterBus.afterRead_of_ne other, after, applied]
      simp [RegisterBus.afterWrite, RegisterBus.record, trace, accesses]
  | write own value => exact MiniUart.effect_write bus own value
  | barrier => exact MiniUart.effect_deviceBarrier bus

theorem after_cons (bus : RegisterBus) (step : SetupStep) (steps : List SetupStep) :
    after bus (step :: steps) = after (after bus [step]) steps := by
  simp [after, applyAll, trace]

theorem effect_forM (steady : ∀ step ∈ steps, step.Steady) (bus : RegisterBus) :
    (steps.forM action : Action RegisterBus ε Unit).effect bus = (.value (), after bus steps) := by
  induction steps generalizing bus with
  | nil => simp [after, applyAll, trace]
  | cons step steps ih =>
      obtain ⟨first, rest⟩ := List.forall_mem_cons.mp steady
      rw [Action.effect_forM_cons, Action.effect_bind, effect_action first]
      exact (ih rest (after bus [step])).trans (by rw [← after_cons])

/-- A register holds what the changes at its address made of it. -/
theorem applyAll_eq (steps : List SetupStep) (registers : DeviceRegisters)
    (address : PhysicalAddress) :
    applyAll steps registers address = steps.foldl (changeAt address) (registers address) := by
  induction steps generalizing registers with
  | nil => rfl
  | cons step steps ih => exact ih (step.apply registers)

theorem applyAll_of_untouched (untouched : ∀ step ∈ steps, step.address? ≠ some address)
    (registers : DeviceRegisters) : applyAll steps registers address = registers address := by
  have kept : ∀ step ∈ steps, ∀ value : Word, step.changeAt address value = value := by
    intro step member value
    have elsewhere := untouched step member
    cases step with
    | update own change => exact if_neg fun same => elsewhere (congrArg some same.symm)
    | write own value => exact if_neg fun same => elsewhere (congrArg some same.symm)
    | barrier => rfl
  rw [applyAll_eq]
  exact List.foldlRecOn steps _ (motive := (· = registers address)) rfl
    fun value same step member => (kept step member value).trans same

/-! ## The accesses of steps -/

theorem trace_append (steps more : List SetupStep) (registers : DeviceRegisters) :
    trace (steps ++ more) registers =
      trace steps registers ++ trace more (applyAll steps registers) := by
  induction steps generalizing registers with
  | nil => rfl
  | cons step steps ih =>
      rw [List.cons_append, trace, ih, trace, List.append_assoc]
      rfl

/-- A step accesses the register that it changes and no other. -/
theorem address?_of_mem {registers : DeviceRegisters} {event : BusEvent}
    (member : event ∈ step.accesses registers) : step.address? = event.address? := by
  cases step with
  | update own change =>
      rcases List.mem_cons.mp member with rfl | second
      · rfl
      · rw [List.mem_singleton.mp second]
        rfl
  | write own value =>
      rw [List.mem_singleton.mp member]
      rfl
  | barrier =>
      rw [List.mem_singleton.mp member]
      rfl

theorem exists_step_of_mem_trace {registers : DeviceRegisters} {event : BusEvent}
    (member : event ∈ trace steps registers) (named : event.address? = some address) :
    ∃ step ∈ steps, step.address? = some address := by
  induction steps generalizing registers with
  | nil => cases member
  | cons step steps ih =>
      rcases List.mem_append.mp member with first | rest
      · exact ⟨step, List.mem_cons_self, (address?_of_mem first).trans named⟩
      · obtain ⟨found, among, named⟩ := ih rest
        exact ⟨found, List.mem_cons_of_mem _ among, named⟩

end SetupStep

/-! ## Devices and barriers -/

/-- The devices that the serial line needs. -/
inductive SerialDevice where
  | pins
  /-- The auxiliary peripherals, the serial line among them. -/
  | auxiliary
  deriving DecidableEq, Repr

namespace SerialDevice

def base : SerialDevice → Nat
  | pins => MemoryMap.gpioBase
  | auxiliary => 0x20215000

/-- The registers of a device lie in a page of 4 KiB. -/
def Holds (device : SerialDevice) (address : PhysicalAddress) : Prop :=
  device.base ≤ address.toNat ∧ address.toNat < device.base + 0x1000

instance (device : SerialDevice) (address : PhysicalAddress) : Decidable (device.Holds address) :=
  inferInstanceAs (Decidable (_ ∧ _))

def Accessed (device : SerialDevice) (event : BusEvent) : Prop :=
  ∃ address, event.address? = some address ∧ device.Holds address

theorem eq_of_holds {device other : SerialDevice} {address : PhysicalAddress}
    (here : device.Holds address) (there : other.Holds address) : device = other := by
  obtain ⟨above, below⟩ := here
  obtain ⟨otherAbove, otherBelow⟩ := there
  cases device <;> cases other <;> simp only [base, MemoryMap.gpioBase] at * <;> omega

end SerialDevice

/-- A barrier stands between any two accesses to different devices. -/
def Separated (log : List BusEvent) : Prop :=
  ∀ first between second, first :: (between ++ [second]) <:+: log →
    ∀ device other : SerialDevice, device.Accessed first → other.Accessed second →
      device ≠ other → .barrier ∈ between

theorem infix_of_not_mem {α : Type} {phrase log rest : List α} {item : α}
    (inside : phrase <:+: log ++ item :: rest) (absent : item ∉ phrase) :
    phrase <:+: log ∨ phrase <:+: rest := by
  rcases List.infix_append_iff.mp inside with left | right | ⟨initial, final, rfl, left, right⟩
  · exact .inl left
  · rcases List.infix_cons_iff.mp right with start | later
    · rcases List.prefix_cons_iff.mp start with rfl | ⟨tail, rfl, -⟩
      · exact .inl List.nil_infix
      · exact absurd List.mem_cons_self absent
    · exact .inr later
  · rcases List.prefix_cons_iff.mp right with rfl | ⟨tail, rfl, -⟩
    · rw [List.append_nil]
      exact .inl left.isInfix
    · exact absurd (List.mem_append_right initial List.mem_cons_self) absent

theorem Separated.append_barrier {log rest : List BusEvent} (left : Separated log)
    (right : Separated rest) : Separated (log ++ .barrier :: rest) := by
  intro first between second inside device other here there different
  by_cases ordered : .barrier ∈ between
  · exact ordered
  have absent : .barrier ∉ first :: (between ++ [second]) := by
    obtain ⟨address, named, -⟩ := here
    obtain ⟨otherAddress, otherNamed, -⟩ := there
    intro member
    rcases List.mem_cons.mp member with rfl | member
    · cases named
    · rcases List.mem_append.mp member with member | member
      · exact ordered member
      · rw [← List.mem_singleton.mp member] at otherNamed
        cases otherNamed
  rcases infix_of_not_mem inside absent with inLog | inRest
  · exact left first between second inLog device other here there different
  · exact right first between second inRest device other here there different

namespace SetupStep

variable {step : SetupStep} {steps more : List SetupStep} {device : SerialDevice}

/-- The step accesses nothing but the device. -/
def StaysAt (device : SerialDevice) (step : SetupStep) : Prop :=
  ∀ address ∈ step.address?, device.Holds address

instance (device : SerialDevice) : Decidable (step.StaysAt device) :=
  inferInstanceAs (Decidable (∀ address ∈ step.address?, _))

/-- Steps at one device need no barrier. -/
theorem separated_trace (single : ∀ step ∈ steps, step.StaysAt device)
    (registers : DeviceRegisters) : Separated (trace steps registers) := by
  have only : ∀ event ∈ trace steps registers, ∀ other : SerialDevice, other.Accessed event →
      other = device := by
    rintro event member other ⟨address, named, holds⟩
    obtain ⟨step, among, changes⟩ := exists_step_of_mem_trace member named
    exact SerialDevice.eq_of_holds holds (single step among address changes)
  intro first between second inside one other here there different
  have members := inside.subset
  have secondMember : second ∈ first :: (between ++ [second]) := by simp
  exact absurd ((only first (members List.mem_cons_self) one here).trans
    (only second (members secondMember) other there).symm) different

theorem separated_append (single : ∀ step ∈ steps, step.StaysAt device)
    (further : ∀ registers, Separated (trace more registers)) (registers : DeviceRegisters) :
    Separated (trace (steps ++ .barrier :: more) registers) := by
  rw [trace_append]
  exact (separated_trace single registers).append_barrier (further (applyAll steps registers))

end SetupStep

/-! ## The line is off while it is configured -/

namespace MiniUart

def controlRegister : PhysicalAddress :=
  .ofNat control

/-- The registers that may be written only while the line is off. -/
def lineRegisters : List PhysicalAddress :=
  [.ofNat baudRate, .ofNat lineControl, .ofNat interruptIdentification]

/-- The registers that setting up writes. -/
def setupRegisters : List PhysicalAddress :=
  [.ofNat (MemoryMap.gpioBase + 4), .ofNat enables, controlRegister] ++ lineRegisters

/-- The control word that was last written, or else the one from before the log. -/
def lastControl (log : List BusEvent) (current : Option Word) : Option Word :=
  log.foldl (fun last event => (event.written? controlRegister).or last) current

/-- Neither the transmitter nor the receiver is on. -/
def Off (setting : Option Word) : Prop :=
  ∃ word, setting = some word ∧ word &&& 0b11 = 0

/-- The registers of the line are written only while it is off, given the last control word before
the log. -/
def OffWhileSet (current : Option Word) (log : List BusEvent) : Prop :=
  ∀ earlier address value later, log = earlier ++ .write address value :: later →
    address ∈ lineRegisters → Off (lastControl earlier current)

namespace OffWhileSet

variable {current next : Option Word} {step : SetupStep} {steps : List SetupStep}
  {registers : DeviceRegisters}

theorem nil : OffWhileSet current [] := by
  intro earlier address value later split
  exact absurd split.symm (List.append_ne_nil_of_right_ne_nil _ (List.cons_ne_nil _ _))

theorem cons {event : BusEvent} {log : List BusEvent}
    (allowed : ∀ address value, event = .write address value → address ∈ lineRegisters →
      Off current)
    (rest : OffWhileSet ((event.written? controlRegister).or current) log) :
    OffWhileSet current (event :: log) := by
  intro earlier address value later split needed
  cases earlier with
  | nil =>
      cases split
      exact allowed address value rfl needed
  | cons first earlier =>
      cases split
      exact rest earlier address value later rfl needed

theorem append {log more : List BusEvent} (careful : OffWhileSet current log)
    (further : OffWhileSet (lastControl log current) more) : OffWhileSet current (log ++ more) := by
  intro earlier address value later split needed
  rcases List.append_eq_append_iff.mp split with ⟨gap, rfl, inMore⟩ | ⟨gap, inLog, inMore⟩
  · rw [lastControl, List.foldl_append]
    exact further gap address value later inMore needed
  · rcases gap with _ | ⟨event, gap⟩
    · rw [List.append_nil] at inLog
      subst inLog
      exact further [] address value later inMore.symm needed
    · cases inMore
      exact careful earlier address value gap inLog needed

/-- A step may change a register of the line if the line is off. -/
theorem of_step (allowed : step.address? ∉ lineRegisters.map some ∨ Off current) :
    OffWhileSet current (step.accesses registers) := by
  have off : ∀ address ∈ lineRegisters, step.address? = some address → Off current := by
    intro address needed changes
    rcases allowed with elsewhere | off
    · exact absurd (changes ▸ List.mem_map_of_mem needed) elsewhere
    · exact off
  have write : ∀ own value, step.address? = some own →
      OffWhileSet current [.write own value] := by
    intro own value changes
    refine cons ?_ nil
    rintro address value ⟨⟩ needed
    exact off own needed changes
  cases step with
  | update own change => exact cons nofun (write _ _ rfl)
  | write own value => exact write _ _ rfl
  | barrier => exact cons nofun nil

/-- The steps after one that leaves the given control word. -/
theorem trace_cons (allowed : step.address? ∉ lineRegisters.map some ∨ Off current)
    (control : lastControl (step.accesses registers) current = next)
    (rest : OffWhileSet next (SetupStep.trace steps (step.apply registers))) :
    OffWhileSet current (SetupStep.trace (step :: steps) registers) := by
  subst control
  exact (of_step allowed).append rest

end OffWhileSet

/-! ## The sequence -/

/-- The three bits that select the function of a pin, in the register that it shares with nine
others. -/
def pinField (pin : Nat) : BitField 3 :=
  ⟨pin % 10 * 3⟩

def pinRegister : PhysicalAddress :=
  .ofNat (MemoryMap.gpioBase + 4)

def connectPins : List SetupStep :=
  [.update (MemoryMap.gpioBase + 4) ((pinField 14).put 0b010),
    .update (MemoryMap.gpioBase + 4) ((pinField 15).put 0b010)]

def switchOn : List SetupStep :=
  [.update enables (· ||| enableBit)]

def configureLine : List SetupStep :=
  [.update control (· &&& ~~~transceiverBits), .write baudRate baud115200,
    .update lineControl (· ||| eightBits), .update interruptIdentification (· ||| clearQueues),
    .update control (· ||| transceiverBits)]

def setup : List SetupStep :=
  .barrier :: (connectPins ++ .barrier :: (switchOn ++ .barrier :: (configureLine ++ [.barrier])))

/-- Only the update of the control register at the beginning of the configuration counts: it
switches the line off, and the one at the end switches it on when nothing is left to be set. -/
theorem offWhileSet_setup (registers : DeviceRegisters) :
    OffWhileSet none (SetupStep.trace setup registers) := by
  have off : ∀ word : Word, Off (some (word &&& ~~~transceiverBits)) := by
    intro word
    have apart : ~~~transceiverBits &&& 0b11 = 0#32 := by decide
    refine ⟨_, rfl, ?_⟩
    rw [BitVec.and_assoc, apart]
    exact BitVec.and_zero
  refine .trace_cons (.inl (by decide)) rfl <| .trace_cons (.inl (by decide)) rfl <|
    .trace_cons (.inl (by decide)) rfl <| .trace_cons (.inl (by decide)) rfl <|
    .trace_cons (.inl (by decide)) rfl <| .trace_cons (.inl (by decide)) rfl <|
    .trace_cons (.inl (by decide)) rfl <| .trace_cons (.inr (off _)) rfl <|
    .trace_cons (.inr (off _)) rfl <| .trace_cons (.inr (off _)) rfl <|
    .trace_cons (.inl (by decide)) rfl <| .trace_cons (.inl (by decide)) rfl .nil

theorem separated_setup (registers : DeviceRegisters) :
    Separated (SetupStep.trace setup registers) := by
  have pins : ∀ step ∈ connectPins, step.StaysAt .pins := by decide
  have power : ∀ step ∈ switchOn, step.StaysAt .auxiliary := by decide
  have line : ∀ step ∈ configureLine, step.StaysAt .auxiliary := by decide
  have start : ∀ step ∈ [], SetupStep.StaysAt .pins step := by simp
  exact SetupStep.separated_append start
    (SetupStep.separated_append pins
      (SetupStep.separated_append power
        (SetupStep.separated_append line
          (SetupStep.separated_trace start)))) registers

theorem mem_setupRegisters {step : SetupStep} (member : step ∈ setup) {address : PhysicalAddress}
    (changes : step.address? = some address) : address ∈ setupRegisters := by
  have listed : ∀ step ∈ setup, step.address? ∈ none :: setupRegisters.map some := by decide
  have found := listed step member
  rw [changes] at found
  simpa using found

variable {ε : Type}

theorem init_eq_forM : (init : Action RegisterBus ε Unit) = setup.forM SetupStep.action := rfl

theorem effect_init (bus : RegisterBus) :
    (init : Action RegisterBus ε Unit).effect bus = (.value (), SetupStep.after bus setup) := by
  rw [init_eq_forM]
  exact SetupStep.effect_forM (by decide) bus

/-- What setting up the line promises of the registers and of the accesses. -/
structure SetsUp (before after : RegisterBus) (log : List BusEvent) : Prop where
  accesses : after.accesses = before.accesses ++ log
  /-- Ten pins share the register. -/
  otherPins : ∀ index, ¬ (12 ≤ index ∧ index < 18) →
    (after.registers pinRegister).getLsbD index = (before.registers pinRegister).getLsbD index
  /-- Pins 14 and 15 have their alternate function 5. -/
  pins : (after.registers pinRegister).extractLsb' 12 3 = 0b010 ∧
    (after.registers pinRegister).extractLsb' 15 3 = 0b010
  enables : after.registers (.ofNat enables) = before.registers (.ofNat enables) ||| 0b1
  lineControl : after.registers (.ofNat lineControl) =
    before.registers (.ofNat lineControl) ||| 0b11
  queues : after.registers (.ofNat interruptIdentification) =
    before.registers (.ofNat interruptIdentification) ||| 0b110
  control : after.registers controlRegister = before.registers controlRegister ||| 0b11
  baud : after.registers (.ofNat baudRate) = 270
  others : ∀ address, address ∉ setupRegisters →
    after.registers address = before.registers address
  written : ∀ address value, .write address value ∈ log → address ∈ setupRegisters
  off : OffWhileSet none log
  devices : ∀ event ∈ log, event = .barrier ∨ ∃ device : SerialDevice, device.Accessed event
  separated : Separated log
  enclosed : log.head? = some .barrier ∧ log.getLast? = some .barrier

/-- Whatever the registers held. -/
theorem setsUp_init (bus : RegisterBus) :
    ∃ final log, (init : Action RegisterBus ε Unit).effect bus = (.value (), final) ∧
      SetsUp bus final log := by
  have changed := SetupStep.applyAll_eq setup bus.registers
  have selected : (SetupStep.after bus setup).registers pinRegister =
      (pinField 15).put 0b010 ((pinField 14).put 0b010 (bus.registers pinRegister)) :=
    changed pinRegister
  refine ⟨SetupStep.after bus setup, SetupStep.trace setup bus.registers, effect_init bus, ?_⟩
  constructor
  case accesses => rfl
  case otherPins =>
    intro index outside
    have above : ¬ (index < 32 ∧ 15 ≤ index ∧ index < 15 + 3) := by omega
    have below : ¬ (index < 32 ∧ 12 ≤ index ∧ index < 12 + 3) := by omega
    rw [selected, BitField.getLsbD_put]
    refine (if_neg above).trans ?_
    rw [BitField.getLsbD_put]
    exact if_neg below
  case pins =>
    rw [selected]
    constructor
    · exact (BitField.get_put_of_apart (pinField 14) _ (by decide) _ _).trans
        (BitField.get_put _ (by decide) _ _)
    · exact BitField.get_put (pinField 15) (by decide) _ _
  case enables => exact changed (.ofNat enables)
  case lineControl => exact changed (.ofNat lineControl)
  case queues => exact changed (.ofNat interruptIdentification)
  case control => exact (changed controlRegister).trans (clear_or _ transceiverBits)
  case baud => exact changed (.ofNat baudRate)
  case others =>
    intro address elsewhere
    apply SetupStep.applyAll_of_untouched
    intro step member changes
    exact elsewhere (mem_setupRegisters member changes)
  case written =>
    intro address value member
    obtain ⟨step, among, changes⟩ := SetupStep.exists_step_of_mem_trace member rfl
    exact mem_setupRegisters among changes
  case off => exact offWhileSet_setup bus.registers
  case devices =>
    intro event member
    have held : ∀ address ∈ setupRegisters,
        SerialDevice.pins.Holds address ∨ SerialDevice.auxiliary.Holds address := by decide
    rcases named : event.address? with _ | address
    · cases event with
      | barrier => exact .inl rfl
      | _ => cases named
    · obtain ⟨step, among, changes⟩ := SetupStep.exists_step_of_mem_trace member named
      rcases held address (mem_setupRegisters among changes) with holds | holds
      · exact .inr ⟨.pins, address, named, holds⟩
      · exact .inr ⟨.auxiliary, address, named, holds⟩
  case separated => exact separated_setup bus.registers
  case enclosed => exact ⟨rfl, rfl⟩

end MiniUart

end Armv6Kernel
