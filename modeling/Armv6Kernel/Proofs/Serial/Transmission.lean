import Armv6Kernel.Proofs.Bits.Setters
import Armv6Kernel.Proofs.Serial.Accesses

/-!
# Sending bytes

However long the transmitter is busy before each byte, as long as every wait comes to an end the
bytes that were asked for are written to the data register, each once and in their order, and each
right after a read that found the transmitter free.  The patience of a wait only decides whether a
run comes to its end: every run makes a prefix of the same accesses.
-/

namespace Armv6Kernel.MiniUart

/-- What is sent for bytes: a carriage return before every line feed. -/
def terminalBytes (bytes : List UInt8) : List UInt8 :=
  bytes.flatMap fun byte => if byte = lineFeed then [carriageReturn, lineFeed] else [byte]

def dataRegister : PhysicalAddress :=
  .ofNat MemoryMap.uartData

/-- The byte as it is written to the data register. -/
def dataWord (byte : UInt8) : Word :=
  .ofNat 32 byte.toNat

/-- The status says that the transmitter is free. -/
def isFree (status : Word) : Bool :=
  status.getLsbD 5

/-- Of the reads from one on, so many find the transmitter busy, and then one finds it free. -/
structure Waits (lineStatus : Nat → Word) (next wait : Nat) : Prop where
  busy : ∀ read, read < wait → isFree (lineStatus (next + read)) = false
  free : isFree (lineStatus (next + wait)) = true

/-- After a read that found the transmitter busy, one read less is to come. -/
theorem Waits.tail {lineStatus : Nat → Word} {next wait : Nat}
    (waits : Waits lineStatus next (wait + 1)) : Waits lineStatus (next + 1) wait := by
  constructor
  · intro read below
    have busy := waits.busy (read + 1) (Nat.succ_lt_succ below)
    rwa [Nat.add_comm read, ← Nat.add_assoc] at busy
  · have free := waits.free
    rwa [Nat.add_comm wait, ← Nat.add_assoc] at free

/-- So many waits, each begun after the end of the one before it, come to an end. -/
def WaitsEnd (lineStatus : Nat → Word) : (next count : Nat) → Prop
  | _, 0 => True
  | next, count + 1 =>
      ∃ wait, Waits lineStatus next wait ∧ WaitsEnd lineStatus (next + wait + 1) count

/-- The accesses that send bytes, beginning with the given read of the line status. -/
inductive Sends (lineStatus : Nat → Word) : Nat → List UInt8 → List BusEvent → Prop
  | done {next : Nat} : Sends lineStatus next [] []
  | poll {next : Nat} {bytes : List UInt8} {log : List BusEvent}
      (busy : isFree (lineStatus next) = false) (rest : Sends lineStatus (next + 1) bytes log) :
      Sends lineStatus next bytes
        (.read RegisterBus.lineStatusRegister (lineStatus next) :: log)
  | send {next : Nat} {byte : UInt8} {bytes : List UInt8} {log : List BusEvent}
      (free : isFree (lineStatus next) = true) (rest : Sends lineStatus (next + 1) bytes log) :
      Sends lineStatus next (byte :: bytes)
        (.read RegisterBus.lineStatusRegister (lineStatus next) ::
          .write dataRegister (dataWord byte) :: log)

/-! ## What the accesses of a transmission are -/

namespace Sends

variable {lineStatus : Nat → Word} {next : Nat} {bytes : List UInt8} {log : List BusEvent}

theorem written (sends : Sends lineStatus next bytes log) :
    log.filterMap (·.written? dataRegister) = bytes.map dataWord := by
  induction sends with
  | done => rfl
  | poll busy rest ih => exact ih
  | send free rest ih => exact congrArg (List.cons _) ih

theorem only (sends : Sends lineStatus next bytes log) :
    ∀ event ∈ log, (∃ status, event = .read RegisterBus.lineStatusRegister status) ∨
      ∃ value, event = .write dataRegister value := by
  induction sends with
  | done => exact fun event impossible => absurd impossible List.not_mem_nil
  | poll busy rest ih => exact List.forall_mem_cons.mpr ⟨.inl ⟨_, rfl⟩, ih⟩
  | send free rest ih =>
      exact List.forall_mem_cons.mpr ⟨.inl ⟨_, rfl⟩, List.forall_mem_cons.mpr ⟨.inr ⟨_, rfl⟩, ih⟩⟩

/-- Right before every write, a read found the transmitter free. -/
theorem ready (sends : Sends lineStatus next bytes log) {earlier later : List BusEvent}
    {address : PhysicalAddress} {value : Word}
    (split : log = earlier ++ .write address value :: later) :
    ∃ before status, earlier = before ++ [.read RegisterBus.lineStatusRegister status] ∧
      isFree status = true := by
  induction sends generalizing earlier with
  | done => exact absurd split.symm (List.append_ne_nil_of_right_ne_nil _ (List.cons_ne_nil _ _))
  | poll busy rest ih =>
      cases earlier with
      | nil => cases split
      | cons first earlier =>
          obtain ⟨rfl, tail⟩ := List.cons.inj split
          obtain ⟨before, status, rfl, free⟩ := ih tail
          exact ⟨_ :: before, status, rfl, free⟩
  | @send next byte bytes log free rest ih =>
      rcases earlier with _ | ⟨first, _ | ⟨second, earlier⟩⟩
      · cases split
      · obtain ⟨rfl, -⟩ := List.cons.inj split
        exact ⟨[], _, rfl, free⟩
      · obtain ⟨rfl, rest⟩ := List.cons.inj split
        obtain ⟨rfl, tail⟩ := List.cons.inj rest
        obtain ⟨before, status, rfl, free⟩ := ih tail
        exact ⟨_ :: _ :: before, status, rfl, free⟩

/-- A read that finds the transmitter free ends the wait. -/
theorem ends (sends : Sends lineStatus next bytes log) {earlier later : List BusEvent}
    {status : Word} (split : log = earlier ++ .read RegisterBus.lineStatusRegister status :: later)
    (free : isFree status = true) : ∃ value rest, later = .write dataRegister value :: rest := by
  induction sends generalizing earlier with
  | done => exact absurd split.symm (List.append_ne_nil_of_right_ne_nil _ (List.cons_ne_nil _ _))
  | poll busy rest ih =>
      cases earlier with
      | nil =>
          cases split
          rw [busy] at free
          cases free
      | cons first earlier => exact ih (List.cons.inj split).2
  | send free rest ih =>
      rcases earlier with _ | ⟨first, _ | ⟨second, earlier⟩⟩
      · cases split
        exact ⟨_, _, rfl⟩
      · cases split
      · exact ih (List.cons.inj (List.cons.inj split).2).2

end Sends

/-! ## One byte -/

/-- Reads of the line status one after the other. -/
def polls (lineStatus : Nat → Word) (next count : Nat) : List BusEvent :=
  (List.range count).map fun read =>
    .read RegisterBus.lineStatusRegister (lineStatus (next + read))

theorem polls_succ (lineStatus : Nat → Word) (next count : Nat) :
    polls lineStatus next (count + 1) =
      .read RegisterBus.lineStatusRegister (lineStatus next) ::
        polls lineStatus (next + 1) count := by
  simp [polls, List.range_succ_eq_map, Nat.add_assoc, Nat.add_comm 1]

theorem polls_of_le (lineStatus : Nat → Word) (next : Nat) {count more : Nat}
    (fewer : count ≤ more) : polls lineStatus next count <+: polls lineStatus next more := by
  obtain ⟨rest, rfl⟩ := Nat.exists_eq_add_of_le fewer
  rw [polls, polls, List.range_add, List.map_append]
  exact List.prefix_append _ _

/-- The bus after reads of the line status. -/
def polled (bus : RegisterBus) (count : Nat) : RegisterBus :=
  { bus with
    statusReads := bus.statusReads + count
    accesses := bus.accesses ++ polls bus.lineStatus bus.statusReads count }

theorem polled_one (bus : RegisterBus) :
    bus.afterRead RegisterBus.lineStatusRegister = polled bus 1 := by
  rw [RegisterBus.afterRead, RegisterBus.answer_lineStatus, if_pos rfl]
  rfl

theorem polled_polled (bus : RegisterBus) (count : Nat) :
    polled (polled bus 1) count = polled bus (count + 1) := by
  simp only [polled, polls_succ, Nat.add_assoc, Nat.add_comm 1 count, List.append_assoc]
  rfl

theorem isFree_eq_false_iff (status : Word) :
    status &&& transmitEmpty = 0 ↔ isFree status = false :=
  and_twoPow_eq_zero_iff status (by decide)

/-- A wait reads the line status until it finds the transmitter free or has lost its patience. -/
theorem effect_await {bus : RegisterBus} {wait : Nat}
    (waits : Waits bus.lineStatus bus.statusReads wait) (patience : Nat) :
    (await transmitEmpty patience).effect bus =
      if wait < patience then (.value (), polled bus (wait + 1))
      else (.error .stalled, polled bus patience) := by
  induction patience generalizing bus wait with
  | zero => simp [await, polled, polls]
  | succ patience ih =>
      rw [await, Action.effect_bind, effect_read]
      change Action.effect (if bus.answer RegisterBus.lineStatusRegister &&& transmitEmpty = 0 then
        await transmitEmpty patience else pure ())
        (bus.afterRead RegisterBus.lineStatusRegister) = _
      rw [RegisterBus.answer_lineStatus, polled_one]
      cases wait with
      | zero =>
          have free := waits.free
          rw [if_neg, if_pos (Nat.succ_pos patience)]
          · rfl
          · rw [isFree_eq_false_iff]
            exact fun busy => Bool.false_ne_true (busy.symm.trans free)
      | succ wait =>
          have rest : Waits (polled bus 1).lineStatus (polled bus 1).statusReads wait := waits.tail
          have busy : bus.lineStatus bus.statusReads &&& transmitEmpty = 0 :=
            (isFree_eq_false_iff _).mpr (waits.busy 0 (Nat.succ_pos wait))
          rw [if_pos busy, ih rest, polled_polled, polled_polled]
          simp only [Nat.succ_lt_succ_iff]

theorem effect_sendByte {bus : RegisterBus} {wait : Nat}
    (waits : Waits bus.lineStatus bus.statusReads wait) (patience : Nat) (byte : UInt8) :
    (sendByte patience byte).effect bus =
      if wait < patience then
        (.value (), (polled bus (wait + 1)).afterWrite dataRegister (dataWord byte))
      else (.error .stalled, polled bus patience) := by
  rw [sendByte, Action.effect_bind, effect_await waits]
  by_cases patient : wait < patience
  · rw [if_pos patient, if_pos patient]
    rfl
  · rw [if_neg patient, if_neg patient]

/-- A wait, the byte that it was for, and what is sent after it. -/
theorem Sends.cons {lineStatus : Nat → Word} {next wait : Nat} {bytes : List UInt8}
    {log : List BusEvent} (waits : Waits lineStatus next wait) (byte : UInt8)
    (rest : Sends lineStatus (next + (wait + 1)) bytes log) :
    Sends lineStatus next (byte :: bytes)
      (polls lineStatus next (wait + 1) ++ .write dataRegister (dataWord byte) :: log) := by
  induction wait generalizing next with
  | zero => exact .send waits.free rest
  | succ wait ih =>
      rw [polls_succ]
      refine .poll (waits.busy 0 (Nat.succ_pos wait)) (ih waits.tail ?_)
      rwa [Nat.add_comm (wait + 1), ← Nat.add_assoc] at rest

/-! ## Bytes one after the other -/

/-- With enough patience the bytes are sent, and with less a part of the same accesses is made. -/
structure Delivers (bus : RegisterBus) (bytes : List UInt8) (final : RegisterBus)
    (log : List BusEvent) : Prop where
  sends : Sends bus.lineStatus bus.statusReads bytes log
  accesses : final.accesses = bus.accesses ++ log
  registers : ∀ address, address ≠ dataRegister → final.registers address = bus.registers address
  completes : ∃ bound, ∀ patience, bound ≤ patience →
    (bytes.forM (sendByte patience)).effect bus = (.value (), final)
  cutOff : ∀ patience, ∃ part, part <+: log ∧
    ((bytes.forM (sendByte patience)).effect bus).2.accesses = bus.accesses ++ part

theorem exists_delivers {bus : RegisterBus} {bytes : List UInt8}
    (finite : WaitsEnd bus.lineStatus bus.statusReads bytes.length) :
    ∃ final log, Delivers bus bytes final log := by
  induction bytes generalizing bus with
  | nil =>
      refine ⟨bus, [], .done, (List.append_nil _).symm, fun _ _ => rfl, ⟨0, fun _ _ => rfl⟩, ?_⟩
      exact fun patience => ⟨[], List.prefix_refl [], (List.append_nil _).symm⟩
  | cons byte bytes ih =>
      obtain ⟨wait, waits, later⟩ := finite
      let middle := (polled bus (wait + 1)).afterWrite dataRegister (dataWord byte)
      have written : middle.accesses = bus.accesses ++
          (polls bus.lineStatus bus.statusReads (wait + 1) ++
            [.write dataRegister (dataWord byte)]) := List.append_assoc _ _ _
      obtain ⟨final, log, rest⟩ := @ih middle later
      have continued : ∀ patience, wait < patience →
          ((byte :: bytes).forM (sendByte patience)).effect bus =
            (bytes.forM (sendByte patience)).effect middle := by
        intro patience patient
        rw [Action.effect_forM_cons, Action.effect_bind, effect_sendByte waits, if_pos patient]
      refine ⟨final, _, .cons waits byte rest.sends, ?_, ?_, ?_, ?_⟩
      · rw [rest.accesses, written]
        simp
      · intro address other
        exact (rest.registers address other).trans (if_neg other)
      · obtain ⟨bound, completes⟩ := rest.completes
        refine ⟨max bound (wait + 1), fun patience enough => ?_⟩
        rw [continued patience (by omega)]
        exact completes patience (by omega)
      · intro patience
        by_cases patient : wait < patience
        · obtain ⟨part, short, made⟩ := rest.cutOff patience
          refine ⟨polls bus.lineStatus bus.statusReads (wait + 1) ++
            .write dataRegister (dataWord byte) :: part, ?_, ?_⟩
          · exact (List.prefix_append_right_inj _).mpr (List.cons_prefix_cons.mpr ⟨rfl, short⟩)
          · rw [continued patience patient, made, written]
            simp
        · refine ⟨polls bus.lineStatus bus.statusReads patience, ?_, ?_⟩
          · exact (polls_of_le _ _ (by omega)).trans (List.prefix_append _ _)
          · rw [Action.effect_forM_cons, Action.effect_bind, effect_sendByte waits, if_neg patient]
            rfl

/-! ## Text for a terminal -/

theorem effect_sendTerminalByte (patience : Nat) (byte : UInt8) (bus : RegisterBus) :
    (sendTerminalByte patience byte).effect bus =
      ((if byte = lineFeed then [carriageReturn, lineFeed] else [byte]).forM
        (sendByte patience)).effect bus := by
  by_cases feed : byte = lineFeed
  · subst feed
    rw [if_pos rfl, Action.effect_forM_cons, Action.effect_bind]
    change ((sendByte patience carriageReturn >>= fun _ => sendByte patience lineFeed :
      Action RegisterBus Stalled Unit).effect bus) = _
    rw [Action.effect_bind]
    simp only [Action.effect_forM_singleton]
  · rw [if_neg feed, Action.effect_forM_singleton, sendTerminalByte, if_neg feed]

theorem effect_sendBytes (patience : Nat) (bytes : List UInt8) (bus : RegisterBus) :
    (sendBytes patience bytes).effect bus =
      ((terminalBytes bytes).forM (sendByte patience)).effect bus := by
  rw [sendBytes]
  induction bytes generalizing bus with
  | nil => rfl
  | cons byte bytes ih =>
      rw [terminalBytes, List.flatMap_cons, Action.effect_forM_append, Action.effect_forM_cons,
        Action.effect_bind, Action.effect_bind, effect_sendTerminalByte]
      rcases Action.effect _ bus with ⟨_ | _ | _, middle⟩
      · exact ih middle
      · rfl
      · rfl

/-- What a transmission promises of its accesses. -/
structure Transmits (before after : RegisterBus) (bytes : List UInt8) (log : List BusEvent) :
    Prop where
  accesses : after.accesses = before.accesses ++ log
  written : log.filterMap (·.written? dataRegister) = bytes.map dataWord
  only : ∀ event ∈ log, (∃ status, event = .read RegisterBus.lineStatusRegister status) ∨
    ∃ value, event = .write dataRegister value
  others : ∀ address, address ≠ dataRegister → after.registers address = before.registers address
  ready : ∀ earlier address value later, log = earlier ++ .write address value :: later →
    ∃ first status, earlier = first ++ [.read RegisterBus.lineStatusRegister status] ∧
      status.getLsbD 5 = true
  ends : ∀ earlier status later,
    log = earlier ++ .read RegisterBus.lineStatusRegister status :: later →
      status.getLsbD 5 = true → ∃ value rest, later = .write dataRegister value :: rest

/-- Whatever the line status answers, as long as each of the waits that are needed comes to an
end. -/
theorem transmits_sendBytes (bus : RegisterBus) (bytes : List UInt8)
    (finite : WaitsEnd bus.lineStatus bus.statusReads (terminalBytes bytes).length) :
    ∃ final log, Transmits bus final (terminalBytes bytes) log ∧
      (∃ bound, ∀ patience, bound ≤ patience →
        (sendBytes patience bytes).effect bus = (.value (), final)) ∧
      ∀ patience, ∃ part, part <+: log ∧
        ((sendBytes patience bytes).effect bus).2.accesses = bus.accesses ++ part := by
  obtain ⟨final, log, delivers⟩ := exists_delivers finite
  simp only [effect_sendBytes]
  refine ⟨final, log, ?_, delivers.completes, delivers.cutOff⟩
  exact
    { accesses := delivers.accesses
      written := delivers.sends.written
      only := delivers.sends.only
      others := delivers.registers
      ready := fun _ _ _ _ split => delivers.sends.ready split
      ends := fun _ _ _ split free => delivers.sends.ends split free }

/-- The carriage return is sent at once and the line feed after a wait; then the transmitter is busy
for ever. -/
theorem transmits_sendBytes_line :
    let bus := RegisterBus.idle (fun _ => 0) fun read => [0, 0x20, 0x20, 0, 0, 0x60].getD read 0
    WaitsEnd bus.lineStatus 0 (terminalBytes [111, 10]).length ∧
      terminalBytes [111, 10] = [111, 13, 10] ∧
      ∃ final log, Transmits bus final [111, 13, 10] log ∧
        (∃ bound, ∀ patience, bound ≤ patience →
          (sendBytes patience [111, 10]).effect bus = (.value (), final)) ∧
        ∀ patience, ∃ part, part <+: log ∧
          ((sendBytes patience [111, 10]).effect bus).2.accesses = bus.accesses ++ part := by
  intro bus
  have finite : WaitsEnd bus.lineStatus 0 (terminalBytes [111, 10]).length :=
    ⟨1, ⟨by decide, by decide⟩, 0, ⟨by decide, by decide⟩, 2, ⟨by decide, by decide⟩, trivial⟩
  exact ⟨finite, by decide, transmits_sendBytes bus [111, 10] finite⟩

end Armv6Kernel.MiniUart
