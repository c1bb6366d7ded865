import Armv6Kernel.Mmu.Control
import Armv6Kernel.Proofs.Descriptor.Attributes
import Armv6Kernel.Proofs.Effect.Ending

/-!
# What the control sequences do

Each sequence leaves registers that are a function of those it found.  Only turning translation on
or off can fail, namely if it is on or off already, and then the registers stay as they were.
-/

namespace Armv6Kernel

namespace SystemRegisters

/-- The registers after the first initialization. -/
def initialized (registers : SystemRegisters) : SystemRegisters :=
  (((((((registers.record .cleanInvalidateDataCache).record .invalidateInstructionCache).record
    .flushBranchTargets).record .invalidateTlb).record .barrier).setControl
      (registers.control.withExtendedPageTables true)).record .barrier)

/-- The registers after translation has been turned on. -/
def enabled (registers : SystemRegisters) : SystemRegisters :=
  (((registers.record .invalidateTlb).record .barrier).setControl
    (registers.control.withMmu true)).record .barrier

/-- The registers after translation has been turned off. -/
def disabled (registers : SystemRegisters) : SystemRegisters :=
  (((((registers.setControl ((registers.control.withMmu false).withDataCache false)).record
    .barrier).record .cleanInvalidateDataCache).record .invalidateInstructionCache).record
      .invalidateTlb).record .barrier

/-- The registers after the caches have been turned on. -/
def withCachesOn (registers : SystemRegisters) : SystemRegisters :=
  (registers.setControl (registers.control.withAllCaches true)).record .barrier

/-- The registers after the caches have been turned off. -/
def withCachesOff (registers : SystemRegisters) : SystemRegisters :=
  ((((registers.setControl (registers.control.withAllCaches false)).record .barrier).record
    .cleanInvalidateDataCache).record .invalidateInstructionCache).record .barrier

/-- The registers after an address space has been installed. -/
def installed (registers : SystemRegisters) (access : DomainAccessControl)
    (table : TranslationTableBase) (context : ContextId) : SystemRegisters :=
  (((((registers.setDomainAccess access).setContextId .reserved).record .barrier).setTableBase
    table).record .barrier).setContextId context |>.record .barrier

/-- The registers after writes to translation tables have been made visible. -/
def synced (registers : SystemRegisters) : SystemRegisters :=
  (registers.record .cleanInvalidateDataCache).record .barrier

variable (registers : SystemRegisters)

@[simp]
theorem history_record (event : RegisterEvent) :
    (registers.record event).history = registers.history ++ [event] := rfl

@[simp]
theorem history_setControl (value : SystemControl) :
    (registers.setControl value).history = registers.history ++ [.control value] := rfl

@[simp]
theorem history_setDomainAccess (value : DomainAccessControl) :
    (registers.setDomainAccess value).history = registers.history ++ [.domainAccess value] := rfl

@[simp]
theorem history_setTableBase (value : TranslationTableBase) :
    (registers.setTableBase value).history = registers.history ++ [.tableBase value] := rfl

@[simp]
theorem history_setContextId (value : ContextId) :
    (registers.setContextId value).history = registers.history ++ [.contextId value] := rfl

end SystemRegisters

namespace Mmu

variable {ε : Type} (registers : SystemRegisters)

theorem effect_init :
    (init : Action SystemRegisters ε Unit).effect registers = (.value (), registers.initialized) :=
  rfl

theorem effect_enable :
    (enable : Action SystemRegisters ε Unit).effect registers =
      if registers.control.mmuIsOn then (.panic .mmuAlreadyOn, registers)
      else (.value (), registers.enabled) := by
  unfold enable
  rw [Action.effect_bind]
  simp only [readControl, Action.effect_gets, Action.effect_bind, Action.effect_assert]
  cases registers.control.mmuIsOn <;> rfl

theorem effect_disable :
    (disable : Action SystemRegisters ε Unit).effect registers =
      if registers.control.mmuIsOn then (.value (), registers.disabled)
      else (.panic .mmuAlreadyOff, registers) := by
  unfold disable
  rw [Action.effect_bind]
  simp only [readControl, Action.effect_gets, Action.effect_bind, Action.effect_assert]
  cases registers.control.mmuIsOn <;> rfl

theorem effect_install (access : DomainAccessControl) (table : TranslationTableBase)
    (context : ContextId) :
    (install access table context : Action SystemRegisters ε Unit).effect registers =
      (.value (), registers.installed access table context) :=
  rfl

theorem effect_syncTables :
    (syncTables : Action SystemRegisters ε Unit).effect registers =
      (.value (), registers.synced) :=
  rfl

end Mmu

/-! ## Values of the registers -/

namespace SystemControl

variable (control : SystemControl) (on : Bool)

@[simp]
theorem mmuIsOn_withMmu : (control.withMmu on).mmuIsOn = on :=
  BitField.test_assign _ (by decide) _ _

@[simp]
theorem mmuIsOn_withDataCache : (control.withDataCache on).mmuIsOn = control.mmuIsOn :=
  BitField.test_assign_of_apart _ _ (by decide) _ _

@[simp]
theorem mmuIsOn_withAllCaches : (control.withAllCaches on).mmuIsOn = control.mmuIsOn := by
  simp (disch := decide) only [withAllCaches, mmuIsOn, BitField.test_assign_of_apart]

end SystemControl

theorem TranslationTableBase.ofTable_of_aligned {table : PhysicalAddress}
    (aligned : table.toNat % TableLevel.first.bytes = 0) :
    ∃ base, ofTable table = .ok base := by
  have masked : table.word &&& 0x3FFF = 0 := by
    apply BitVec.eq_of_toNat_eq
    rw [BitVec.toNat_and]
    exact (Nat.and_two_pow_sub_one_eq_mod table.word.toNat 14).trans aligned
  exact ⟨_, if_pos masked⟩

/-- The table register gives back the table that was written to it. -/
theorem TranslationTableBase.table_of_ofTable {table : PhysicalAddress}
    {base : TranslationTableBase} (made : ofTable table = .ok base) : base.table = table := by
  unfold ofTable at made
  split at made
  · next aligned =>
      cases made
      simp only [TranslationTableBase.table]
      rw [BitField.get_put _ (by decide)]
      apply Address.eq_of_toNat_eq
      have low : table.word.toNat % 0x4000 = 0 := by
        have masked := congrArg BitVec.toNat aligned
        rw [BitVec.toNat_and] at masked
        exact (Nat.and_two_pow_sub_one_eq_mod table.word.toNat 14).symm.trans masked
      have bound := table.word.isLt
      simp only [Address.toNat, BitVec.toNat_shiftLeft, BitVec.toNat_setWidth,
        BitVec.extractLsb'_toNat, Nat.shiftLeft_eq, Nat.shiftRight_eq_div_pow]
      omega
  · cases made

/-- The context register gives back the numbers that were written to it. -/
theorem ContextId.readback {process : Word} {asid : BitVec 8} {context : ContextId}
    (made : forProcess process asid = .ok context) :
    context.process.toNat = process.toNat ∧ context.asid.toNat = asid.toNat := by
  unfold forProcess at made
  split at made
  · next bound =>
      cases made
      constructor
      · have narrow : (process.setWidth 24).toNat = process.toNat := by
          simp only [maxProcess] at bound
          rw [BitVec.toNat_setWidth]
          omega
        simp only [ContextId.process]
        rw [BitField.get_put_of_apart _ _ (by decide), BitField.get_put _ (by decide), narrow]
      · simp only [ContextId.asid]
        rw [BitField.get_put _ (by decide)]
  · cases made

end Armv6Kernel
