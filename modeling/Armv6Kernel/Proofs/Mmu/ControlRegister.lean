import Armv6Kernel.Proofs.Mmu.Discipline

/-!
# What the control sequences keep of the control register

Five of the sequences write the control register, each with the value that it has just read and
changed.  This module follows the register through all runs of the sequences, also those in which
some of them panic: which bits keep their first values, when the extended format and translation
change, and that the data cache is cleaned once it has been turned off.
-/

namespace Armv6Kernel

/-! ## Bits of the register -/

namespace SystemControl

/-- The bits that some sequence sets or clears. -/
def controlledBits : List Nat :=
  [0, 2, 3, 11, 12, 23, 26]

/-- The two values differ at most in bits that some sequence sets or clears. -/
def Agrees (first second : SystemControl) : Prop :=
  ∀ index, index ∉ controlledBits → first.word.getLsbD index = second.word.getLsbD index

def dataCacheIsOn (control : SystemControl) : Bool :=
  dataCacheEnable.test control.word

def formatIsExtended (control : SystemControl) : Bool :=
  extendedPageTables.test control.word

theorem Agrees.refl (control : SystemControl) : control.Agrees control :=
  fun _ _ => rfl

theorem Agrees.trans {first second third : SystemControl} (left : first.Agrees second)
    (right : second.Agrees third) : first.Agrees third :=
  fun index outside => (left index outside).trans (right index outside)

variable (control : SystemControl) (on : Bool)

theorem Agrees.assign {control first : SystemControl} (agrees : control.Agrees first)
    {field : BitField 1} (controlled : field.offset ∈ controlledBits) (on : Bool) :
    Agrees ⟨field.assign on control.word⟩ first := by
  intro index outside
  have other : index ≠ field.offset := fun same => outside (same ▸ controlled)
  have beside : ¬ (index < 32 ∧ field.offset ≤ index ∧ index < field.offset + 1) := by omega
  dsimp only
  rw [BitField.assign, BitField.getLsbD_put, if_neg beside]
  exact agrees index outside

theorem agrees_withMmu : (control.withMmu on).Agrees control :=
  (Agrees.refl control).assign (by decide) on

theorem agrees_withDataCache : (control.withDataCache on).Agrees control :=
  (Agrees.refl control).assign (by decide) on

theorem agrees_withExtendedPageTables : (control.withExtendedPageTables on).Agrees control :=
  (Agrees.refl control).assign (by decide) on

theorem agrees_withAllCaches : (control.withAllCaches on).Agrees control :=
  (((((Agrees.refl control).assign (by decide) on).assign (by decide) on).assign (by decide)
    on).assign (by decide) on).assign (by decide) on

@[simp]
theorem mmuIsOn_withExtendedPageTables :
    (control.withExtendedPageTables on).mmuIsOn = control.mmuIsOn :=
  BitField.test_assign_of_apart _ _ (by decide) _ _

@[simp]
theorem formatIsExtended_withExtendedPageTables :
    (control.withExtendedPageTables on).formatIsExtended = on :=
  BitField.test_assign _ (by decide) _ _

@[simp]
theorem formatIsExtended_withMmu :
    (control.withMmu on).formatIsExtended = control.formatIsExtended :=
  BitField.test_assign_of_apart _ _ (by decide) _ _

@[simp]
theorem formatIsExtended_withDataCache :
    (control.withDataCache on).formatIsExtended = control.formatIsExtended :=
  BitField.test_assign_of_apart _ _ (by decide) _ _

@[simp]
theorem formatIsExtended_withAllCaches :
    (control.withAllCaches on).formatIsExtended = control.formatIsExtended := by
  simp (disch := decide) only [withAllCaches, formatIsExtended, BitField.test_assign_of_apart]

@[simp]
theorem dataCacheIsOn_withExtendedPageTables :
    (control.withExtendedPageTables on).dataCacheIsOn = control.dataCacheIsOn :=
  BitField.test_assign_of_apart _ _ (by decide) _ _

@[simp]
theorem dataCacheIsOn_withMmu : (control.withMmu on).dataCacheIsOn = control.dataCacheIsOn :=
  BitField.test_assign_of_apart _ _ (by decide) _ _

@[simp]
theorem dataCacheIsOn_withAllCaches : (control.withAllCaches on).dataCacheIsOn = on := by
  simp (disch := decide) only [withAllCaches, dataCacheIsOn, BitField.test_assign_of_apart,
    BitField.test_assign]

end SystemControl

/-! ## Logs -/

/-- The event is a write of one of the registers. -/
def RegisterEvent.writes : RegisterEvent → Bool
  | control _ => true
  | domainAccess _ => true
  | tableBase _ => true
  | contextId _ => true
  | _ => false

namespace RegisterLog

variable {log phrase rest : RegisterLog} {first current value : SystemControl}

/-- Before the next write of a register, the data cache is cleaned, between two barriers. -/
def Cleans (log : RegisterLog) : Prop :=
  ∃ phrase rest, log = phrase ++ rest ∧ (∀ event ∈ phrase, event.writes = false) ∧
    [.barrier, .cleanInvalidateDataCache, .barrier].Sublist phrase

/-- Each write that turns the data cache off is followed by cleaning.  The value is that of the
control register before the log. -/
def CleansAfter (current : SystemControl) (log : RegisterLog) : Prop :=
  ∀ (before : RegisterLog) (value : SystemControl) (after : RegisterLog),
    log = before ++ .control value :: after →
      (before.lastControl?.getD current).dataCacheIsOn = true →
      value.dataCacheIsOn = false → after.Cleans

theorem Cleans.of_unwritten (unwritten : ∀ event ∈ log, event.writes = false)
    (ordered : [.barrier, .cleanInvalidateDataCache, .barrier].Sublist log) : log.Cleans :=
  ⟨log, [], (List.append_nil log).symm, unwritten, ordered⟩

theorem Cleans.append (cleans : log.Cleans) (phrase : RegisterLog) :
    (log ++ phrase : RegisterLog).Cleans := by
  obtain ⟨cleaning, rest, rfl, unwritten, ordered⟩ := cleans
  exact ⟨cleaning, rest ++ phrase, List.append_assoc _ _ _, unwritten, ordered⟩

theorem control_not_mem (quiet : log.lastControl? = none) (value : SystemControl) :
    .control value ∉ log := by
  intro member
  have none := List.findSome?_eq_none_iff.mp quiet _ (List.mem_reverse.mpr member)
  cases none

/-- In a log with one write of the control register there is only one way to take the log apart
there. -/
theorem split_unique {before after : RegisterLog} {other : SystemControl}
    (quiet : log.lastControl? = none) (quietRest : rest.lastControl? = none)
    (split : log ++ .control value :: rest = before ++ .control other :: after) :
    log = before ∧ value = other ∧ rest = after := by
  rcases List.append_eq_append_iff.mp split with ⟨gap, rfl, tail⟩ | ⟨gap, rfl, tail⟩
  · rcases gap with _ | ⟨event, gap⟩
    · cases tail
      exact ⟨(List.append_nil _).symm, rfl, rfl⟩
    · cases tail
      exact absurd (List.mem_append_right gap List.mem_cons_self)
        (control_not_mem quietRest other)
  · rcases gap with _ | ⟨event, gap⟩
    · cases tail
      exact ⟨List.append_nil _, rfl, rfl⟩
    · cases tail
      exact absurd (List.mem_append_right before List.mem_cons_self) (control_not_mem quiet other)

theorem CleansAfter.of_quiet (quiet : log.lastControl? = none) : log.CleansAfter current := by
  rintro before value after rfl
  exact absurd (List.mem_append_right before List.mem_cons_self) (control_not_mem quiet value)

theorem CleansAfter.of_write (quiet : log.lastControl? = none)
    (quietRest : rest.lastControl? = none)
    (cleans : (current.dataCacheIsOn = true → value.dataCacheIsOn = true) ∨ rest.Cleans) :
    (log ++ .control value :: rest : RegisterLog).CleansAfter current := by
  intro before other after split wasOn turnsOff
  obtain ⟨rfl, rfl, rfl⟩ := split_unique quiet quietRest split
  rw [quiet] at wasOn
  rcases cleans with staysOn | cleans
  · rw [staysOn wasOn] at turnsOff
    cases turnsOff
  · exact cleans

theorem CleansAfter.append (cleans : log.CleansAfter current)
    (further : phrase.CleansAfter (log.lastControl?.getD current)) :
    (log ++ phrase : RegisterLog).CleansAfter current := by
  intro before value after split
  rcases List.append_eq_append_iff.mp split with ⟨rest, rfl, inside⟩ | ⟨rest, inside, isLast⟩
  · rw [lastControl?_append, Option.getD_or]
    exact further rest value after inside
  · rcases rest with _ | ⟨event, rest⟩
    · rw [List.append_nil] at inside
      subst inside
      exact further [] value after isLast.symm
    · cases isLast
      intro wasOn turnsOff
      exact (cleans before value rest inside wasOn turnsOff).append phrase

end RegisterLog

/-! ## One request -/

/-- A request to control the MMU. -/
inductive MmuRequest where
  | init
  | enable
  | disable
  | cachesOn
  | cachesOff
  | install (access : DomainAccessControl) (table : TranslationTableBase) (context : ContextId)
  | syncTables
  deriving DecidableEq, Repr

namespace MmuRequest

def action : MmuRequest → Action SystemRegisters Empty Unit
  | init => Mmu.init
  | enable => Mmu.enable
  | disable => Mmu.disable
  | cachesOn => Mmu.cachesOn
  | cachesOff => Mmu.cachesOff
  | install access table context => Mmu.install access table context
  | syncTables => Mmu.syncTables

/-- What the request makes of translation, if anything. -/
def translation? : MmuRequest → Option Bool
  | enable => some true
  | disable => some false
  | _ => none

/-- The requests that panic, by the value of the control register. -/
inductive Panics (control : SystemControl) : MmuRequest → Panic → Prop
  | enable (on : control.mmuIsOn = true) : Panics control .enable .mmuAlreadyOn
  | disable (off : control.mmuIsOn = false) : Panics control .disable .mmuAlreadyOff

theorem not_panics {request : MmuRequest} (keeps : request.translation? = none)
    (control : SystemControl) (cause : Panic) : ¬ request.Panics control cause := by
  intro panics
  cases panics <;> cases keeps

/-- What a request may make of the control register. -/
structure Changes (request : MmuRequest) (before after : SystemControl) : Prop where
  agrees : after.Agrees before
  format : after.formatIsExtended = (decide (request = .init) || before.formatIsExtended)
  translation : after.mmuIsOn = request.translation?.getD before.mmuIsOn

theorem Panics.changes {control : SystemControl} {request : MmuRequest} {cause : Panic}
    (panics : request.Panics control cause) : request.Changes control control := by
  cases panics with
  | enable on => exact ⟨.refl control, rfl, on⟩
  | disable off => exact ⟨.refl control, rfl, off⟩

theorem changes_withAllCaches (request : MmuRequest) (other : request ≠ .init)
    (keeps : request.translation? = none) (control : SystemControl) (on : Bool) :
    request.Changes control (control.withAllCaches on) where
  agrees := control.agrees_withAllCaches on
  format := by
    rw [decide_eq_false other]
    exact control.formatIsExtended_withAllCaches on
  translation := by
    rw [keeps]
    exact control.mmuIsOn_withAllCaches on

end MmuRequest

namespace SystemRegisters

variable {registers : SystemRegisters} {request : MmuRequest}

/-- One request; one that panics leaves what it had done. -/
def operate (registers : SystemRegisters) (request : MmuRequest) : SystemRegisters :=
  (request.action.effect registers).2

def operateAll (registers : SystemRegisters) (requests : List MmuRequest) : SystemRegisters :=
  requests.foldl operate registers

/-- What a run of requests adds to the history. -/
def log (registers : SystemRegisters) (requests : List MmuRequest) : RegisterLog :=
  (registers.operateAll requests).history.drop registers.history.length

/-- How a request ends and what it leaves. -/
inductive Ends (registers : SystemRegisters) (request : MmuRequest) :
    Outcome Empty Unit × SystemRegisters → Prop
  | panicked {cause : Panic} (panics : request.Panics registers.control cause) :
      Ends registers request (.panic cause, registers)
  | quiet {final : SystemRegisters} (phrase : RegisterLog)
      (completes : ∀ cause, ¬ request.Panics registers.control cause)
      (history : final.history = registers.history ++ phrase)
      (control : final.control = registers.control) (quiet : phrase.lastControl? = none)
      (changes : request.Changes registers.control final.control) :
      Ends registers request (.value (), final)
  | wrote {final : SystemRegisters} (phrase rest : RegisterLog)
      (completes : ∀ cause, ¬ request.Panics registers.control cause)
      (history : final.history = registers.history ++ (phrase ++ .control final.control :: rest))
      (quiet : phrase.lastControl? = none) (quietRest : rest.lastControl? = none)
      (changes : request.Changes registers.control final.control)
      (cleans : (registers.control.dataCacheIsOn = true → final.control.dataCacheIsOn = true) ∨
        rest.Cleans) :
      Ends registers request (.value (), final)

theorem ends_init (registers : SystemRegisters) :
    Ends registers .init (.value (), registers.initialized) := by
  have changes : MmuRequest.init.Changes registers.control registers.initialized.control :=
    { agrees := registers.control.agrees_withExtendedPageTables true
      format := registers.control.formatIsExtended_withExtendedPageTables true
      translation := registers.control.mmuIsOn_withExtendedPageTables true }
  refine .wrote [.cleanInvalidateDataCache, .invalidateInstructionCache, .flushBranchTargets,
    .invalidateTlb, .barrier] [.barrier] (MmuRequest.not_panics rfl _) ?_ rfl rfl changes
    (.inl (registers.control.dataCacheIsOn_withExtendedPageTables true).trans)
  simp [initialized, record, setControl]

theorem ends_enable (registers : SystemRegisters) (off : registers.control.mmuIsOn = false) :
    Ends registers .enable (.value (), registers.enabled) := by
  have completes : ∀ cause, ¬ MmuRequest.enable.Panics registers.control cause := by
    rintro _ ⟨on⟩
    rw [off] at on
    cases on
  have changes : MmuRequest.enable.Changes registers.control registers.enabled.control :=
    { agrees := registers.control.agrees_withMmu true
      format := registers.control.formatIsExtended_withMmu true
      translation := registers.control.mmuIsOn_withMmu true }
  refine .wrote [.invalidateTlb, .barrier] [.barrier] completes ?_ rfl rfl changes
    (.inl (registers.control.dataCacheIsOn_withMmu true).trans)
  simp [enabled, record, setControl]

theorem ends_disable (registers : SystemRegisters) (on : registers.control.mmuIsOn = true) :
    Ends registers .disable (.value (), registers.disabled) := by
  have completes : ∀ cause, ¬ MmuRequest.disable.Panics registers.control cause := by
    rintro _ (_ | off)
    rw [on] at off
    cases off
  have changes : MmuRequest.disable.Changes registers.control registers.disabled.control :=
    { agrees := (SystemControl.agrees_withDataCache _ false).trans
        (registers.control.agrees_withMmu false)
      format := (SystemControl.formatIsExtended_withDataCache _ false).trans
        (registers.control.formatIsExtended_withMmu false)
      translation := (SystemControl.mmuIsOn_withDataCache _ false).trans
        (registers.control.mmuIsOn_withMmu false) }
  refine .wrote [] [.barrier, .cleanInvalidateDataCache, .invalidateInstructionCache,
    .invalidateTlb, .barrier] completes ?_ rfl rfl changes
    (.inr (.of_unwritten (by decide) (by decide)))
  simp [disabled, record, setControl]

theorem ends_cachesOn (registers : SystemRegisters) :
    Ends registers .cachesOn (.value (), registers.withCachesOn) := by
  have changes : MmuRequest.cachesOn.Changes registers.control registers.withCachesOn.control :=
    MmuRequest.cachesOn.changes_withAllCaches (by decide) rfl registers.control true
  refine .wrote [] [.barrier] (MmuRequest.not_panics rfl _) ?_ rfl rfl changes
    (.inl fun _ => registers.control.dataCacheIsOn_withAllCaches true)
  simp [withCachesOn, record, setControl]

theorem ends_cachesOff (registers : SystemRegisters) :
    Ends registers .cachesOff (.value (), registers.withCachesOff) := by
  have changes : MmuRequest.cachesOff.Changes registers.control registers.withCachesOff.control :=
    MmuRequest.cachesOff.changes_withAllCaches (by decide) rfl registers.control false
  refine .wrote [] [.barrier, .cleanInvalidateDataCache, .invalidateInstructionCache, .barrier]
    (MmuRequest.not_panics rfl _) ?_ rfl rfl changes
    (.inr (.of_unwritten (by decide) (by decide)))
  simp [withCachesOff, record, setControl]

theorem ends_install (registers : SystemRegisters) (access : DomainAccessControl)
    (table : TranslationTableBase) (context : ContextId) :
    Ends registers (.install access table context)
      (.value (), registers.installed access table context) := by
  refine .quiet [.domainAccess access, .contextId .reserved, .barrier, .tableBase table, .barrier,
    .contextId context, .barrier] (MmuRequest.not_panics rfl _) ?_ rfl rfl
    ⟨.refl registers.control, rfl, rfl⟩
  simp [installed]

theorem ends_syncTables (registers : SystemRegisters) :
    Ends registers .syncTables (.value (), registers.synced) := by
  refine .quiet [.cleanInvalidateDataCache, .barrier] (MmuRequest.not_panics rfl _) ?_ rfl rfl
    ⟨.refl registers.control, rfl, rfl⟩
  simp [synced]

theorem ends (registers : SystemRegisters) (request : MmuRequest) :
    Ends registers request (request.action.effect registers) := by
  cases request with
  | init => exact registers.ends_init
  | enable =>
      rw [show MmuRequest.enable.action.effect registers = _ from Mmu.effect_enable registers]
      cases power : registers.control.mmuIsOn with
      | true => exact .panicked (.enable power)
      | false => exact registers.ends_enable power
  | disable =>
      rw [show MmuRequest.disable.action.effect registers = _ from Mmu.effect_disable registers]
      cases power : registers.control.mmuIsOn with
      | true => exact registers.ends_disable power
      | false => exact .panicked (.disable power)
  | cachesOn => exact registers.ends_cachesOn
  | cachesOff => exact registers.ends_cachesOff
  | install access table context => exact registers.ends_install access table context
  | syncTables => exact registers.ends_syncTables

/-- What a request adds to the history, and what it makes of the control register. -/
structure Amends (registers : SystemRegisters) (request : MmuRequest) (phrase : RegisterLog)
    (final : SystemRegisters) : Prop where
  history : final.history = registers.history ++ phrase
  current : final.control = phrase.lastControl?.getD registers.control
  changes : ∀ value, .control value ∈ phrase ∨ value = final.control →
    request.Changes registers.control value
  cleans : phrase.CleansAfter registers.control

theorem Ends.amends {ending : Outcome Empty Unit × SystemRegisters}
    (ends : Ends registers request ending) :
    ∃ phrase, Amends registers request phrase ending.2 := by
  cases ends with
  | panicked panics =>
      refine ⟨[], (List.append_nil _).symm, rfl, ?_, .of_quiet rfl⟩
      rintro value (impossible | rfl)
      · cases impossible
      · exact panics.changes
  | quiet phrase completes history control quiet changes =>
      refine ⟨phrase, history, ?_, ?_, .of_quiet quiet⟩
      · rw [quiet]
        exact control
      · rintro value (member | rfl)
        · exact absurd member (RegisterLog.control_not_mem quiet value)
        · exact changes
  | @wrote final phrase rest completes history quiet quietRest changes cleans =>
      have last : (phrase ++ .control final.control :: rest : RegisterLog).lastControl? =
          some final.control := by
        rw [List.append_cons, RegisterLog.lastControl?_append, quietRest, Option.none_or,
          RegisterLog.lastControl?_append]
        rfl
      refine ⟨_, history, ?_, ?_, .of_write quiet quietRest cleans⟩
      · rw [last]
        rfl
      · rintro value (member | rfl)
        · obtain ⟨before, after, split⟩ := List.append_of_mem member
          obtain ⟨-, rfl, -⟩ := RegisterLog.split_unique quiet quietRest split
          exact changes
        · exact changes

theorem amends (registers : SystemRegisters) (request : MmuRequest) :
    Amends registers request (registers.log [request]) (registers.operate request) := by
  obtain ⟨phrase, amends⟩ := (registers.ends request).amends
  have added : registers.log [request] = phrase := by
    change (registers.operate request).history.drop registers.history.length = phrase
    rw [show (registers.operate request).history = _ from amends.history, List.drop_left]
  rw [added]
  exact amends

/-! ## Runs -/

variable {requests : List MmuRequest}

theorem operateAll_append (registers : SystemRegisters) (earlier later : List MmuRequest) :
    registers.operateAll (earlier ++ later) = (registers.operateAll earlier).operateAll later :=
  List.foldl_append

theorem history_prefix (registers : SystemRegisters) (requests : List MmuRequest) :
    registers.history <+: (registers.operateAll requests).history := by
  induction requests generalizing registers with
  | nil => exact List.prefix_refl _
  | cons request requests hypothesis =>
      have first : registers.history <+: (registers.operate request).history :=
        ⟨_, (registers.amends request).history.symm⟩
      exact first.trans (hypothesis _)

theorem history_operateAll (registers : SystemRegisters) (requests : List MmuRequest) :
    (registers.operateAll requests).history = registers.history ++ registers.log requests :=
  (List.prefix_iff_eq_append.mp (registers.history_prefix requests)).symm

theorem log_append (registers : SystemRegisters) (earlier later : List MmuRequest) :
    registers.log (earlier ++ later) =
      registers.log earlier ++ (registers.operateAll earlier).log later := by
  have whole := registers.history_operateAll (earlier ++ later)
  rw [operateAll_append, history_operateAll, history_operateAll, List.append_assoc] at whole
  exact (List.append_cancel_left whole).symm

theorem log_nil (registers : SystemRegisters) : registers.log [] = [] :=
  List.drop_eq_nil_of_le (Nat.le_refl _)

/-- What every request keeps of the control register holds of all values that a run writes, and of
the last. -/
theorem forall_log {motive : SystemControl → Prop}
    (keeps : ∀ (request : MmuRequest) before after, request.Changes before after →
      motive before → motive after)
    (registers : SystemRegisters) (start : motive registers.control)
    (requests : List MmuRequest) :
    motive (registers.operateAll requests).control ∧
      ∀ value, .control value ∈ registers.log requests → motive value := by
  induction requests generalizing registers with
  | nil =>
      rw [log_nil]
      exact ⟨start, nofun⟩
  | cons request requests hypothesis =>
      have amends := registers.amends request
      obtain ⟨last, later⟩ := hypothesis (registers.operate request)
        (keeps request _ _ (amends.changes _ (.inr rfl)) start)
      refine ⟨last, fun value member => ?_⟩
      rw [← List.singleton_append, log_append] at member
      rcases List.mem_append.mp member with here | after
      · exact keeps request _ _ (amends.changes value (.inl here)) start
      · exact later value after

/-- From its first step on, a run that begins by initializing the MMU has the extended format
selected. -/
theorem extended_log_init (registers : SystemRegisters) (later : List MmuRequest) :
    (registers.operateAll (.init :: later)).control.formatIsExtended = true ∧
      ∀ value, .control value ∈ registers.log (.init :: later) →
        value.formatIsExtended = true := by
  have amends := registers.amends .init
  have keeps : ∀ (request : MmuRequest) before after, request.Changes before after →
      before.formatIsExtended = true → after.formatIsExtended = true := by
    intro request before after changes extended
    rw [changes.format, extended, Bool.or_true]
  obtain ⟨last, rest⟩ := forall_log keeps (registers.operate .init)
    (amends.changes _ (.inr rfl)).format later
  refine ⟨last, fun value member => ?_⟩
  rw [← List.singleton_append, log_append] at member
  rcases List.mem_append.mp member with here | after
  · exact (amends.changes value (.inl here)).format
  · exact rest value after

/-- What a run has written last stands in the control register. -/
theorem control_operateAll (registers : SystemRegisters) (requests : List MmuRequest) :
    (registers.operateAll requests).control =
      (registers.log requests).lastControl?.getD registers.control := by
  induction requests generalizing registers with
  | nil =>
      rw [log_nil]
      rfl
  | cons request requests hypothesis =>
      rw [← List.singleton_append, operateAll_append, log_append,
        RegisterLog.lastControl?_append, Option.getD_or, hypothesis]
      exact congrArg _ (registers.amends request).current

theorem cleansAfter_log (registers : SystemRegisters) (requests : List MmuRequest) :
    (registers.log requests).CleansAfter registers.control := by
  induction requests generalizing registers with
  | nil =>
      rw [log_nil]
      exact .of_quiet rfl
  | cons request requests hypothesis =>
      have amends := registers.amends request
      rw [← List.singleton_append, log_append]
      refine amends.cleans.append ?_
      rw [← amends.current]
      exact hypothesis _

/-- How a request is answered. -/
structure Answers (registers : SystemRegisters) (request : MmuRequest)
    (ending : Outcome Empty Unit × SystemRegisters) : Prop where
  panics_iff : ∀ cause, ending.1 = .panic cause ↔ request.Panics registers.control cause
  refused : ∀ cause, ending.1 = .panic cause → ending.2 = registers
  translation : ∀ value, .control value ∈ registers.log [request] ∨ value = ending.2.control →
    value.mmuIsOn = request.translation?.getD registers.control.mmuIsOn

theorem answers (registers : SystemRegisters) (request : MmuRequest) :
    Answers registers request (request.action.effect registers) := by
  have translation : ∀ value, .control value ∈ registers.log [request] ∨
      value = (request.action.effect registers).2.control →
        value.mmuIsOn = request.translation?.getD registers.control.mmuIsOn :=
    fun value written => ((registers.amends request).changes value written).translation
  have ends := registers.ends request
  generalize request.action.effect registers = ending at ends translation
  cases ends with
  | @panicked cause panics =>
      refine ⟨fun other => ⟨?_, fun panicsOther => ?_⟩, fun _ _ => rfl, translation⟩
      · rintro ⟨⟩
        exact panics
      · cases panics <;> cases panicsOther <;> rfl
  | quiet phrase completes =>
      exact ⟨fun cause => ⟨nofun, fun panics => absurd panics (completes cause)⟩, nofun,
        translation⟩
  | wrote phrase rest completes =>
      exact ⟨fun cause => ⟨nofun, fun panics => absurd panics (completes cause)⟩, nofun,
        translation⟩

/-- What the sequences keep of the control register, whatever it was at first. -/
structure Preserves (registers : SystemRegisters) (requests : List MmuRequest) : Prop where
  history : (registers.operateAll requests).history =
    registers.history ++ registers.log requests
  current : (registers.operateAll requests).control =
    (registers.log requests).lastControl?.getD registers.control
  agrees : ∀ value, .control value ∈ registers.log requests → value.Agrees registers.control
  extended : ∀ earlier later, requests = earlier ++ .init :: later →
    (registers.operateAll requests).control.formatIsExtended = true ∧
      ∀ value, .control value ∈ (registers.operateAll earlier).log (.init :: later) →
        value.formatIsExtended = true
  answers : ∀ request, Answers (registers.operateAll requests) request
    (request.action.effect (registers.operateAll requests))
  cleans : (registers.log requests).CleansAfter registers.control

/-- The control register goes through a run with all bits as they were that no sequence is about;
the extended format is selected for good, translation changes only where it is turned on or off, and
a data cache that is turned off is cleaned. -/
theorem preserves_operateAll (registers : SystemRegisters) (requests : List MmuRequest) :
    Preserves registers requests := by
  have agrees := (forall_log (motive := (·.Agrees registers.control))
    (fun _ _ _ changes before => changes.agrees.trans before) registers (.refl _) requests).2
  have extended : ∀ earlier later, requests = earlier ++ .init :: later →
      (registers.operateAll requests).control.formatIsExtended = true ∧
        ∀ value, .control value ∈ (registers.operateAll earlier).log (.init :: later) →
          value.formatIsExtended = true := by
    rintro earlier later rfl
    rw [operateAll_append]
    exact extended_log_init _ later
  exact
    { history := registers.history_operateAll requests
      current := registers.control_operateAll requests
      agrees := agrees
      extended := extended
      answers := (registers.operateAll requests).answers
      cleans := registers.cleansAfter_log requests }

end SystemRegisters

end Armv6Kernel
