import Mathlib.Data.List.Induction
import Armv6Kernel.Proofs.Mmu.Control

/-!
# The order of register writes

A log lists what was done to the registers, oldest first.  The rules say what must stand before and
after the writes that select an address space or turn translation on.  A log that keeps them empties
the translation buffer between any two periods of translation, after the last selection of an
address space.
-/

namespace Armv6Kernel

/-- What was done to the registers since translation was off. -/
abbrev RegisterLog :=
  List RegisterEvent

namespace RegisterEvent

def control? : RegisterEvent → Option SystemControl
  | control value => some value
  | _ => none

/-- The event selects an address space or the rights in it. -/
def selects : RegisterEvent → Bool
  | domainAccess _ => true
  | tableBase _ => true
  | contextId _ => true
  | _ => false

/-- The event takes effect only with the next barrier. -/
def needsBarrier : RegisterEvent → Bool
  | control _ => true
  | tableBase _ => true
  | contextId _ => true
  | _ => false

end RegisterEvent

namespace RegisterLog

/-- The last value that was written to the control register. -/
def lastControl? (log : RegisterLog) : Option SystemControl :=
  log.reverse.findSome? RegisterEvent.control?

/-- Whether translation is on after a log. -/
def translating (log : RegisterLog) : Bool :=
  log.lastControl?.any SystemControl.mmuIsOn

/-- The control register has been written, and left translation off. -/
def SwitchedOff (log : RegisterLog) : Prop :=
  ∃ control, log.lastControl? = some control ∧ control.mmuIsOn = false

/-- The last context that was written is the reserved one, and a barrier has completed the write. -/
def Parked (log : RegisterLog) : Prop :=
  ∃ earlier later, log = earlier ++ .contextId .reserved :: later ∧ .barrier ∈ later ∧
    ∀ context, .contextId context ∉ later

/-- The rules for an event, given what stands before and after it. -/
structure Obeys (before : RegisterLog) (event : RegisterEvent) (after : RegisterLog) : Prop where
  off : event.selects = true → before.SwitchedOff
  parked : ∀ table, event = .tableBase table → before.Parked
  emptied : ∀ control, event = .control control → control.mmuIsOn = true →
    before.translating = false → [.invalidateTlb, .barrier] <:+ before
  completed : event.needsBarrier = true → [.barrier] <+: after

/-- The rules hold at every position. -/
def Disciplined (log : RegisterLog) : Prop :=
  ∀ before event after, log = before ++ event :: after → Obeys before event after

/-- What lies between two moments at which translation is on: either translation was off in between
and, at a moment when it was, the translation buffer was emptied, after which nothing was selected
any more; or translation was on all the time and nothing was selected. -/
inductive Separates (first between : RegisterLog) : Prop
  | emptied {pause fresh : RegisterLog} (split : between = pause ++ .invalidateTlb :: fresh)
      (off : (first ++ pause : RegisterLog).translating = false)
      (unselected : ∀ event ∈ fresh, event.selects = false)
  | steady (on : ∀ part, part <+: between → (first ++ part : RegisterLog).translating = true)
      (unselected : ∀ event ∈ between, event.selects = false)

variable {log before after first between phrase : RegisterLog} {event : RegisterEvent}

/-! ## The control register in a log -/

theorem lastControl?_append (log phrase : RegisterLog) :
    (log ++ phrase : RegisterLog).lastControl? = phrase.lastControl?.or log.lastControl? := by
  rw [lastControl?, List.reverse_append, List.findSome?_append]
  rfl

theorem translating_append (quiet : phrase.lastControl? = none) :
    (log ++ phrase : RegisterLog).translating = log.translating := by
  rw [translating, lastControl?_append, quiet, Option.none_or, translating]

theorem SwitchedOff.append (off : log.SwitchedOff) (quiet : phrase.lastControl? = none) :
    (log ++ phrase : RegisterLog).SwitchedOff := by
  rw [SwitchedOff, lastControl?_append, quiet, Option.none_or]
  exact off

theorem SwitchedOff.translating_eq (off : log.SwitchedOff) : log.translating = false := by
  obtain ⟨control, last, power⟩ := off
  rw [translating, last]
  exact power

/-- Only a write of the control register turns translation on. -/
theorem control_of_translating (off : log.translating = false)
    (on : (log ++ [event] : RegisterLog).translating = true) :
    ∃ control, event = .control control ∧ control.mmuIsOn = true := by
  cases event with
  | control control => exact ⟨control, rfl, by rwa [translating, lastControl?_append] at on⟩
  | _ =>
      rw [translating_append rfl, off] at on
      cases on

/-! ## Separation -/

/-- The buffer is emptied right before an event that turns translation on.  If translation was on
once before, then that was earlier still. -/
theorem Obeys.emptied_between {control : SystemControl}
    (obeys : Obeys (first ++ between) (.control control) after) (turnsOn : control.mmuIsOn = true)
    (on : first.translating = true)
    (power : (first ++ between : RegisterLog).translating = false) :
    ∃ pause : RegisterLog, between = pause ++ [.invalidateTlb, .barrier] ∧
      (first ++ pause : RegisterLog).translating = false := by
  obtain ⟨earlier, emptied⟩ := obeys.emptied control rfl turnsOn power
  have quiet : lastControl? [.invalidateTlb, .barrier] = none := rfl
  rcases List.append_eq_append_iff.mp emptied with ⟨rest, isFirst, isLast⟩ | ⟨pause, rfl, split⟩
  · -- The two events would have to overlap the period of translation.
    have quietBetween : between.lastControl? = none := by
      rw [isLast, lastControl?_append] at quiet
      exact (Option.or_eq_none_iff.mp quiet).1
    rw [translating_append quietBetween, on] at power
    cases power
  · refine ⟨pause, split, ?_⟩
    rw [← emptied, translating_append quiet] at power
    exact power

/-- An event that selects nothing and leaves translation on separates no less. -/
theorem Separates.append (separates : Separates first between)
    (stillOn : ((first ++ between) ++ [event] : RegisterLog).translating = true)
    (unselecting : event.selects = false) : Separates first (between ++ [event]) := by
  cases separates with
  | @emptied pause fresh emptied off unselected =>
      have later : between ++ [event] = pause ++ .invalidateTlb :: (fresh ++ [event]) := by
        rw [emptied, List.append_assoc]
        rfl
      exact .emptied later off (List.forall_mem_append.mpr
        ⟨unselected, List.forall_mem_singleton.mpr unselecting⟩)
  | steady on unselected =>
      refine .steady (fun part short => ?_) ?_
      · rcases List.prefix_concat_iff.mp short with rfl | shorter
        · rw [← List.append_assoc]
          exact stillOn
        · exact on part shorter
      · exact List.forall_mem_append.mpr
          ⟨unselected, List.forall_mem_singleton.mpr unselecting⟩

/-- In a log that keeps the rules, no period of translation follows another without an emptied
buffer in between. -/
theorem Disciplined.separates (disciplined : log.Disciplined) (inside : first ++ between <+: log)
    (on : first.translating = true)
    (stillOn : (first ++ between : RegisterLog).translating = true) :
    Separates first between := by
  induction between using List.reverseRecOn with
  | nil =>
      refine .steady (fun part short => ?_) fun event impossible => ?_
      · rw [List.prefix_nil.mp short]
        exact stillOn
      · exact absurd impossible List.not_mem_nil
  | append_singleton between event ih =>
      rw [← List.append_assoc] at inside stillOn
      have earlier : first ++ between <+: log := (List.prefix_append _ _).trans inside
      obtain ⟨rest, split⟩ := inside
      have obeys : Obeys (first ++ between) event rest := by
        apply disciplined
        rw [← split, List.append_assoc]
        rfl
      cases power : (first ++ between : RegisterLog).translating with
      | false =>
          obtain ⟨control, rfl, turnsOn⟩ := control_of_translating power stillOn
          obtain ⟨pause, emptied, off⟩ := obeys.emptied_between turnsOn on power
          have later : between ++ [.control control] =
              pause ++ .invalidateTlb :: [.barrier, .control control] := by
            rw [emptied, List.append_assoc]
            rfl
          exact .emptied later off (by simp [RegisterEvent.selects])
      | true =>
          have unselecting : event.selects = false := by
            cases selects : event.selects with
            | false => rfl
            | true =>
                rw [(obeys.off selects).translating_eq] at power
                cases power
          exact (ih earlier power).append stillOn unselecting

/-! ## Writing by the rules -/

/-- Events that continue a log keep the rules. -/
def Follows (log : RegisterLog) : RegisterLog → Prop
  | [] => True
  | event :: later => Obeys log event later ∧ Follows (log ++ [event]) later

theorem Obeys.of_quiet (unselecting : event.selects = false)
    (complete : event.needsBarrier = false) : Obeys before event after := by
  constructor
  · intro selects
    rw [unselecting] at selects
    cases selects
  · rintro table rfl
    cases complete
  · rintro control rfl
    cases complete
  · intro needsBarrier
    rw [complete] at needsBarrier
    cases needsBarrier

theorem Obeys.of_control {control : SystemControl}
    (emptied : control.mmuIsOn = true → before.translating = false →
      [.invalidateTlb, .barrier] <:+ before) :
    Obeys before (.control control) (.barrier :: after) := by
  refine ⟨nofun, nofun, ?_, fun _ => List.prefix_append [.barrier] after⟩
  rintro other ⟨⟩
  exact emptied

theorem Obeys.of_domainAccess {access : DomainAccessControl} (off : before.SwitchedOff) :
    Obeys before (.domainAccess access) after :=
  ⟨fun _ => off, nofun, nofun, nofun⟩

theorem Obeys.of_contextId {context : ContextId} (off : before.SwitchedOff) :
    Obeys before (.contextId context) (.barrier :: after) :=
  ⟨fun _ => off, nofun, nofun, fun _ => List.prefix_append [.barrier] after⟩

theorem Obeys.of_tableBase {table : TranslationTableBase} (off : before.SwitchedOff)
    (parked : before.Parked) : Obeys before (.tableBase table) (.barrier :: after) :=
  ⟨fun _ => off, fun _ _ => parked, nofun, fun _ => List.prefix_append [.barrier] after⟩

theorem Follows.obeys (follows : Follows log phrase) (split : phrase = before ++ event :: after) :
    Obeys (log ++ before) event after := by
  induction before generalizing log phrase with
  | nil =>
      subst split
      rw [List.append_nil]
      exact follows.1
  | cons first rest ih =>
      subst split
      rw [List.append_cons]
      exact ih follows.2 rfl

theorem Obeys.append (obeys : Obeys before event after) (phrase : RegisterLog) :
    Obeys before event (after ++ phrase) :=
  ⟨obeys.off, obeys.parked, obeys.emptied,
    fun needsBarrier => (obeys.completed needsBarrier).trans (List.prefix_append _ _)⟩

theorem Disciplined.append (disciplined : log.Disciplined) (follows : Follows log phrase) :
    (log ++ phrase : RegisterLog).Disciplined := by
  intro before event after split
  rcases List.append_eq_append_iff.mp split with ⟨rest, rfl, inside⟩ | ⟨rest, inside, isLast⟩
  · exact follows.obeys inside
  · rcases rest with _ | ⟨first, rest⟩
    · rw [List.append_nil] at inside
      subst inside
      have whole : phrase = [] ++ event :: after := isLast.symm
      have obeys := follows.obeys whole
      rw [List.append_nil] at obeys
      exact obeys
    · cases isLast
      exact (disciplined before event rest inside).append phrase

/-! ## The sequences -/

/-- After what stood in their history, the registers have recorded a log that keeps the rules. -/
structure Recorded (registers : SystemRegisters) (past log : RegisterLog) : Prop where
  history : registers.history = past ++ log
  control : log.lastControl? = some registers.control
  disciplined : log.Disciplined

variable {registers final : SystemRegisters} {past : RegisterLog}

theorem Recorded.extend (recorded : Recorded registers past log)
    (history : final.history = registers.history ++ phrase)
    (control : (log ++ phrase : RegisterLog).lastControl? = some final.control)
    (follows : Follows log phrase) : Recorded final past (log ++ phrase) := by
  refine ⟨?_, control, recorded.disciplined.append follows⟩
  rw [history, recorded.history, List.append_assoc]

theorem recorded_initialized (registers : SystemRegisters) :
    ∃ log, Recorded registers.initialized registers.history log := by
  have follows : Follows [] [.cleanInvalidateDataCache, .invalidateInstructionCache,
      .flushBranchTargets, .invalidateTlb, .barrier,
      .control (registers.control.withExtendedPageTables true), .barrier] := by
    refine ⟨.of_quiet rfl rfl, .of_quiet rfl rfl, .of_quiet rfl rfl, .of_quiet rfl rfl,
      .of_quiet rfl rfl, .of_control fun _ _ => ?_, .of_quiet rfl rfl, trivial⟩
    exact ⟨[.cleanInvalidateDataCache, .invalidateInstructionCache, .flushBranchTargets], rfl⟩
  have nothing : Disciplined [] := by
    intro before event after split
    exact absurd split.symm (List.append_ne_nil_of_right_ne_nil _ (List.cons_ne_nil _ _))
  exact ⟨_, by simp [SystemRegisters.initialized], rfl, nothing.append follows⟩

theorem Recorded.enabled (recorded : Recorded registers past log) :
    ∃ longer, Recorded registers.enabled past longer := by
  have follows : Follows log [.invalidateTlb, .barrier,
      .control (registers.control.withMmu true), .barrier] := by
    refine ⟨.of_quiet rfl rfl, .of_quiet rfl rfl, .of_control fun _ _ => ?_, .of_quiet rfl rfl,
      trivial⟩
    exact ⟨log, by rw [List.append_assoc]; rfl⟩
  exact ⟨_, recorded.extend (by simp [SystemRegisters.enabled]) (lastControl?_append _ _) follows⟩

theorem Recorded.disabled (recorded : Recorded registers past log) :
    ∃ longer, Recorded registers.disabled past longer := by
  have off : ((registers.control.withMmu false).withDataCache false).mmuIsOn = false := by simp
  have follows : Follows log [
      .control ((registers.control.withMmu false).withDataCache false), .barrier,
      .cleanInvalidateDataCache, .invalidateInstructionCache, .invalidateTlb, .barrier] := by
    refine ⟨.of_control fun on => ?_, .of_quiet rfl rfl, .of_quiet rfl rfl, .of_quiet rfl rfl,
      .of_quiet rfl rfl, .of_quiet rfl rfl, trivial⟩
    rw [off] at on
    cases on
  exact ⟨_, recorded.extend (by simp [SystemRegisters.disabled]) (lastControl?_append _ _) follows⟩

/-- A write that keeps translation as it is needs no emptied buffer. -/
theorem Recorded.obeys_control (recorded : Recorded registers past log) {control : SystemControl}
    (same : control.mmuIsOn = registers.control.mmuIsOn) :
    Obeys log (.control control) (.barrier :: after) := by
  apply Obeys.of_control
  intro on off
  rw [translating, recorded.control] at off
  rw [same] at on
  exact absurd (off.symm.trans on) Bool.false_ne_true

theorem Recorded.withCachesOn (recorded : Recorded registers past log) :
    ∃ longer, Recorded registers.withCachesOn past longer := by
  have follows : Follows log [.control (registers.control.withAllCaches true), .barrier] :=
    ⟨recorded.obeys_control (SystemControl.mmuIsOn_withAllCaches _ _), .of_quiet rfl rfl, trivial⟩
  exact ⟨_, recorded.extend (by simp [SystemRegisters.withCachesOn]) (lastControl?_append _ _)
    follows⟩

theorem Recorded.withCachesOff (recorded : Recorded registers past log) :
    ∃ longer, Recorded registers.withCachesOff past longer := by
  have follows : Follows log [.control (registers.control.withAllCaches false), .barrier,
      .cleanInvalidateDataCache, .invalidateInstructionCache, .barrier] :=
    ⟨recorded.obeys_control (SystemControl.mmuIsOn_withAllCaches _ _), .of_quiet rfl rfl,
      .of_quiet rfl rfl, .of_quiet rfl rfl, .of_quiet rfl rfl, trivial⟩
  exact ⟨_, recorded.extend (by simp [SystemRegisters.withCachesOff]) (lastControl?_append _ _)
    follows⟩

theorem Recorded.synced (recorded : Recorded registers past log) :
    ∃ longer, Recorded registers.synced past longer := by
  have follows : Follows log [.cleanInvalidateDataCache, .barrier] :=
    ⟨.of_quiet rfl rfl, .of_quiet rfl rfl, trivial⟩
  refine ⟨_, recorded.extend (by simp [SystemRegisters.synced]) ?_ follows⟩
  rw [lastControl?_append, recorded.control]
  rfl

/-- The reserved context stands in the register while the table is changed. -/
theorem Recorded.installed (recorded : Recorded registers past log)
    (off : registers.control.mmuIsOn = false) (access : DomainAccessControl)
    (table : TranslationTableBase) (context : ContextId) :
    ∃ longer, Recorded (registers.installed access table context) past longer := by
  have switchedOff : log.SwitchedOff := ⟨_, recorded.control, off⟩
  have follows : Follows log [.domainAccess access, .contextId .reserved, .barrier,
      .tableBase table, .barrier, .contextId context, .barrier] := by
    refine ⟨.of_domainAccess switchedOff, .of_contextId (switchedOff.append rfl),
      .of_quiet rfl rfl, .of_tableBase ?_ ?_, .of_quiet rfl rfl, .of_contextId ?_,
      .of_quiet rfl rfl, trivial⟩
    · exact ((switchedOff.append rfl).append rfl).append rfl
    · exact ⟨log ++ [.domainAccess access], [.barrier], by simp, by simp, by simp⟩
    · exact ((((switchedOff.append rfl).append rfl).append rfl).append rfl).append rfl
  refine ⟨_, recorded.extend (by simp [SystemRegisters.installed]) ?_ follows⟩
  rw [lastControl?_append, recorded.control]
  rfl

end RegisterLog

end Armv6Kernel
