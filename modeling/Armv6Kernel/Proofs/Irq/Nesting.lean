import Armv6Kernel.Proofs.Irq.Masking
import Armv6Kernel.Proofs.Irq.Program

/-!
# Nested guards restore the interrupt mask

In a program every guard is dropped before those made earlier.  Then interrupts are masked exactly
if they were at the start or any guard lives, no other bit of the status ever changes, and without
guards the status is that of the start.  Panics make no difference, as unwinding drops the guards in
the same order.
-/

namespace Armv6Kernel

/-- A guard changes no bit but the interrupt mask. -/
theorem InterruptGuard.getLsbD_acquire (status : Word) {index : Nat} (different : index ≠ 7) :
    (acquire status).2.getLsbD index = status.getLsbD index := by
  unfold acquire
  split
  · have outside : ¬(index < 32 ∧ ProgramStatus.interruptMask.offset ≤ index ∧
        index < ProgramStatus.interruptMask.offset + 1) := by
      rintro ⟨-, above, below⟩
      simp only [ProgramStatus.interruptMask] at above below
      omega
    rw [ProgramStatus.masked, BitField.assign, BitField.getLsbD_put, if_neg outside]
  · rfl

/-! ## Points inside a scope -/

namespace Moment

variable {ι α : Type} {outer middle inner : Moment ι α}

/-- A later point at which the guards of an earlier one still live. -/
structure Inside (outer inner : Moment ι α) : Prop where
  length_le : outer.guards.length ≤ inner.guards.length
  masked_iff : inner.masked = true ↔
    outer.masked = true ∨ outer.guards.length < inner.guards.length
  others : ∀ index, index ≠ 7 →
    inner.core.status.getLsbD index = outer.core.status.getLsbD index
  restored : inner.guards.length = outer.guards.length → inner.core.status = outer.core.status

theorem Inside.of_same (status : inner.core.status = outer.core.status)
    (length : inner.guards.length = outer.guards.length) : outer.Inside inner where
  length_le := Nat.le_of_eq length.symm
  masked_iff := by
    rw [masked, masked, status, length]
    exact ⟨.inl, fun either => either.resolve_right (Nat.lt_irrefl _)⟩
  others index _ := by rw [status]
  restored _ := status

theorem Inside.of_made (status : inner.core.status = (InterruptGuard.acquire outer.core.status).2)
    (length : inner.guards.length = outer.guards.length + 1) : outer.Inside inner where
  length_le := by omega
  masked_iff := by
    have now : inner.masked = true := by
      rw [masked, status]
      exact InterruptGuard.test_acquire _
    exact ⟨fun _ => .inr (by omega), fun _ => now⟩
  others index different := by rw [status, InterruptGuard.getLsbD_acquire _ different]
  restored same := by omega

theorem Inside.trans (first : outer.Inside middle) (second : middle.Inside inner) :
    outer.Inside inner where
  length_le := Nat.le_trans first.length_le second.length_le
  masked_iff := by
    have below := first.length_le
    have above := second.length_le
    rw [second.masked_iff, first.masked_iff, or_assoc]
    refine or_congr_right ?_
    omega
  others index different :=
    (second.others index different).trans (first.others index different)
  restored same := by
    have below := first.length_le
    have above := second.length_le
    exact (second.restored (by omega)).trans (first.restored (by omega))

end Moment

namespace GuardRun

variable {ι α : Type} [DecidableEq ι] {run : GuardRun ι α} {opening closing : GuardEvent ι α}
  {drop : Core ι α → Core ι α} {body : GuardTrace ι α} {moment : Moment ι α}

theorem mem_moments_append {earlier later : List (GuardEvent ι α)}
    (member : moment ∈ run.moments (earlier ++ later)) :
    moment ∈ run.moments earlier ∨ moment ∈ (run.stepAll earlier).moments later := by
  induction earlier generalizing run with
  | nil => exact .inr member
  | cons event rest ih =>
      rw [List.cons_append, moments, List.mem_append] at member
      rw [moments, List.mem_append, or_assoc]
      exact member.imp_right ih

omit [DecidableEq ι] in
theorem Settles.inside {after : GuardRun ι α} (settles : run.Settles after) :
    run.moment.Inside after.moment :=
  .of_same settles.status (congrArg List.length settles.guards_eq)

/-- All points of an event are inside the point at which it begins. -/
theorem inside_of_mem_points {event : GuardEvent ι α} (member : moment ∈ run.points event) :
    run.moment.Inside moment := by
  rcases mem_points member with rfl | rfl | ⟨guard, -, rfl, -⟩
  · exact .of_same rfl rfl
  · exact .of_made rfl rfl
  · exact .of_same rfl rfl

theorem inside_mask (run : GuardRun ι α) : run.moment.Inside (run.step .mask).moment := by
  have added := perm_filterMap_concat run.session.interruptGuards
    (InterruptGuard.acquire run.core.status).1
  exact .of_made rfl (added.append_right _).length_eq

theorem inside_lock {name : ι} (free : run.core.isLocked name = false) :
    run.moment.Inside (run.step (.lock name)).moment := by
  have added := perm_filterMap_concat run.session.lockGuards (run.core.nextGuard name)
  rw [step_lock, free]
  exact .of_made rfl (perm_guards_cons (added.append_right run.bodies)).length_eq

theorem inside_enter {name : ι} (free : run.core.isLocked name = false) :
    run.moment.Inside (run.step (.enter name)).moment := by
  have added : (run.session.lockGuards.filterMap id ++ run.core.nextGuard name :: run.bodies).Perm
      (run.core.nextGuard name :: run.lockGuards) := List.perm_middle
  rw [step_enter, free]
  exact .of_made rfl (perm_guards_cons added).length_eq

/-- All points of a scope are inside the point at which it begins. -/
theorem Brackets.inside (brackets : run.Brackets opening closing drop)
    (opens : run.moment.Inside (run.step opening).moment)
    (settles : (run.step opening).Settles ((run.step opening).stepAll body.events))
    (inner : ∀ moment ∈ (run.step opening).moments body.events,
      (run.step opening).moment.Inside moment) :
    ∀ moment ∈ run.moments (body.within opening closing).events, run.moment.Inside moment := by
  intro moment member
  have ends := (brackets.settles settles).inside
  -- The points are those of the opening, those of the body, and those of the closing.
  rw [GuardTrace.within, List.cons_append, moments, List.mem_append] at member
  rcases member with member | member
  · exact inside_of_mem_points member
  · rcases mem_moments_append member with member | member
    · exact opens.trans (inner moment member)
    · rw [moments, moments, List.mem_append, List.mem_singleton] at member
      rcases member with member | rfl
      · exact (opens.trans settles.inside).trans (inside_of_mem_points member)
      · exact ends

/-- An attempt to take a lock that is held changes nothing. -/
theorem inside_refused {attempt : GuardEvent ι α} (stays : run.stepAll [attempt] = run) :
    ∀ moment ∈ run.moments [attempt], run.moment.Inside moment := by
  intro moment member
  have final : (run.step attempt).moment = run.moment := congrArg GuardRun.moment stays
  rw [moments, moments, final, List.mem_append, List.mem_singleton] at member
  rcases member with member | rfl
  · exact inside_of_mem_points member
  · exact .of_same rfl rfl

end GuardRun

/-! ## Programs -/

namespace GuardProgram

variable {ι α : Type} [DecidableEq ι]

open GuardRun

/-- What follows a part of a program is inside the point at which the part begins. -/
theorem inside_after {run : GuardRun ι α} {earlier : List (GuardEvent ι α)}
    {later : GuardTrace ι α}
    (first : ∀ moment ∈ run.moments earlier, run.moment.Inside moment)
    (settles : run.Settles (run.stepAll earlier))
    (second : ∀ moment ∈ (run.stepAll earlier).moments later.events,
      (run.stepAll earlier).moment.Inside moment) :
    ∀ moment ∈ run.moments (later.after earlier).events, run.moment.Inside moment := by
  intro moment member
  rcases mem_moments_append member with member | member
  · exact first moment member
  · exact settles.inside.trans (second moment member)

theorem inside_nil (run : GuardRun ι α) :
    ∀ moment ∈ run.moments [], run.moment.Inside moment := by
  intro moment member
  cases List.mem_singleton.mp member
  exact .of_same rfl rfl

/-- All points of a program are inside the point at which it begins. -/
theorem inside_trace (program : GuardProgram ι α) (run : GuardRun ι α) :
    ∀ moment ∈ run.moments (program.trace run).events, run.moment.Inside moment := by
  induction program generalizing run with
  | done => exact inside_nil run
  | panic cause => exact inside_nil run
  | observe next ih => exact ih run.core run
  | write name change =>
      have settles := settles_trace (.write name change) run
      intro moment member
      rw [trace, moments, moments, List.mem_append, List.mem_singleton] at member
      rcases member with member | rfl
      · exact inside_of_mem_points member
      · exact settles.inside
  | mask body ih =>
      rw [trace]
      exact (brackets_mask run).inside run.inside_mask (body.settles_trace _) (ih _)
  | lock name body ih =>
      rw [trace]
      cases held : run.core.isLocked name with
      | true =>
          rw [if_pos rfl]
          exact inside_refused (stepAll_refused held).1
      | false =>
          rw [if_neg Bool.false_ne_true]
          exact (brackets_lock held).inside (inside_lock held) (body.settles_trace _) (ih _)
  | tryLock name taken refused takenIH refusedIH =>
      rw [trace]
      cases held : run.core.isLocked name with
      | true =>
          have stays := (stepAll_refused held).2.1
          rw [if_pos rfl]
          apply inside_after (inside_refused stays)
          · rw [stays]
            exact .refl run
          · rw [stays]
            exact refusedIH run
      | false =>
          have opens : run.moment.Inside (run.step (.tryLock name)).moment := by
            rw [step_tryLock]
            exact inside_lock held
          rw [if_neg Bool.false_ne_true]
          exact (brackets_tryLock held).inside opens (taken.settles_trace _) (takenIH _)
  | withLock name body ih =>
      rw [trace]
      cases held : run.core.isLocked name with
      | true =>
          rw [if_pos rfl]
          exact inside_refused (stepAll_refused held).2.2
      | false =>
          rw [if_neg Bool.false_ne_true]
          exact (brackets_enter held).inside (inside_enter held) (body.settles_trace _) (ih _)
  | andThen first later firstIH laterIH =>
      rw [trace]
      split
      · exact inside_after (firstIH run) (first.settles_trace run) (laterIH _)
      · exact firstIH run
  | recover body handler bodyIH handlerIH =>
      rw [trace]
      split
      · exact inside_after (bodyIH run) (body.settles_trace run) (handlerIH _ _)
      · exact bodyIH run

end GuardProgram

/-- Interrupts are masked exactly if they were at the start or a guard lives, no other bit of the
status has changed, and without guards the status is that of the start and all locks are free. -/
structure Moment.Nests {ι α : Type} (status : Word) (moment : Moment ι α) : Prop where
  masked_iff : moment.masked = true ↔
    ProgramStatus.interruptMask.test status = true ∨ moment.guards ≠ []
  others : ∀ index, index ≠ 7 → moment.core.status.getLsbD index = status.getLsbD index
  restored : moment.guards = [] →
    moment.core.status = status ∧ ∀ name, moment.core.isLocked name = false

namespace GuardProgram

variable {ι α : Type} [DecidableEq ι]

/-- What a program does to the interrupt mask and to the locks, from free locks on. -/
structure Restores (program : GuardProgram ι α) (start : GuardRun ι α) : Prop where
  /-- The program ends as its trace does. -/
  performs : program.perform.effect start.core =
    ((program.trace start).outcome, (start.stepAll (program.trace start).events).core)
  points : ∀ moment ∈ start.moments (program.trace start).events, moment.Nests start.core.status
  /-- However the program ends, no guard is left. -/
  ends : (start.stepAll (program.trace start).events).moment.guards = [] ∧
    (program.perform.run start.core).state.status = start.core.status ∧
    ∀ name, (program.perform.run start.core).state.isLocked name = false
  /-- An attempt to take a lock that is held changes nothing. -/
  refused : ∀ (core : Core ι α) (name : ι), core.isLocked name = true →
    (Core.tryLock name : Action _ Empty _).effect core = (.value none, core) ∧
      (Core.acquire name : Action _ Empty _).effect core = (.panic .lockReentered, core)

/-- Every program restores the interrupt mask, whatever it was at the start. -/
theorem restores_start (status : Word) (value : ι → α) (program : GuardProgram ι α) :
    program.Restores (.start status value) := by
  have owned : (GuardRun.start status value).Owned := GuardRun.owned_start status value
  have settles := program.settles_trace (.start status value)
  have performs := program.effect_perform owned
  have final : (program.perform.run (GuardRun.start status value).core).state =
      ((GuardRun.start status value).stepAll (program.trace (.start status value)).events).core :=
    congrArg Prod.snd performs
  have empty : (GuardRun.start status value).moment.guards = [] := rfl
  refine ⟨performs, ?_, ⟨settles.guards_eq, ?_, ?_⟩, ?_⟩
  · intro moment member
    have inside := program.inside_trace _ moment member
    have living : moment.guards ≠ [] ↔ 0 < moment.guards.length := List.length_pos_iff.symm
    constructor
    · rw [living]
      exact inside.masked_iff
    · exact inside.others
    · intro none
      have free := owned.free_of_guards_eq_nil _ moment member none
      exact ⟨inside.restored (congrArg List.length none), free⟩
  · rw [final]
    exact settles.status
  · intro name
    rw [final]
    exact (owned.stepAll _).free_of_nil settles.guards_eq name
  · intro core name held
    rw [Core.effect_tryLock, Core.effect_acquire, held]
    exact ⟨rfl, rfl⟩

/-- A lock is taken once more inside a body, and the panic unwinds through two guards. -/
example :
    let program : GuardProgram Unit Nat :=
      .recover (.withLock () (.mask (.lock () .done))) fun _ => .done
    (program.trace (.start 0 fun _ => 0)).events =
      [.enter (), .mask, .lock (), .unmask 0, .leave] := by
  cbv

end GuardProgram

end Armv6Kernel
