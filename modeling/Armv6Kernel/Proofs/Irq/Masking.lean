import Armv6Kernel.Proofs.Irq.Guards

/-!
# When interrupts are masked

A guard remembers only whether it was the one that masked interrupts.  If interrupts are not masked
at the start, at most one living guard did, and interrupts stay masked for as long as that guard
lives: a lock taken under a guard that is dropped first is held with interrupts enabled.
-/

namespace Armv6Kernel

namespace InterruptGuard

theorem test_acquire (status : Word) :
    ProgramStatus.interruptMask.test (acquire status).2 = true := by
  unfold acquire ProgramStatus.interruptsEnabled
  cases clear : ProgramStatus.interruptMask.test status with
  | true => exact clear
  | false => exact BitField.test_assign _ (by decide) _ _

theorem restores_acquire (status : Word) :
    (acquire status).1.restores = !ProgramStatus.interruptMask.test status := by
  unfold acquire ProgramStatus.interruptsEnabled
  cases ProgramStatus.interruptMask.test status <;> rfl

theorem test_drop_of_restores {irq : InterruptGuard} (restores : irq.restores = true)
    (status : Word) : ProgramStatus.interruptMask.test (irq.drop status) = false := by
  rw [drop, restores]
  exact BitField.test_assign _ (by decide) _ _

theorem drop_of_not_restores {irq : InterruptGuard} (idle : irq.restores = false)
    (status : Word) : irq.drop status = status := by
  rw [drop, idle]
  rfl

end InterruptGuard

namespace Moment

variable {ι α : Type} {before after : Moment ι α} {status : Word}

def masked (moment : Moment ι α) : Bool :=
  ProgramStatus.interruptMask.test moment.core.status

/-- How many of the living guards are to unmask interrupts. -/
def restoring (moment : Moment ι α) : Nat :=
  moment.guards.countP InterruptGuard.restores

/-- The mask is what it was at the start, plus the guards that are to clear it. -/
def Balanced (status : Word) (moment : Moment ι α) : Prop :=
  moment.restoring + (ProgramStatus.interruptMask.test status).toNat = moment.masked.toNat

/-- Interrupts are masked exactly if they were at the start or the guard that masked them lives, and
there is at most one such guard. -/
structure Faithful (status : Word) (moment : Moment ι α) : Prop where
  masked_iff : moment.masked = true ↔
    ProgramStatus.interruptMask.test status = true ∨ ∃ irq ∈ moment.guards, irq.restores = true
  single : moment.restoring ≤ 1

theorem Balanced.faithful (balanced : before.Balanced status) : before.Faithful status := by
  unfold Balanced at balanced
  have positive : 0 < before.restoring ↔ ∃ irq ∈ before.guards, irq.restores = true :=
    List.countP_pos_iff
  refine ⟨?_, ?_⟩
  · rw [← positive, ← Bool.toNat_eq_one, ← Bool.toNat_eq_one]
    have one := Bool.toNat_le before.masked
    omega
  · have one := Bool.toNat_le before.masked
    omega

/-- A guard masks interrupts and is to unmask them exactly if they were not masked before it was
made. -/
theorem Balanced.made (balanced : before.Balanced status)
    (masks : after.core.status = (InterruptGuard.acquire before.core.status).2)
    (guards : after.guards.Perm
      ((InterruptGuard.acquire before.core.status).1 :: before.guards)) :
    after.Balanced status := by
  have now : after.masked = true := by
    rw [masked, masks]
    exact InterruptGuard.test_acquire _
  have count : after.restoring = before.restoring + (!before.masked).toNat := by
    rw [restoring, guards.countP_eq, List.countP_cons, InterruptGuard.restores_acquire]
    unfold restoring masked
    cases ProgramStatus.interruptMask.test before.core.status <;> rfl
  have flips : before.masked.toNat + (!before.masked).toNat = 1 := by
    cases before.masked <;> rfl
  unfold Balanced at balanced ⊢
  rw [now, count, Bool.toNat_true]
  omega

/-- A guard that unmasks interrupts was the only one that was to, and they were not masked at the
start. -/
theorem Balanced.dropped {irq : InterruptGuard} (balanced : before.Balanced status)
    (drops : after.core.status = irq.drop before.core.status)
    (guards : before.guards.Perm (irq :: after.guards)) : after.Balanced status := by
  have count : before.restoring = after.restoring + irq.restores.toNat := by
    rw [restoring, guards.countP_eq, List.countP_cons]
    unfold restoring
    cases irq.restores <;> rfl
  unfold Balanced at balanced ⊢
  cases restores : irq.restores with
  | true =>
      have now : after.masked = false := by
        rw [masked, drops]
        exact InterruptGuard.test_drop_of_restores restores _
      have one := Bool.toNat_le before.masked
      rw [count, restores, Bool.toNat_true] at balanced
      rw [now, Bool.toNat_false]
      omega
  | false =>
      have now : after.masked = before.masked := by
        rw [masked, drops, InterruptGuard.drop_of_not_restores restores, masked]
      rw [count, restores, Bool.toNat_false] at balanced
      rw [now]
      exact balanced

theorem Balanced.moves (balanced : before.Balanced status) (moves : before.Moves after) :
    after.Balanced status := by
  cases moves with
  | made masks guards => exact balanced.made masks guards
  | dropped drops guards => exact balanced.dropped drops guards
  | kept same guards =>
      unfold Balanced masked restoring at balanced ⊢
      rw [same, guards.countP_eq]
      exact balanced

end Moment

namespace GuardRun

variable {ι α : Type} [DecidableEq ι]

omit [DecidableEq ι] in
theorem balanced_start (status : Word) (value : ι → α) :
    (start status value).moment.Balanced status :=
  Nat.zero_add _

/-- What one point of a run has, all later points have. -/
theorem balanced_moments {status : Word} {run : GuardRun ι α}
    (balanced : run.moment.Balanced status) (events : List (GuardEvent ι α)) :
    ∀ moment ∈ run.moments events, moment.Balanced status := by
  obtain ⟨later, same⟩ := run.moments_eq_cons events
  have chain := run.isChain_moments events
  rw [same] at chain ⊢
  intro moment member
  exact chain.induction _ _ (fun _ _ moves balanced => balanced.moves moves)
    (fun _ => balanced) moment member

/-- At every point of every run, guards being dropped in any order, interrupts are masked exactly if
they were at the start or the one guard that masked them lives.  So unless they were, a lock is held
with interrupts enabled from the moment that guard is dropped. -/
theorem faithful_moments (status : Word) (value : ι → α) (events : List (GuardEvent ι α)) :
    ∀ moment ∈ (start status value).moments events, moment.Faithful status :=
  fun moment member =>
    (balanced_moments (balanced_start status value) events moment member).faithful

/-- A lock is taken under a guard, and the guard is dropped first: the lock is held with interrupts
enabled. -/
theorem faithful_moments_guardDroppedFirst :
    ∃ moment ∈ (start 0 fun _ : Unit => 0).moments [.mask, .lock (), .unmask 0],
      moment.core.isLocked () = true ∧ moment.masked = false ∧
        ¬∃ irq ∈ moment.guards, irq.restores = true := by
  have member := (start 0 fun _ : Unit => 0).moment_stepAll_mem [.mask, .lock (), .unmask 0]
  have faithful := faithful_moments 0 (fun _ : Unit => 0) [.mask, .lock (), .unmask 0] _ member
  have enabled : ((start 0 fun _ : Unit => 0).stepAll
      [.mask, .lock (), .unmask 0]).moment.masked = false := by
    decide +kernel
  refine ⟨_, member, by decide +kernel, enabled, ?_⟩
  intro restoring
  have masked := faithful.masked_iff.mpr (.inr restoring)
  rw [enabled] at masked
  cases masked

end GuardRun

end Armv6Kernel
