import Armv6Kernel.Proofs.Irq.Guards

/-!
# Locks and their guards

A lock is held exactly while a guard of it lives, and it has at most one.  So when no guard is left,
all locks are free.
-/

namespace Armv6Kernel

/-! ## Locks of a core -/

namespace Core

variable {ι α : Type} [DecidableEq ι] {core after : Core ι α} {name : ι}
  {guards rest : List (LockGuard ι)} {guard : LockGuard ι}

theorem value_setValue_self (core : Core ι α) (name : ι) (value : α) :
    (core.setValue name value).value name = value := by
  simp only [Core.value, setValue, setLock, if_true]

theorem isLocked_setValue (core : Core ι α) (name other : ι) (value : α) :
    (core.setValue name value).isLocked other = core.isLocked other := by
  simp only [isLocked, setValue, setLock]
  split
  · next same => rw [same]
  · rfl

theorem lock_setValue_of_ne (core : Core ι α) {name other : ι} (different : other ≠ name)
    (value : α) : (core.setValue name value).lock other = core.lock other := by
  simp only [setValue, setLock, if_neg different]

theorem value_taken (core : Core ι α) (name : ι) :
    (core.taken name).value name = core.value name := by
  simp only [Core.value, taken, setLock, if_true]

theorem isLocked_taken (core : Core ι α) (name other : ι) :
    (core.taken name).isLocked other = true ↔ other = name ∨ core.isLocked other = true := by
  simp only [isLocked, taken, setLock]
  split
  · next same => simp only [same, true_or]
  · next different =>
      simp only [different, false_or]
      rfl

theorem isLocked_dropLockGuard (core : Core ι α) (guard : LockGuard ι) (other : ι) :
    (core.dropLockGuard guard).isLocked other = true ↔
      other ≠ guard.name ∧ core.isLocked other = true := by
  simp only [dropLockGuard_eq, isLocked, dropInterruptGuard, free, setLock]
  split
  · next same => simp only [same, ne_eq, not_true_eq_false, false_and, Bool.false_eq_true]
  · next different => simp only [ne_eq, different, not_false_eq_true, true_and]

/-- The living guards of locks are those of the locks that are held, one for each. -/
structure OwnedBy (core : Core ι α) (guards : List (LockGuard ι)) : Prop where
  unique : (guards.map LockGuard.name).Nodup
  held_iff : ∀ name, core.isLocked name = true ↔ name ∈ guards.map LockGuard.name

omit [DecidableEq ι] in
theorem OwnedBy.perm (owned : core.OwnedBy guards) (same : rest.Perm guards) :
    core.OwnedBy rest := by
  have names := same.map LockGuard.name
  constructor
  · exact names.nodup_iff.mpr owned.unique
  · intro name
    rw [owned.held_iff, names.mem_iff]

omit [DecidableEq ι] in
theorem OwnedBy.of_isLocked (owned : core.OwnedBy guards)
    (same : ∀ name, after.isLocked name = core.isLocked name) : after.OwnedBy guards := by
  refine ⟨owned.unique, fun name => ?_⟩
  rw [same, owned.held_iff]

theorem OwnedBy.taken (owned : core.OwnedBy guards) (free : core.isLocked name = false) :
    (core.taken name).OwnedBy (core.nextGuard name :: guards) := by
  have fresh : name ∉ guards.map LockGuard.name := by
    rw [← owned.held_iff, free]
    exact Bool.false_ne_true
  constructor
  · exact List.nodup_cons.mpr ⟨fresh, owned.unique⟩
  · intro other
    rw [isLocked_taken, owned.held_iff, List.map_cons, List.mem_cons]
    rfl

theorem OwnedBy.dropped (owned : core.OwnedBy (guard :: guards)) :
    (core.dropLockGuard guard).OwnedBy guards := by
  obtain ⟨apart, unique⟩ := List.nodup_cons.mp owned.unique
  refine ⟨unique, fun other => ?_⟩
  rw [isLocked_dropLockGuard, owned.held_iff, List.map_cons, List.mem_cons]
  constructor
  · rintro ⟨different, same | member⟩
    · exact absurd same different
    · exact member
  · intro member
    refine ⟨?_, .inr member⟩
    rintro rfl
    exact apart member

omit [DecidableEq ι] in
theorem OwnedBy.free_of_nil (owned : core.OwnedBy []) (name : ι) : core.isLocked name = false := by
  rw [Bool.eq_false_iff, ne_eq, owned.held_iff]
  exact List.not_mem_nil

end Core

/-! ## Runs -/

namespace GuardRun

variable {ι α : Type} [DecidableEq ι] {run : GuardRun ι α}

/-- The locks that are held are those of the living guards. -/
def Owned (run : GuardRun ι α) : Prop :=
  run.core.OwnedBy run.lockGuards

omit [DecidableEq ι] in
theorem owned_start (status : Word) (value : ι → α) : (start status value).Owned := by
  refine ⟨List.nodup_nil, fun name => ?_⟩
  have free : (start status value).core.isLocked name = false := rfl
  rw [free]
  constructor
  · intro impossible
    cases impossible
  · intro member
    cases member

theorem Owned.step_lock (owned : run.Owned) (name : ι) : (run.step (.lock name)).Owned := by
  rw [GuardRun.step_lock]
  cases free : run.core.isLocked name with
  | true => exact owned
  | false =>
      have added := perm_filterMap_concat run.session.lockGuards (run.core.nextGuard name)
      exact (Core.OwnedBy.taken owned free).perm (added.append_right run.bodies)

/-- Whatever happens, the locks that are held stay those of the living guards. -/
theorem Owned.step (owned : run.Owned) (event : GuardEvent ι α) : (run.step event).Owned := by
  cases event with
  | mask => exact Core.OwnedBy.of_isLocked owned fun _ => rfl
  | unmask number =>
      rw [GuardRun.step]
      split
      · exact Core.OwnedBy.of_isLocked owned fun _ => rfl
      · exact owned
  | lock name => exact owned.step_lock name
  | tryLock name =>
      rw [step_tryLock]
      exact owned.step_lock name
  | unlock number =>
      rw [GuardRun.step]
      split
      · next found =>
          have removed := (perm_filterMap_set_none found).append_right run.bodies
          exact (Core.OwnedBy.perm owned removed.symm).dropped
      · exact owned
  | enter name =>
      rw [step_enter]
      cases free : run.core.isLocked name with
      | true => exact owned
      | false => exact (Core.OwnedBy.taken owned free).perm List.perm_middle
  | leave =>
      rw [GuardRun.step]
      split
      · next guard outer running =>
          -- The innermost body's guard stands between the other guards of the run.
          have removed : (guard :: (run.session.lockGuards.filterMap id ++ outer)).Perm
              run.lockGuards := by
            rw [lockGuards, running]
            exact List.perm_middle.symm
          exact (Core.OwnedBy.perm owned removed).dropped
      · exact owned
  | write name change =>
      rw [GuardRun.step]
      split
      · exact owned.of_isLocked fun other => run.core.isLocked_setValue name other _
      · exact owned

theorem Owned.stepAll (owned : run.Owned) (events : List (GuardEvent ι α)) :
    (run.stepAll events).Owned := by
  induction events generalizing run with
  | nil => exact owned
  | cons event later ih => exact ih (owned.step event)

omit [DecidableEq ι] in
theorem mem_lockGuards_of_numbered {number : Nat} {guard : LockGuard ι}
    (found : run.session.lockGuard? number = some guard) : guard ∈ run.lockGuards :=
  List.mem_append_left _ ((perm_filterMap_set_none found).mem_iff.mpr List.mem_cons_self)

omit [DecidableEq ι] in
theorem mem_lockGuards_of_running {guard : LockGuard ι} {outer : List (LockGuard ι)}
    (running : run.bodies = guard :: outer) : guard ∈ run.lockGuards := by
  rw [lockGuards, running]
  exact List.mem_append_right _ List.mem_cons_self

omit [DecidableEq ι] in
theorem guards_ne_nil_of_mem {guard : LockGuard ι} (member : guard ∈ run.lockGuards) :
    run.moment.guards ≠ [] := by
  intro empty
  have none := (List.append_eq_nil_iff.mp empty).2
  rw [List.map_eq_nil_iff.mp none] at member
  cases member

/-- After its first step, an event stands where a guard masks interrupts to take a lock, or where
the lock of a guard has been freed. -/
theorem mem_points {event : GuardEvent ι α} {moment : Moment ι α}
    (member : moment ∈ run.points event) :
    moment = run.moment ∨ moment = run.moment.afterMask ∨
      ∃ guard ∈ run.lockGuards, moment = run.moment.afterFree guard.name ∧
        (run.step event).core = run.core.dropLockGuard guard := by
  cases event with
  | lock name => exact (Moment.mem_through_tryLock member).imp_right .inl
  | tryLock name => exact (Moment.mem_through_tryLock member).imp_right .inl
  | enter name => exact (Moment.mem_through_tryLock member).imp_right .inl
  | unlock number =>
      rw [points] at member
      rcases found : run.session.lockGuard? number with _ | guard
      · rw [found] at member
        exact .inl (List.mem_singleton.mp member)
      · rw [found] at member
        refine (Moment.mem_through_dropGuard member).imp_right fun freed => .inr ?_
        refine ⟨guard, mem_lockGuards_of_numbered found, freed, ?_⟩
        rw [GuardRun.step, found]
        rfl
  | leave =>
      rw [points] at member
      rcases running : run.bodies with _ | ⟨guard, outer⟩
      · rw [running] at member
        exact .inl (List.mem_singleton.mp member)
      · rw [running] at member
        refine (Moment.mem_through_dropGuard member).imp_right fun freed => .inr ?_
        exact ⟨guard, mem_lockGuards_of_running running, freed, core_step_leave running⟩
  | mask => exact .inl (List.mem_singleton.mp member)
  | unmask number => exact .inl (List.mem_singleton.mp member)
  | write name change => exact .inl (List.mem_singleton.mp member)

omit [DecidableEq ι] in
theorem Owned.free_of_nil (owned : run.Owned) (empty : run.moment.guards = []) (name : ι) :
    run.core.isLocked name = false := by
  have none := List.map_eq_nil_iff.mp (List.append_eq_nil_iff.mp empty).2
  exact (Core.OwnedBy.perm owned (.of_eq none.symm)).free_of_nil name

/-- Inside an event a guard lives. -/
theorem Owned.free_of_mem_points (owned : run.Owned) {event : GuardEvent ι α} {moment : Moment ι α}
    (member : moment ∈ run.points event) (empty : moment.guards = []) (name : ι) :
    moment.core.isLocked name = false := by
  rcases mem_points member with rfl | rfl | ⟨guard, living, rfl, -⟩
  · exact owned.free_of_nil empty name
  · cases empty
  · exact absurd empty (guards_ne_nil_of_mem living)

/-- At every point without a living guard, all locks are free. -/
theorem Owned.free_of_guards_eq_nil (owned : run.Owned) (events : List (GuardEvent ι α)) :
    ∀ moment ∈ run.moments events, moment.guards = [] →
      ∀ name, moment.core.isLocked name = false := by
  induction events generalizing run with
  | nil =>
      intro moment member empty
      cases List.mem_singleton.mp member
      exact owned.free_of_nil empty
  | cons event later ih =>
      intro moment member empty
      rcases List.mem_append.mp member with member | member
      · exact owned.free_of_mem_points member empty
      · exact ih (owned.step event) moment member empty

end GuardRun

end Armv6Kernel
