import Armv6Kernel.Proofs.Irq.Program
import Mathlib.Logic.Function.Basic

/-!
# Mutual exclusion

At every point of a run a lock has at most one guard, and it is held exactly while it has one.  So
the changes of its value fall into tenures, one for each guard: a tenure begins when the guard is
made, and it is over before the next one begins.  The value of the lock is what these changes make
of the first value, tenure by tenure, however the bodies and the attempts to take the lock end.
-/

namespace Armv6Kernel

/-! ## Tenures -/

/-- What has been done through one guard of a lock, the oldest change first. -/
structure Tenure (α : Type) where
  changes : List (α → α)
  ended : Bool

namespace Tenure

variable {α : Type}

/-- A new guard has done nothing. -/
def fresh : Tenure α :=
  ⟨[], false⟩

/-- What changes make of a value. -/
def apply (tenure : Tenure α) (value : α) : α :=
  tenure.changes.foldl (fun value change => change value) value

/-- What tenures, the last one first, make of the value before them. -/
def replay (value : α) : List (Tenure α) → α
  | [] => value
  | tenure :: earlier => tenure.apply (replay value earlier)

/-- A change is made through the guard whose tenure is not over; without one the change is lost. -/
def change (made : α → α) : List (Tenure α) → List (Tenure α)
  | ⟨changes, false⟩ :: earlier => ⟨changes ++ [made], false⟩ :: earlier
  | tenures => tenures

/-- The tenure that is not over ends. -/
def finish : List (Tenure α) → List (Tenure α)
  | ⟨changes, false⟩ :: earlier => ⟨changes, true⟩ :: earlier
  | tenures => tenures

end Tenure

/-- The tenures of a lock, the last one first, come one after the other, and account for its
state. -/
structure IrqLock.AccountedBy {α : Type} (lock : IrqLock α) (initial : α)
    (tenures : List (Tenure α)) : Prop where
  successive : ∀ tenure ∈ tenures.tail, tenure.ended = true
  held_iff : lock.held = true ↔ ∃ tenure, tenures.head? = some tenure ∧ tenure.ended = false
  value : lock.value = Tenure.replay initial tenures

namespace IrqLock.AccountedBy

variable {α : Type} {lock : IrqLock α} {initial : α} {tenures : List (Tenure α)}

/-- Through a lock that is held, a tenure runs. -/
theorem running (accounted : lock.AccountedBy initial tenures) (held : lock.held = true) :
    ∃ changes earlier, tenures = ⟨changes, false⟩ :: earlier := by
  obtain ⟨⟨changes, ended⟩, first, running⟩ := accounted.held_iff.mp held
  obtain ⟨earlier, rfl⟩ := List.head?_eq_some_iff.mp first
  cases running
  exact ⟨changes, earlier, rfl⟩

theorem fresh (accounted : lock.AccountedBy initial tenures) (free : lock.held = false) :
    AccountedBy ⟨true, lock.value⟩ initial (.fresh :: tenures) := by
  refine ⟨?_, ⟨fun _ => ⟨.fresh, rfl, rfl⟩, fun _ => rfl⟩, accounted.value⟩
  intro tenure member
  rcases tenures with _ | ⟨last, earlier⟩
  · cases member
  · rcases List.mem_cons.mp member with rfl | before
    · cases ended : tenure.ended with
      | true => rfl
      | false =>
          rw [accounted.held_iff.mpr ⟨tenure, rfl, ended⟩] at free
          cases free
    · exact accounted.successive tenure before

theorem change (accounted : lock.AccountedBy initial tenures) (held : lock.held = true)
    (made : α → α) :
    AccountedBy ⟨true, made lock.value⟩ initial (Tenure.change made tenures) := by
  obtain ⟨changes, earlier, rfl⟩ := accounted.running held
  refine ⟨accounted.successive, ⟨fun _ => ⟨_, rfl, rfl⟩, fun _ => rfl⟩, ?_⟩
  rw [Tenure.change, Tenure.replay, Tenure.apply, List.foldl_append, List.foldl_cons,
    List.foldl_nil]
  exact congrArg made accounted.value

theorem finish (accounted : lock.AccountedBy initial tenures) (held : lock.held = true) :
    AccountedBy ⟨false, lock.value⟩ initial (Tenure.finish tenures) := by
  obtain ⟨changes, earlier, rfl⟩ := accounted.running held
  refine ⟨accounted.successive, ⟨nofun, ?_⟩, accounted.value⟩
  rintro ⟨tenure, ⟨⟩, running⟩
  cases running

end IrqLock.AccountedBy

/-! ## Deeds -/

/-- What an event does to a lock. -/
inductive LockDeed (ι α : Type) where
  | begins (name : ι)
  | changes (name : ι) (change : α → α)
  | finishes (name : ι)

namespace LockDeed

variable {ι α : Type} [DecidableEq ι]

/-- The tenures of all locks, with a deed added. -/
def record (tenures : ι → List (Tenure α)) : LockDeed ι α → ι → List (Tenure α)
  | begins name => Function.update tenures name (.fresh :: tenures name)
  | changes name change => Function.update tenures name (Tenure.change change (tenures name))
  | finishes name => Function.update tenures name (Tenure.finish (tenures name))

/-- What a deed makes of the locks of a core.  Only a free lock can be taken, and only one that is
held can be changed or freed. -/
inductive Acts (before : ι → IrqLock α) : LockDeed ι α → (ι → IrqLock α) → Prop
  | begins {name : ι} (free : (before name).held = false) :
      Acts before (.begins name) (Function.update before name ⟨true, (before name).value⟩)
  | changes {name : ι} {change : α → α} (held : (before name).held = true) :
      Acts before (.changes name change)
        (Function.update before name ⟨true, change (before name).value⟩)
  | finishes {name : ι} (held : (before name).held = true) :
      Acts before (.finishes name) (Function.update before name ⟨false, (before name).value⟩)

/-- A deed leaves the other locks and their tenures alone. -/
theorem accountedBy_update {before : ι → IrqLock α} {initial : ι → α}
    {tenures : ι → List (Tenure α)} {name : ι} {lock : IrqLock α} {now : List (Tenure α)}
    (accounted : ∀ other, (before other).AccountedBy (initial other) (tenures other))
    (here : lock.AccountedBy (initial name) now) (other : ι) :
    (Function.update before name lock other).AccountedBy (initial other)
      (Function.update tenures name now other) := by
  rcases eq_or_ne other name with rfl | different
  · rw [Function.update_self, Function.update_self]
    exact here
  · rw [Function.update_of_ne different, Function.update_of_ne different]
    exact accounted other

theorem Acts.accountedBy {before after : ι → IrqLock α} {deed : LockDeed ι α}
    (acts : deed.Acts before after) {initial : ι → α} {tenures : ι → List (Tenure α)}
    (accounted : ∀ name, (before name).AccountedBy (initial name) (tenures name)) :
    ∀ name, (after name).AccountedBy (initial name) (deed.record tenures name) := by
  cases acts with
  | begins free => exact accountedBy_update accounted ((accounted _).fresh free)
  | changes held => exact accountedBy_update accounted ((accounted _).change held _)
  | finishes held => exact accountedBy_update accounted ((accounted _).finish held)

end LockDeed

/-! ## What events do to locks -/

namespace Core

variable {ι α : Type} [DecidableEq ι] (core : Core ι α)

theorem lock_setLock (name : ι) (lock : IrqLock α) :
    (core.setLock name lock).lock = Function.update core.lock name lock := by
  funext other
  rw [Function.update_apply]
  rfl

theorem value_free (name other : ι) : (core.free name).value other = core.value other := by
  simp only [Core.value, Core.free, Core.setLock]
  split
  · next same => rw [same]
  · rfl

theorem lock_taken (name : ι) :
    (core.taken name).lock = Function.update core.lock name ⟨true, core.value name⟩ :=
  core.masked.lock_setLock name _

theorem lock_dropLockGuard (guard : LockGuard ι) :
    (core.dropLockGuard guard).lock =
      Function.update core.lock guard.name ⟨false, core.value guard.name⟩ :=
  core.lock_setLock guard.name _

end Core

namespace GuardRun

variable {ι α : Type} [DecidableEq ι] {run : GuardRun ι α}

/-- What an event does to a lock, as its answer tells. -/
def deed? (run : GuardRun ι α) : GuardEvent ι α → Option (LockDeed ι α)
  | .lock name =>
      match (GuardSession.acquire name : Action (GuardSession ι α) Empty α).effect run.session with
      | (.value _, _) => some (.begins name)
      | _ => none
  | .tryLock name =>
      match (GuardSession.tryLock name :
          Action (GuardSession ι α) Empty (Option α)).effect run.session with
      | (.value (some _), _) => some (.begins name)
      | _ => none
  | .enter name =>
      match (Core.acquire name : Action (Core ι α) Empty (LockGuard ι)).effect run.core with
      | (.value _, _) => some (.begins name)
      | _ => none
  | .unlock number => (run.session.lockGuard? number).map fun guard => .finishes guard.name
  | .leave => run.bodies.head?.map fun guard => .finishes guard.name
  | .write name change =>
      if run.lockGuards.any (·.name = name) then some (.changes name change) else none
  | _ => none

/-- An event does what its deed says, and without a deed nothing. -/
inductive ActsOn (before after : ι → IrqLock α) : Option (LockDeed ι α) → Prop
  | nothing (same : after = before) : ActsOn before after none
  | deed {deed : LockDeed ι α} (acts : deed.Acts before after) : ActsOn before after (some deed)

theorem deed?_lock (run : GuardRun ι α) (name : ι) :
    run.deed? (.lock name) = if run.core.isLocked name then none else some (.begins name) := by
  rw [deed?, GuardSession.effect_acquire, core]
  cases run.session.core.isLocked name <;> rfl

theorem deed?_tryLock (run : GuardRun ι α) (name : ι) :
    run.deed? (.tryLock name) = run.deed? (.lock name) := by
  rw [deed?_lock, deed?, GuardSession.effect_tryLock, core]
  cases run.session.core.isLocked name <;> rfl

theorem deed?_enter (run : GuardRun ι α) (name : ι) :
    run.deed? (.enter name) = if run.core.isLocked name then none else some (.begins name) := by
  rw [deed?, Core.effect_acquire]
  cases run.core.isLocked name <;> rfl

theorem actsOn_taken {before : Core ι α} {name : ι} (free : before.isLocked name = false) :
    ActsOn before.lock (before.taken name).lock (some (.begins name)) := by
  rw [Core.lock_taken]
  exact .deed (.begins free)

omit [DecidableEq ι] in
theorem Owned.isLocked (owned : run.Owned) {guard : LockGuard ι} (member : guard ∈ run.lockGuards) :
    run.core.isLocked guard.name = true :=
  (owned.held_iff guard.name).mpr (List.mem_map_of_mem member)

theorem Owned.actsOn_dropLockGuard (owned : run.Owned) {guard : LockGuard ι}
    (member : guard ∈ run.lockGuards) :
    ActsOn run.core.lock (run.core.dropLockGuard guard).lock (some (.finishes guard.name)) := by
  rw [Core.lock_dropLockGuard]
  exact .deed (.finishes (owned.isLocked member))

theorem actsOn_lock (run : GuardRun ι α) (name : ι) :
    ActsOn run.core.lock (run.step (.lock name)).core.lock (run.deed? (.lock name)) := by
  rw [step_lock, deed?_lock]
  cases free : run.core.isLocked name with
  | true => exact .nothing rfl
  | false => exact actsOn_taken free

theorem Owned.actsOn (owned : run.Owned) (event : GuardEvent ι α) :
    ActsOn run.core.lock (run.step event).core.lock (run.deed? event) := by
  cases event with
  | mask => exact .nothing rfl
  | unmask number =>
      rw [GuardRun.step]
      split <;> exact .nothing rfl
  | lock name => exact run.actsOn_lock name
  | tryLock name =>
      rw [step_tryLock, deed?_tryLock]
      exact run.actsOn_lock name
  | enter name =>
      rw [step_enter, deed?_enter]
      cases free : run.core.isLocked name with
      | true => exact .nothing rfl
      | false => exact actsOn_taken free
  | unlock number =>
      rw [GuardRun.step, deed?]
      rcases found : run.session.lockGuard? number with _ | guard
      · exact .nothing rfl
      · exact owned.actsOn_dropLockGuard (mem_lockGuards_of_numbered found)
  | leave =>
      rw [GuardRun.step, deed?]
      rcases running : run.bodies with _ | ⟨guard, outer⟩
      · exact .nothing rfl
      · exact owned.actsOn_dropLockGuard (mem_lockGuards_of_running running)
  | write name change =>
      rw [GuardRun.step, deed?]
      split
      · next guarded =>
          obtain ⟨guard, member, same⟩ := List.any_eq_true.mp guarded
          have held := owned.isLocked member
          rw [of_decide_eq_true same] at held
          have changed : (run.core.setValue name (change (run.core.value name))).lock =
              Function.update run.core.lock name ⟨true, change (run.core.value name)⟩ := by
            rw [Core.setValue, Core.lock_setLock]
            exact congrArg (fun held => Function.update run.core.lock name
              ⟨held, change (run.core.value name)⟩) held
          exact changed ▸ .deed (.changes held)
      · exact .nothing rfl

/-- Inside an event the locks that are held are those of the guards before it, or those of the
guards after. -/
theorem Owned.ownedBy_of_mem_points (owned : run.Owned) {event : GuardEvent ι α}
    {moment : Moment ι α} (member : moment ∈ run.points event) :
    moment.core.OwnedBy run.lockGuards ∨ moment.core.OwnedBy (run.step event).lockGuards := by
  rcases mem_points member with rfl | rfl | ⟨guard, -, rfl, after⟩
  · exact .inl owned
  · exact .inl (Core.OwnedBy.of_isLocked owned fun _ => rfl)
  · refine .inr (Core.OwnedBy.of_isLocked (owned.step event) fun name => ?_)
    rw [after, Core.dropLockGuard_eq]
    rfl

/-- Inside an event no value changes. -/
theorem value_of_mem_points {event : GuardEvent ι α} {moment : Moment ι α}
    (member : moment ∈ run.points event) (name : ι) :
    moment.core.value name = run.core.value name := by
  rcases mem_points member with rfl | rfl | ⟨guard, -, rfl, -⟩
  · rfl
  · rfl
  · exact run.core.value_free guard.name name

/-- How the attempts to take a lock end.  Only a lock that is held is refused, and a refusal changes
nothing; a body runs under a lock that was free, and frees it however the body ends. -/
structure Admits (run : GuardRun ι α) (name : ι) : Prop where
  tryLock : ((GuardSession.tryLock name : Action (GuardSession ι α) Empty (Option α)).effect
      run.session).1 =
    .value (if run.core.isLocked name then none else some (run.core.value name))
  lock : ((GuardSession.acquire name : Action (GuardSession ι α) Empty α).effect run.session).1 =
    if run.core.isLocked name then .panic .lockReentered else .value (run.core.value name)
  withLock : ∀ {ε β : Type} (body : Action (Core ι α) ε β),
    (Core.withLock name body).effect run.core =
      if run.core.isLocked name then (.panic .lockReentered, run.core)
      else ((body.effect (run.core.taken name)).1,
        (body.effect (run.core.taken name)).2.dropLockGuard (run.core.nextGuard name))
  refused : run.core.isLocked name = true →
    run.step (.lock name) = run ∧ run.step (.tryLock name) = run ∧ run.step (.enter name) = run

theorem admits (run : GuardRun ι α) (name : ι) : run.Admits name where
  tryLock := by
    rw [GuardSession.effect_tryLock, core]
    cases run.session.core.isLocked name <;> rfl
  lock := by
    rw [GuardSession.effect_acquire, core]
    cases run.session.core.isLocked name <;> rfl
  withLock body := run.core.effect_withLock name body
  refused := stepAll_refused

end GuardRun

/-! ## Histories -/

/-- A run and the tenures of its locks, the last one of each lock first. -/
structure GuardHistory (ι α : Type) where
  run : GuardRun ι α
  tenures : ι → List (Tenure α)

namespace GuardHistory

variable {ι α : Type} [DecidableEq ι] {history : GuardHistory ι α} {initial : ι → α}

def start (status : Word) (value : ι → α) : GuardHistory ι α :=
  ⟨GuardRun.start status value, fun _ => []⟩

def step (history : GuardHistory ι α) (event : GuardEvent ι α) : GuardHistory ι α :=
  ⟨history.run.step event,
    ((history.run.deed? event).map (LockDeed.record history.tenures)).getD history.tenures⟩

def stepAll (history : GuardHistory ι α) (events : List (GuardEvent ι α)) : GuardHistory ι α :=
  events.foldl step history

theorem run_stepAll (history : GuardHistory ι α) (events : List (GuardEvent ι α)) :
    (history.stepAll events).run = history.run.stepAll events := by
  induction events generalizing history with
  | nil => rfl
  | cons event later hypothesis => exact hypothesis (history.step event)

/-- Each lock has at most one guard and is held exactly while it has one, inside an event as well,
and it can be taken exactly while it has none.  Its tenures come one after the other, and its value
is what they have made of the first one.  Inside an event it is the same value still. -/
structure Excludes (initial : ι → α) (history : GuardHistory ι α) : Prop where
  owned : history.run.core.OwnedBy history.run.lockGuards
  within : ∀ event, ∀ moment ∈ history.run.points event,
    (moment.core.OwnedBy history.run.lockGuards ∨
      moment.core.OwnedBy (history.run.step event).lockGuards) ∧
        ∀ name, moment.core.value name = history.run.core.value name
  admits : ∀ name, history.run.Admits name
  accounted : ∀ name,
    (history.run.core.lock name).AccountedBy (initial name) (history.tenures name)

theorem Excludes.of_owned (owned : history.run.Owned)
    (accounted : ∀ name,
      (history.run.core.lock name).AccountedBy (initial name) (history.tenures name)) :
    history.Excludes initial :=
  ⟨owned, fun _ _ member =>
      ⟨owned.ownedBy_of_mem_points member, GuardRun.value_of_mem_points member⟩,
    history.run.admits, accounted⟩

theorem excludes_start (status : Word) (value : ι → α) :
    (start status value).Excludes value := by
  refine .of_owned (GuardRun.owned_start status value) fun name => ⟨nofun, ⟨nofun, ?_⟩, rfl⟩
  rintro ⟨tenure, impossible, -⟩
  cases impossible

theorem Excludes.step (excludes : history.Excludes initial) (event : GuardEvent ι α) :
    (history.step event).Excludes initial := by
  have owned : history.run.Owned := excludes.owned
  refine .of_owned (owned.step event) ?_
  have acts := owned.actsOn event
  rw [GuardHistory.step]
  generalize history.run.deed? event = deed? at acts
  cases acts with
  | nothing same =>
      dsimp only
      rw [same]
      exact excludes.accounted
  | deed acts => exact acts.accountedBy excludes.accounted

theorem Excludes.stepAll (excludes : history.Excludes initial) (events : List (GuardEvent ι α)) :
    (history.stepAll events).Excludes initial := by
  induction events generalizing history with
  | nil => exact excludes
  | cons event later hypothesis => exact hypothesis (excludes.step event)

/-- Guards exclude each other in every run, guards being dropped in any order.  Programs in which
bodies nest and panics unwind are among the runs: what a program does to the core, its events do. -/
theorem excludes_stepAll (status : Word) (value : ι → α) (events : List (GuardEvent ι α)) :
    let history := (start status value).stepAll events
    history.Excludes value ∧ ∀ program : GuardProgram ι α,
      let after := history.stepAll (program.trace history.run).events
      program.perform.effect history.run.core =
          ((program.trace history.run).outcome, after.run.core) ∧
        after.Excludes value := by
  intro history
  have excludes : history.Excludes value := (excludes_start status value).stepAll events
  refine ⟨excludes, fun program => ⟨?_, excludes.stepAll _⟩⟩
  rw [history.run_stepAll (program.trace history.run).events]
  exact program.effect_perform excludes.owned

/-- A body changes the value and fails to take the lock again.  The change stays, and the next guard
begins a tenure of its own. -/
example :
    let history := (start 0 fun _ : Unit => 5).stepAll
      [.enter (), .write () (· + 1), .enter (), .leave, .lock ()]
    history.run.core.lock () = ⟨true, 6⟩ ∧
      (history.tenures ()).map Tenure.ended = [false, true] := by
  decide

end GuardHistory

end Armv6Kernel
