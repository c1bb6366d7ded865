import Armv6Kernel.Proofs.Heap.Allotment
import Mathlib.Data.List.Induction

/-!
# Moving the start of the bump heap

A move of the start forgets the cursor.  So a heap may come to begin below the address that it was
made with, and it may hand out the same byte twice.  This module keeps all blocks that a heap has
ever handed out, and says exactly which moves bring about the one and the other.
-/

namespace Armv6Kernel

/-- A multiple of the unit is reached by rounding up exactly if it lies less than one unit above the
place. -/
theorem le_roundUp_iff {unit multiple place : Nat} (positive : 0 < unit)
    (divides : unit ∣ multiple) :
    multiple ≤ roundUp place unit ↔ multiple < place + unit := by
  constructor
  · intro below
    exact Nat.lt_of_le_of_lt below (roundUp_lt positive place)
  · intro near
    by_contra beyond
    have above := le_roundUp positive place
    -- Two different multiples are at least a whole unit apart.
    have apart : unit ≤ multiple - roundUp place unit :=
      Nat.le_of_dvd (by omega) (Nat.dvd_sub divides (dvd_roundUp place unit))
    omega

theorem roundUp_eq_self {unit multiple : Nat} (positive : 0 < unit) (divides : unit ∣ multiple) :
    roundUp multiple unit = multiple :=
  Nat.le_antisymm (roundUp_le positive divides (Nat.le_refl _)) (le_roundUp positive multiple)

/-! ## Bytes in two blocks -/

namespace Block

def Contains (block : Block) (byte : Nat) : Prop :=
  block.start ≤ byte ∧ byte < block.start + block.bytes

/-- Some byte lies in both blocks. -/
def Overlaps (first second : Block) : Prop :=
  ∃ byte, first.Contains byte ∧ second.Contains byte

/-- All bytes of the block lie below a place. -/
def EndsBy (block : Block) (place : Nat) : Prop :=
  0 < block.bytes → block.start + block.bytes ≤ place

theorem EndsBy.mono {block : Block} {place higher : Nat} (ends : block.EndsBy place)
    (above : place ≤ higher) : block.EndsBy higher :=
  fun nonempty => Nat.le_trans (ends nonempty) above

theorem EndsBy.not_overlaps {earlier later : Block} (ends : earlier.EndsBy later.start) :
    ¬ later.Overlaps earlier := by
  rintro ⟨byte, ⟨above, -⟩, within, below⟩
  have end_le := ends (by omega)
  omega

end Block

namespace BumpHeap

/-- Every block starts at a multiple of eight. -/
theorem dvd_place {alignment : Word} (power : alignment.toNat.isPowerOfTwo) (heap : BumpHeap) :
    8 ∣ heap.place alignment := by
  have unit : 8 ∣ max alignment.toNat 8 := by
    obtain ⟨exponent, equal⟩ := isPowerOfTwo_servedAlignment power
    have large : 2 ^ 3 ≤ 2 ^ exponent := by
      rw [← equal, toNat_servedAlignment]
      exact Nat.le_max_right _ _
    rw [← toNat_servedAlignment, equal]
    exact Nat.pow_dvd_pow 2 ((Nat.pow_le_pow_iff_right (by decide)).mp large)
  exact Nat.dvd_trans unit (dvd_roundUp _ _)

end BumpHeap

namespace HeapRun

/-! ## Runs that keep every block -/

/-- One call.  A move of the start leaves the blocks that were handed out before it. -/
def retain (run : HeapRun) : HeapRequest → HeapRun
  | .setStart address => { run.next (.setStart address) with blocks := run.blocks }
  | request => run.next request

def retainAll (run : HeapRun) (requests : List HeapRequest) : HeapRun :=
  requests.foldl retain run

/-- What a call does to a run. -/
inductive Retains (run : HeapRun) (request : HeapRequest) : HeapRun → Prop
  | granted {block : Block} {stop : PhysicalAddress}
      (asked : ∀ address, request ≠ .setStart address)
      (behind : run.heap.next.toNat ≤ block.start) (ends : block.start + block.bytes = stop.toNat)
      (room : stop.toNat ≤ run.heap.limit.toNat) (onUnit : 8 ∣ stop.toNat) :
      Retains run request ⟨{ run.heap with next := stop }, block :: run.blocks⟩
  | moved {address start : PhysicalAddress} (asked : request = .setStart address)
      (below : address.toNat ≤ run.heap.limit.toNat)
      (starts : start.toNat = min (roundUp address.toNat 8) run.heap.limit.toNat) :
      Retains run request ⟨{ run.heap with start, next := start }, run.blocks⟩
  | kept (beyond : ∀ address, request = .setStart address →
        run.heap.limit.toNat < address.toNat) :
      Retains run request run

/-- No call hands out a byte that has been handed out before. -/
def HandsOutUnused (run : HeapRun) : Prop :=
  ∀ request block, (run.retain request).blocks = block :: run.blocks →
    ∀ earlier ∈ run.blocks, ¬ block.Overlaps earlier

/-- All bytes that have been handed out lie below the cursor. -/
def Clear (run : HeapRun) : Prop :=
  ∀ block ∈ run.blocks, block.EndsBy run.heap.next.toNat

/-- Cursor and blocks end at multiples of eight, and not behind the limit. -/
structure Bounded (start limit : PhysicalAddress) (run : HeapRun) : Prop where
  firstStart_eq : run.heap.firstStart = start
  limit_eq : run.heap.limit = limit
  next_le : run.heap.next.toNat ≤ limit.toNat
  onUnit : 8 ∣ run.heap.next.toNat ∨ run.heap.next.toNat = limit.toNat
  blocks : ∀ block ∈ run.blocks,
    8 ∣ block.start + block.bytes ∧ block.start + block.bytes ≤ limit.toNat

section Calls

variable {start limit : PhysicalAddress} {run after : HeapRun} {request : HeapRequest}

theorem Retains.of_allocates {bytes alignment : Word}
    {ending : Outcome Empty (Option PhysicalAddress) × BumpHeap}
    (asked : ∀ address, request ≠ .setStart address)
    (allocates : run.heap.Allocates bytes alignment ending) :
    run.Retains request (run.afterAllocation bytes ending) := by
  obtain ⟨outcome, heap⟩ := ending
  have unchanged : (∀ address, outcome ≠ .value (some address)) →
      run.Retains request ⟨heap, run.blocks⟩ := by
    intro refusal
    rw [show heap = run.heap from allocates.refused refusal]
    exact .kept fun address same => absurd same (asked address)
  rcases outcome with (_ | address) | cause | cause
  · exact unchanged (by simp)
  · obtain ⟨power, room⟩ := allocates.grants_iff.mp ⟨address, rfl⟩
    obtain ⟨stop, starts, stops, rfl⟩ := allocates.granted address rfl
    refine .granted asked ?_ ?_ ?_ ?_
    · rw [starts]
      exact run.heap.le_place alignment
    · rw [starts, stops]
    · rw [stops]
      exact room
    · rw [stops]
      exact Nat.dvd_add (run.heap.dvd_place power) (dvd_roundUp _ _)
  · exact cause.elim
  · exact unchanged (by simp)

theorem retains_setStart (run : HeapRun) (address : PhysicalAddress) :
    run.Retains (.setStart address) (run.retain (.setStart address)) := by
  have moves := run.heap.moves address
  have final : run.retain (.setStart address) =
      ⟨(run.afterMove ((BumpHeap.setStart address).effect run.heap)).heap, run.blocks⟩ := rfl
  rw [final]
  generalize (BumpHeap.setStart address).effect run.heap = ending at moves
  obtain ⟨outcome, heap⟩ := ending
  rcases outcome with ⟨⟩ | cause | cause
  · obtain ⟨start, starts, rfl⟩ := moves.moved rfl
    refine .moved rfl ?_ starts
    by_contra beyond
    have panics := (moves.panics_iff _).mpr ⟨rfl, Nat.lt_of_not_le beyond⟩
    cases panics
  · exact cause.elim
  · obtain ⟨-, beyond⟩ := (moves.panics_iff cause).mp rfl
    have same : heap = run.heap := moves.refused (by simp)
    have stays : run.afterMove (.panic cause, heap) = run := by
      rw [same]
      rfl
    rw [stays]
    exact .kept fun other asked => by
      cases asked
      exact beyond

theorem retains (run : HeapRun) (request : HeapRequest) :
    run.Retains request (run.retain request) := by
  cases request with
  | allocate bytes => exact .of_allocates (fun _ => nofun) (run.heap.allocates bytes _)
  | allocateAligned bytes alignment =>
      exact .of_allocates (fun _ => nofun) (run.heap.allocates bytes alignment)
  | setStart address => exact run.retains_setStart address

theorem Retains.bounded (retains : run.Retains request after) (bounded : run.Bounded start limit) :
    after.Bounded start limit := by
  cases retains with
  | granted asked behind ends room onUnit =>
      rw [bounded.limit_eq] at room
      refine ⟨bounded.firstStart_eq, bounded.limit_eq, room, .inl onUnit, ?_⟩
      refine List.forall_mem_cons.mpr ⟨?_, bounded.blocks⟩
      rw [ends]
      exact ⟨onUnit, room⟩
  | @moved address moved asked below starts =>
      rw [bounded.limit_eq] at starts
      have multiple := dvd_roundUp address.toNat 8
      refine ⟨bounded.firstStart_eq, bounded.limit_eq, ?_, ?_, bounded.blocks⟩
      · change moved.toNat ≤ limit.toNat
        omega
      · change 8 ∣ moved.toNat ∨ moved.toNat = limit.toNat
        omega
  | kept beyond => exact bounded

/-- Blocks end by where a move puts the cursor exactly if they end less than eight bytes above the
address. -/
theorem Bounded.endsBy_moved_iff (bounded : run.Bounded start limit)
    {address moved : PhysicalAddress}
    (starts : moved.toNat = min (roundUp address.toNat 8) limit.toNat) {block : Block}
    (member : block ∈ run.blocks) :
    block.EndsBy moved.toNat ↔
      (0 < block.bytes → block.start + block.bytes < address.toNat + 8) := by
  obtain ⟨onUnit, inside⟩ := bounded.blocks block member
  unfold Block.EndsBy
  rw [starts, Nat.le_min, le_roundUp_iff (by decide) onUnit]
  constructor
  · exact fun ends nonempty => (ends nonempty).1
  · exact fun near nonempty => ⟨near nonempty, inside⟩

/-- The least block that ends behind a place is handed out, if there is one before the limit. -/
theorem blocks_allocate {bytes : Word}
    (room : run.heap.place BumpHeap.minAlignment + BumpHeap.size bytes ≤ run.heap.limit.toNat) :
    (run.retain (.allocate bytes)).blocks =
      ⟨run.heap.place BumpHeap.minAlignment, BumpHeap.size bytes⟩ :: run.blocks := by
  have allocates := run.heap.allocates bytes BumpHeap.minAlignment
  have final : run.retain (.allocate bytes) = run.afterAllocation bytes
      ((BumpHeap.allocateAligned bytes BumpHeap.minAlignment).effect run.heap) := rfl
  rw [final]
  generalize (BumpHeap.allocateAligned bytes BumpHeap.minAlignment).effect run.heap = ending
    at allocates
  obtain ⟨outcome, heap⟩ := ending
  obtain ⟨address, granted⟩ := allocates.grants_iff.mpr ⟨⟨3, rfl⟩, room⟩
  cases granted
  obtain ⟨stop, starts, -, -⟩ := allocates.granted address rfl
  rw [← starts]
  rfl

/-- While a byte that was handed out lies behind the cursor, and only then, it can be handed out
again. -/
theorem Bounded.handsOutUnused_iff (bounded : run.Bounded start limit) :
    run.HandsOutUnused ↔ run.Clear := by
  constructor
  · intro unused block member nonempty
    by_contra beyond
    obtain ⟨onUnit, inside⟩ := bounded.blocks block member
    have nextOnUnit := bounded.onUnit
    have limitBound := limit.toNat_lt
    -- The block from the cursor to the end of the earlier one can be had.
    have cursorOnUnit : 8 ∣ run.heap.next.toNat := by omega
    have placed : run.heap.place BumpHeap.minAlignment = run.heap.next.toNat :=
      roundUp_eq_self (by decide) cursorOnUnit
    have sized : BumpHeap.size (BitVec.ofNat 32 (block.start + block.bytes - run.heap.next.toNat)) =
        block.start + block.bytes - run.heap.next.toNat := by
      unfold BumpHeap.size
      rw [BitVec.toNat_ofNat, Nat.mod_eq_of_lt (by omega)]
      exact roundUp_eq_self (by decide) (Nat.dvd_sub onUnit cursorOnUnit)
    have room : run.heap.place BumpHeap.minAlignment + BumpHeap.size
        (BitVec.ofNat 32 (block.start + block.bytes - run.heap.next.toNat)) ≤
          run.heap.limit.toNat := by
      rw [placed, sized, bounded.limit_eq]
      omega
    refine unused _ _ (blocks_allocate room) block member
      ⟨block.start + block.bytes - 1, ?_, by unfold Block.Contains; omega⟩
    rw [placed, sized]
    unfold Block.Contains
    dsimp only
    omega
  · intro clear request block handed earlier member
    have retains := run.retains request
    generalize run.retain request = after at retains handed
    cases retains with
    | granted asked behind ends room onUnit =>
        cases handed
        exact ((clear earlier member).mono behind).not_overlaps
    | moved asked below starts => exact absurd handed.symm (List.cons_ne_self _ _)
    | kept beyond => exact absurd handed.symm (List.cons_ne_self _ _)

end Calls

/-! ## Runs -/

section Runs

variable {start limit : PhysicalAddress} {run : HeapRun} {requests : List HeapRequest}

theorem retainAll_append (run : HeapRun) (requests : List HeapRequest) (request : HeapRequest) :
    run.retainAll (requests ++ [request]) = (run.retainAll requests).retain request := by
  rw [retainAll, List.foldl_append]
  rfl

theorem Bounded.retainAll (bounded : run.Bounded start limit) (requests : List HeapRequest) :
    (run.retainAll requests).Bounded start limit := by
  induction requests generalizing run with
  | nil => exact bounded
  | cons request requests hypothesis => exact hypothesis ((run.retains request).bounded bounded)

/-- Every move that is carried out goes to where the heap was made, or less than eight bytes
below. -/
def MovesAbove (start limit : PhysicalAddress) (requests : List HeapRequest) : Prop :=
  ∀ address, .setStart address ∈ requests → address.toNat ≤ limit.toNat →
    start.toNat < address.toNat + 8

/-- Every move that is carried out goes behind all bytes that have been handed out, or less than
eight bytes below their end. -/
def MovesBehind (run : HeapRun) (limit : PhysicalAddress) (requests : List HeapRequest) : Prop :=
  ∀ earlier address later, requests = earlier ++ .setStart address :: later →
    address.toNat ≤ limit.toNat → ∀ block ∈ (run.retainAll earlier).blocks, 0 < block.bytes →
      block.start + block.bytes < address.toNat + 8

/-- What blocks handed out behind the cursor leave as it is holds throughout a run exactly if every
move that is carried out leaves it so. -/
theorem Bounded.forall_prefix_iff (bounded : run.Bounded start limit) (motive : HeapRun → Prop)
    (allows : HeapRun → PhysicalAddress → Prop) (first : motive run)
    (granted : ∀ (run : HeapRun) (block : Block) (stop : PhysicalAddress), motive run →
      run.heap.next.toNat ≤ block.start → block.start + block.bytes = stop.toNat →
        motive ⟨{ run.heap with next := stop }, block :: run.blocks⟩)
    (moved : ∀ (run : HeapRun) (address moved : PhysicalAddress), run.Bounded start limit →
      moved.toNat = min (roundUp address.toNat 8) limit.toNat → address.toNat ≤ limit.toNat →
        motive run → (motive ⟨{ run.heap with start := moved, next := moved }, run.blocks⟩ ↔
          allows run address)) :
    (∀ earlier, earlier <+: requests → motive (run.retainAll earlier)) ↔
      ∀ earlier address later, requests = earlier ++ .setStart address :: later →
        address.toNat ≤ limit.toNat → allows (run.retainAll earlier) address := by
  constructor
  · rintro stays earlier address later rfl below
    have before := stays earlier (List.prefix_append _ _)
    have here := stays (earlier ++ [.setStart address]) ⟨later, by simp⟩
    have boundedHere := bounded.retainAll earlier
    have retains := (run.retainAll earlier).retains (.setStart address)
    rw [retainAll_append] at here
    generalize (run.retainAll earlier).retain (.setStart address) = after at here retains
    cases retains with
    | granted asked behind ends room onUnit => exact absurd rfl (asked address)
    | moved asked within starts =>
        cases asked
        rw [boundedHere.limit_eq] at starts
        exact (moved _ address _ boundedHere starts below before).mp here
    | kept beyond =>
        have outside := beyond address rfl
        rw [boundedHere.limit_eq] at outside
        omega
  · intro allowed earlier inside
    induction earlier using List.reverseRecOn with
    | nil => exact first
    | append_singleton earlier request hypothesis =>
        have before := hypothesis ((List.prefix_append _ _).trans inside)
        have boundedHere := bounded.retainAll earlier
        have retains := (run.retainAll earlier).retains request
        obtain ⟨later, split⟩ := inside
        rw [retainAll_append]
        generalize (run.retainAll earlier).retain request = after at retains
        cases retains with
        | granted asked behind ends room onUnit => exact granted _ _ _ before behind ends
        | @moved address _ asked within starts =>
            subst asked
            rw [boundedHere.limit_eq] at within starts
            have whole : requests = earlier ++ .setStart address :: later := by
              rw [← split]
              simp
            exact (moved _ address _ boundedHere starts within before).mpr
              (allowed earlier address later whole within)
        | kept beyond => exact before

theorem Bounded.beginsAbove_iff (bounded : run.Bounded start limit) (onUnit : 8 ∣ start.toNat)
    (ordered : start.toNat ≤ limit.toNat) (above : start.toNat ≤ run.heap.start.toNat) :
    (∀ earlier, earlier <+: requests →
      start.toNat ≤ (run.retainAll earlier).heap.start.toNat) ↔
        MovesAbove start limit requests := by
  have moved : ∀ (address moved : PhysicalAddress),
      moved.toNat = min (roundUp address.toNat 8) limit.toNat →
        (start.toNat ≤ moved.toNat ↔ start.toNat < address.toNat + 8) := by
    intro address moved starts
    rw [starts, Nat.le_min, le_roundUp_iff (by decide) onUnit, and_iff_left ordered]
  rw [bounded.forall_prefix_iff (fun run => start.toNat ≤ run.heap.start.toNat)
    (fun _ address => start.toNat < address.toNat + 8) above (fun _ _ _ before _ _ => before)
    (fun _ address _ _ starts _ _ => moved address _ starts)]
  constructor
  · intro allowed address member
    obtain ⟨earlier, later, split⟩ := List.append_of_mem member
    exact allowed earlier address later split
  · rintro moves earlier address later rfl
    exact moves address (List.mem_append_right earlier List.mem_cons_self)

theorem Bounded.clear_iff (bounded : run.Bounded start limit) (clear : run.Clear) :
    (∀ earlier, earlier <+: requests → (run.retainAll earlier).Clear) ↔
      run.MovesBehind limit requests := by
  refine bounded.forall_prefix_iff Clear (fun run address => ∀ block ∈ run.blocks,
    0 < block.bytes → block.start + block.bytes < address.toNat + 8) clear ?_ ?_
  · intro run block stop before behind ends
    have risen := Nat.le_trans behind (Nat.le_trans (Nat.le_add_right _ _) (Nat.le_of_eq ends))
    exact List.forall_mem_cons.mpr ⟨fun _ => Nat.le_of_eq ends,
      fun earlier member => (before earlier member).mono risen⟩
  · intro run address moved boundedHere starts within before
    exact forall₂_congr fun block member => boundedHere.endsBy_moved_iff starts member

/-- As long as no call hands out a byte for the second time, no two blocks overlap. -/
theorem pairwise_of_handsOutUnused (empty : run.blocks = [])
    (unused : ∀ earlier, earlier <+: requests → (run.retainAll earlier).HandsOutUnused) :
    (run.retainAll requests).blocks.Pairwise fun later earlier => ¬ later.Overlaps earlier := by
  induction requests using List.reverseRecOn with
  | nil =>
      rw [show (run.retainAll []).blocks = [] from empty]
      exact .nil
  | append_singleton requests request hypothesis =>
      have before := hypothesis fun earlier inside =>
        unused earlier (inside.trans (List.prefix_append _ _))
      have here := unused requests (List.prefix_append _ _) request
      have retains := (run.retainAll requests).retains request
      rw [retainAll_append]
      generalize (run.retainAll requests).retain request = after at here retains
      cases retains with
      | granted asked behind ends room onUnit =>
          exact List.pairwise_cons.mpr ⟨here _ rfl, before⟩
      | moved asked below starts => exact before
      | kept beyond => exact before

end Runs

/-- Which moves keep a heap from beginning below the address that it was made with, and which ones
keep it from handing out a byte twice. -/
structure Restarts (start limit : PhysicalAddress) (fresh : HeapRun) (requests : List HeapRequest) :
    Prop where
  firstStart_eq : (fresh.retainAll requests).heap.firstStart = start
  beginsAbove_iff : (∀ earlier, earlier <+: requests →
      start.toNat ≤ (fresh.retainAll earlier).heap.start.toNat) ↔ MovesAbove start limit requests
  handsOutUnused_iff : (∀ earlier, earlier <+: requests →
      (fresh.retainAll earlier).HandsOutUnused) ↔ fresh.MovesBehind limit requests
  apart : fresh.MovesBehind limit requests →
    (fresh.retainAll requests).blocks.Pairwise fun later earlier => ¬ later.Overlaps earlier

/-- A heap stays above the address that it was made with, and hands out no byte twice, exactly as
long as its start is not moved below the one, or below the end of what it has handed out. -/
theorem restarts_retainAll (start limit : PhysicalAddress) (aligned : start.toNat % 8 = 0)
    (ordered : start.toNat ≤ limit.toNat) :
    ∃ heap, BumpHeap.create start limit = .ok heap ∧
      ∀ requests, Restarts start limit ⟨heap, []⟩ requests := by
  have created : BumpHeap.create start limit = .ok ⟨start, start, start, limit⟩ :=
    (if_pos aligned).trans (if_pos ordered)
  have onUnit := Nat.dvd_of_mod_eq_zero aligned
  have bounded : (HeapRun.mk ⟨start, start, start, limit⟩ []).Bounded start limit :=
    ⟨rfl, rfl, ordered, .inl onUnit, by simp⟩
  have clear : (HeapRun.mk ⟨start, start, start, limit⟩ []).Clear := by
    intro block impossible
    cases impossible
  refine ⟨_, created, fun requests => ?_⟩
  have unusedIff : (∀ earlier, earlier <+: requests →
      ((HeapRun.mk ⟨start, start, start, limit⟩ []).retainAll earlier).HandsOutUnused) ↔
        (HeapRun.mk ⟨start, start, start, limit⟩ []).MovesBehind limit requests := by
    rw [← bounded.clear_iff clear]
    exact forall₂_congr fun earlier _ => (bounded.retainAll earlier).handsOutUnused_iff
  exact
    { firstStart_eq := (bounded.retainAll requests).firstStart_eq
      beginsAbove_iff := bounded.beginsAbove_iff onUnit ordered (Nat.le_refl _)
      handsOutUnused_iff := unusedIff
      apart := fun moves => pairwise_of_handsOutUnused rfl (unusedIff.mpr moves) }

/-- The start is moved back by one block.  The heap then begins below the address that it was made
with, and the next block takes in all of the first one. -/
theorem restarts_retainAll_movedBack :
    let requests : List HeapRequest := [.allocate 64, .setStart ⟨0x13FFC0⟩, .allocate 128]
    ∃ heap, BumpHeap.create ⟨0x140000⟩ ⟨0x200000⟩ = .ok heap ∧
      ∀ run, (HeapRun.mk heap []).retainAll requests = run →
        run.heap.start = ⟨0x13FFC0⟩ ∧ run.heap.firstStart = ⟨0x140000⟩ ∧
        run.blocks = [⟨0x13FFC0, 128⟩, ⟨0x140000, 64⟩] ∧
        ¬ MovesAbove ⟨0x140000⟩ ⟨0x200000⟩ requests ∧
        ¬ (HeapRun.mk heap []).MovesBehind ⟨0x200000⟩ requests := by
  intro requests
  obtain ⟨heap, created, restarts⟩ :=
    restarts_retainAll ⟨0x140000⟩ ⟨0x200000⟩ (by decide) (by decide)
  refine ⟨heap, created, ?_⟩
  rintro run rfl
  obtain ⟨_, rfl⟩ := BumpHeap.create_eq_ok created
  refine ⟨by decide, (restarts requests).firstStart_eq, by decide, ?_, ?_⟩
  · intro moves
    have begins := (restarts requests).beginsAbove_iff.mpr moves requests (List.prefix_refl _)
    revert begins
    decide
  · intro moves
    have apart := (restarts requests).apart moves
    have blocks : ((HeapRun.mk ⟨⟨0x140000⟩, ⟨0x140000⟩, ⟨0x140000⟩, ⟨0x200000⟩⟩ []).retainAll
        requests).blocks = [⟨0x13FFC0, 128⟩, ⟨0x140000, 64⟩] := by decide
    rw [blocks] at apart
    have overlaps : (⟨0x13FFC0, 128⟩ : Block).Overlaps ⟨0x140000, 64⟩ :=
      ⟨0x140000, by unfold Block.Contains; decide, by unfold Block.Contains; decide⟩
    exact (List.pairwise_cons.mp apart).1 _ (List.mem_singleton_self _) overlaps

end HeapRun

end Armv6Kernel
