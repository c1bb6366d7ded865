import Armv6Kernel.Proofs.Heap.Cursor

/-!
# What the bump heap hands out

A bump heap serves requests for blocks and is now and then moved to another start.  This module
states each of its calls in numbers that no word bounds: which requests panic, which are granted,
and where the block lies.  Over any run of calls the cursor then stays between the start and the
limit, and the blocks handed out since the last move lie apart from one another, between the start
and the cursor.
-/

namespace Armv6Kernel

namespace BumpHeap

/-! ## One call -/

/-- How a request for a block ends.  The only panic is that of a bad alignment, so no addition on
the way to the block overflows. -/
structure Allocates (heap : BumpHeap) (bytes alignment : Word)
    (ending : Outcome Empty (Option PhysicalAddress) × BumpHeap) : Prop where
  panics_iff : ∀ cause, ending.1 = .panic cause ↔
    cause = .alignmentNotPowerOfTwo alignment ∧ ¬ alignment.toNat.isPowerOfTwo
  grants_iff : (∃ address, ending.1 = .value (some address)) ↔
    alignment.toNat.isPowerOfTwo ∧ heap.place alignment + size bytes ≤ heap.limit.toNat
  granted : ∀ address, ending.1 = .value (some address) → ∃ stop : PhysicalAddress,
    address.toNat = heap.place alignment ∧ stop.toNat = heap.place alignment + size bytes ∧
      ending.2 = { heap with next := stop }
  refused : (∀ address, ending.1 ≠ .value (some address)) → ending.2 = heap

/-- How a move of the start ends. -/
structure Moves (heap : BumpHeap) (address : PhysicalAddress)
    (ending : Outcome Empty Unit × BumpHeap) : Prop where
  panics_iff : ∀ cause, ending.1 = .panic cause ↔
    cause = .heapStartBeyondLimit address heap.limit ∧ heap.limit.toNat < address.toNat
  moved : ending.1 = .value () → ∃ start : PhysicalAddress,
    start.toNat = min (roundUp address.toNat 8) heap.limit.toNat ∧
      ending.2 = { heap with start, next := start }
  refused : ending.1 ≠ .value () → ending.2 = heap

theorem allocates (heap : BumpHeap) (bytes alignment : Word) :
    Allocates heap bytes alignment ((allocateAligned bytes alignment).effect heap) := by
  have limitBound := heap.limit.toNat_lt
  rw [effect_allocateAligned]
  by_cases power : alignment.toNat.isPowerOfTwo
  · rw [if_pos ((isPowerOfTwo_iff alignment).mpr power)]
    by_cases room : heap.place alignment + size bytes ≤ heap.limit.toNat
    · have exact : ∀ number ≤ heap.place alignment + size bytes,
          (Address.ofNat number : PhysicalAddress).toNat = number := by
        intro number below
        rw [Address.toNat_ofNat, Nat.mod_eq_of_lt (by omega)]
      rw [if_pos room]
      constructor
      · simp [power]
      · simp [power, room]
      · rintro address ⟨rfl⟩
        exact ⟨_, exact _ (Nat.le_add_right _ _), exact _ (Nat.le_refl _), rfl⟩
      · intro refusal
        exact absurd rfl (refusal _)
    · rw [if_neg room]
      constructor
      · simp [power]
      · simp [room]
      · rintro address ⟨⟩
      · intro _
        rfl
  · have refused : ¬ isPowerOfTwo alignment = true :=
      fun accepted => power ((isPowerOfTwo_iff alignment).mp accepted)
    rw [if_neg refused]
    constructor
    · intro cause
      simp [power, eq_comm]
    · simp [power]
    · rintro address ⟨⟩
    · intro _
      rfl

theorem toNat_movedStart (heap : BumpHeap) (address : PhysicalAddress) :
    (heap.movedStart address).toNat = min (roundUp address.toNat 8) heap.limit.toNat := by
  have limitBound := heap.limit.toNat_lt
  have aligned : alignUp? address.word minAlignment =
      if roundUp address.toNat 8 < 0x100000000 then
        some (BitVec.ofNat 32 (roundUp address.toNat 8))
      else none := alignUp?_eq ⟨3, rfl⟩ address.word
  unfold movedStart
  rw [aligned]
  by_cases inside : roundUp address.toNat 8 < 0x100000000
  · have exact : (BitVec.ofNat 32 (roundUp address.toNat 8) : Word).toNat =
        roundUp address.toNat 8 := by
      rw [BitVec.toNat_ofNat, Nat.mod_eq_of_lt inside]
    rw [if_pos inside]
    simp only [exact]
    split
    · next below =>
        rw [Nat.min_eq_left below]
        exact exact
    · omega
  · rw [if_neg inside]
    simp only
    omega

theorem effect_setStart (address : PhysicalAddress) (heap : BumpHeap) :
    (setStart address).effect heap =
      if address.toNat ≤ heap.limit.toNat then
        (.value (), { heap with
          start := heap.movedStart address, next := heap.movedStart address })
      else
        (.panic (.heapStartBeyondLimit address heap.limit), heap) := by
  by_cases below : address.toNat ≤ heap.limit.toNat
  · simp [setStart, below]
  · simp [setStart, below]

theorem moves (heap : BumpHeap) (address : PhysicalAddress) :
    Moves heap address ((setStart address).effect heap) := by
  rw [effect_setStart]
  by_cases below : address.toNat ≤ heap.limit.toNat
  · rw [if_pos below]
    constructor
    · simp [below]
    · intro _
      exact ⟨heap.movedStart address, heap.toNat_movedStart address, rfl⟩
    · intro stopped
      exact absurd rfl stopped
  · rw [if_neg below]
    constructor
    · intro cause
      simp [eq_comm, Nat.lt_of_not_le below]
    · rintro ⟨⟩
    · intro _
      rfl

end BumpHeap

/-! ## Runs of calls -/

/-- A call of a bump heap. -/
inductive HeapRequest where
  | allocate (bytes : Word)
  | allocateAligned (bytes alignment : Word)
  | setStart (address : PhysicalAddress)
  deriving DecidableEq, Repr

/-- A heap with the blocks that it has handed out since its start was last moved, the last one
first. -/
structure HeapRun where
  heap : BumpHeap
  blocks : List Block
  deriving DecidableEq, Repr

namespace HeapRun

/-- The run after a request for a block has ended. -/
def afterAllocation (run : HeapRun) (bytes : Word) :
    Outcome Empty (Option PhysicalAddress) × BumpHeap → HeapRun
  | (.value (some address), heap) =>
      ⟨heap, ⟨address.toNat, BumpHeap.size bytes⟩ :: run.blocks⟩
  | (_, heap) => ⟨heap, run.blocks⟩

/-- The run after a move of the start has ended. -/
def afterMove (run : HeapRun) : Outcome Empty Unit × BumpHeap → HeapRun
  | (.value (), heap) => ⟨heap, []⟩
  | (_, heap) => ⟨heap, run.blocks⟩

/-- One call.  A run goes on after a call that fails or panics, with the heap that the call left. -/
def next (run : HeapRun) : HeapRequest → HeapRun
  | .allocate bytes => run.afterAllocation bytes ((BumpHeap.allocate bytes).effect run.heap)
  | .allocateAligned bytes alignment =>
      run.afterAllocation bytes ((BumpHeap.allocateAligned bytes alignment).effect run.heap)
  | .setStart address => run.afterMove ((BumpHeap.setStart address).effect run.heap)

/-- A sequence of calls. -/
def nextAll (run : HeapRun) (requests : List HeapRequest) : HeapRun :=
  requests.foldl next run

/-- The cursor lies between the start and the limit, and the blocks lie apart below it. -/
structure Orderly (limit : PhysicalAddress) (run : HeapRun) : Prop where
  limit_eq : run.heap.limit = limit
  start_le : run.heap.start.toNat ≤ run.heap.next.toNat
  next_le : run.heap.next.toNat ≤ limit.toNat
  apart : run.blocks.Pairwise Block.Apart
  inside : ∀ block ∈ run.blocks, run.heap.start.toNat ≤ block.start ∧
    block.start + block.bytes ≤ run.heap.next.toNat

section Runs

variable {limit : PhysicalAddress} {run : HeapRun}

/-- A block that is handed out lies behind the cursor, and so behind every block before it. -/
theorem Orderly.afterAllocation (orderly : run.Orderly limit) {bytes alignment : Word}
    {ending : Outcome Empty (Option PhysicalAddress) × BumpHeap}
    (allocates : run.heap.Allocates bytes alignment ending) :
    (run.afterAllocation bytes ending).Orderly limit := by
  obtain ⟨outcome, heap⟩ := ending
  have unchanged : (∀ address, outcome ≠ .value (some address)) →
      (HeapRun.mk heap run.blocks).Orderly limit := by
    intro refusal
    rw [show heap = run.heap from allocates.refused refusal]
    exact orderly
  rcases outcome with (_ | address) | cause | cause
  · exact unchanged (by simp)
  · have room := (allocates.grants_iff.mp ⟨address, rfl⟩).2
    obtain ⟨stop, starts, stops, rfl⟩ := allocates.granted address rfl
    have behind : run.heap.next.toNat ≤ address.toNat := by
      rw [starts]
      exact run.heap.le_place alignment
    have ends : address.toNat + BumpHeap.size bytes = stop.toNat := by rw [starts, stops]
    have risen : run.heap.next.toNat ≤ stop.toNat := by omega
    rw [orderly.limit_eq, ← stops] at room
    exact {
      limit_eq := orderly.limit_eq
      start_le := Nat.le_trans orderly.start_le risen
      next_le := room
      apart := List.pairwise_cons.mpr ⟨fun earlier member =>
        .inr (Nat.le_trans (orderly.inside earlier member).2 behind), orderly.apart⟩
      inside := by
        intro block member
        rcases List.mem_cons.mp member with rfl | earlier
        · exact ⟨Nat.le_trans orderly.start_le behind, Nat.le_of_eq ends⟩
        · obtain ⟨above, below⟩ := orderly.inside block earlier
          exact ⟨above, Nat.le_trans below risen⟩ }
  · exact cause.elim
  · exact unchanged (by simp)

theorem Orderly.afterMove (orderly : run.Orderly limit) {address : PhysicalAddress}
    {ending : Outcome Empty Unit × BumpHeap} (moves : run.heap.Moves address ending) :
    (run.afterMove ending).Orderly limit := by
  obtain ⟨outcome, heap⟩ := ending
  rcases outcome with ⟨⟩ | cause | cause
  · obtain ⟨start, starts, rfl⟩ := moves.moved rfl
    rw [orderly.limit_eq] at starts
    have below : start.toNat ≤ limit.toNat := by omega
    exact ⟨orderly.limit_eq, Nat.le_refl _, below, .nil, fun _ impossible => by cases impossible⟩
  · exact cause.elim
  · rw [show heap = run.heap from moves.refused (by simp)]
    exact orderly

theorem Orderly.next (orderly : run.Orderly limit) (request : HeapRequest) :
    (run.next request).Orderly limit := by
  cases request with
  | allocate bytes => exact orderly.afterAllocation (run.heap.allocates bytes _)
  | allocateAligned bytes alignment =>
      exact orderly.afterAllocation (run.heap.allocates bytes alignment)
  | setStart address => exact orderly.afterMove (run.heap.moves address)

theorem Orderly.nextAll (orderly : run.Orderly limit) (requests : List HeapRequest) :
    (run.nextAll requests).Orderly limit := by
  induction requests generalizing run with
  | nil => exact orderly
  | cons request requests hypothesis => exact hypothesis (orderly.next request)

theorem Orderly.toNat_remaining (orderly : run.Orderly limit) :
    run.heap.remaining.toNat = limit.toNat - run.heap.next.toNat := by
  have ordered : run.heap.next.word ≤ run.heap.limit.word := by
    rw [orderly.limit_eq]
    exact orderly.next_le
  rw [BumpHeap.remaining, BitVec.toNat_sub_of_le ordered, orderly.limit_eq]
  rfl

end Runs

/-- What a heap with a limit does next, wherever a run of calls has left it. -/
structure Exact (limit : PhysicalAddress) (run : HeapRun) : Prop extends run.Orderly limit where
  remaining : run.heap.remaining.toNat = limit.toNat - run.heap.next.toNat
  allocateAligned : ∀ bytes alignment, run.heap.Allocates bytes alignment
    ((BumpHeap.allocateAligned bytes alignment).effect run.heap)
  allocate : ∀ bytes, run.heap.Allocates bytes BumpHeap.minAlignment
    ((BumpHeap.allocate bytes).effect run.heap)
  setStart : ∀ address, run.heap.Moves address ((BumpHeap.setStart address).effect run.heap)

/-- A heap hands out exactly what fits before its limit, and never the same byte twice, in any run
of calls. -/
theorem exact_nextAll (start limit : PhysicalAddress) (aligned : start.toNat % 8 = 0)
    (ordered : start.toNat ≤ limit.toNat) :
    ∃ heap, BumpHeap.create start limit = .ok heap ∧
      ∀ requests, ((HeapRun.mk heap []).nextAll requests).Exact limit := by
  have created : BumpHeap.create start limit = .ok ⟨start, start, start, limit⟩ :=
    (if_pos aligned).trans (if_pos ordered)
  have fresh : (HeapRun.mk ⟨start, start, start, limit⟩ []).Orderly limit :=
    ⟨rfl, Nat.le_refl _, ordered, .nil, by simp⟩
  refine ⟨_, created, fun requests => ?_⟩
  have orderly := fresh.nextAll requests
  exact ⟨orderly, orderly.toNat_remaining, BumpHeap.allocates _,
    fun bytes => BumpHeap.allocates _ bytes _, BumpHeap.moves _⟩

/-- A heap at the end of the address space.  A request with an alignment of 24 panics, one whose
size cannot be rounded up fails, and so does a move beyond the limit; the blocks around them are
handed out. -/
theorem exact_nextAll_at_the_end :
    ∃ heap, BumpHeap.create ⟨0xFFFFFF00⟩ ⟨0xFFFFFFFC⟩ = .ok heap ∧
      ∀ run, (HeapRun.mk heap []).nextAll [.allocate 12, .allocateAligned 4 24,
          .allocate 0xFFFFFFFF, .setStart ⟨0xFFFFFFFE⟩, .allocateAligned 20 64] = run →
        run.Exact ⟨0xFFFFFFFC⟩ ∧ run.heap.next.toNat = 0xFFFFFF58 ∧
          run.blocks = [⟨0xFFFFFF40, 24⟩, ⟨0xFFFFFF00, 16⟩] ∧
          (run.next (.setStart ⟨0xFFFFFFF9⟩)).heap.start = ⟨0xFFFFFFFC⟩ := by
  obtain ⟨heap, created, exact⟩ :=
    exact_nextAll ⟨0xFFFFFF00⟩ ⟨0xFFFFFFFC⟩ (by decide) (by decide)
  refine ⟨heap, created, ?_⟩
  rintro run rfl
  obtain ⟨_, rfl⟩ := BumpHeap.create_eq_ok created
  exact ⟨exact _, by decide, by decide, by decide⟩

end HeapRun

end Armv6Kernel
