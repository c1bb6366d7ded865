import Armv6Kernel.Proofs.Identifier.Occupancy
import Armv6Kernel.Proofs.Identifier.WordSearch
import Mathlib.Data.Finset.Max

/-!
# Pools as finite sets

A pool behaves as the finite set of the identifiers in use.  So does the same pool kept word by
word, and the two answer every sequence of requests alike.
-/

namespace Armv6Kernel

/-- What a pool of identifiers can be asked. -/
inductive IdentifierRequest where
  | allocate
  | free (identifier : Nat)
  | isAllocated (identifier : Nat)
  | allocatedCount
  deriving DecidableEq, Repr

inductive IdentifierAnswer where
  | granted (identifier : Nat)
  | freed
  | inUse (holds : Bool)
  | count (number : Nat)
  | refused (cause : IdentifierError)
  deriving DecidableEq, Repr

/-- The answers to a sequence of requests and the state after them. -/
def IdentifierRequest.answerAll {σ : Type} (serve : σ → IdentifierRequest → IdentifierAnswer × σ) :
    σ → List IdentifierRequest → List IdentifierAnswer × σ
  | state, [] => ([], state)
  | state, request :: later =>
      let (answer, next) := serve state request
      let (answers, final) := answerAll serve next later
      (answer :: answers, final)

/-- The rules for a set of identifiers below a capacity.  The least one outside the set is handed
out, and a request that is refused leaves the set alone. -/
def IdentifierSet.serve (capacity : Nat) (inUse : Finset Nat) :
    IdentifierRequest → IdentifierAnswer × Finset Nat
  | .allocate =>
      match (Finset.range capacity \ inUse).min with
      | some least => (.granted least, insert least inUse)
      | none => (.refused (.exhausted capacity), inUse)
  | .free identifier =>
      if capacity ≤ identifier then
        (.refused (.outOfRange identifier capacity), inUse)
      else if identifier ∈ inUse then
        (.freed, inUse.erase identifier)
      else
        (.refused (.notAllocated identifier), inUse)
  | .isAllocated identifier => (.inUse (decide (identifier ∈ inUse)), inUse)
  | .allocatedCount => (.count inUse.card, inUse)

/-- A way to keep a pool: its operations, and the bits that say which identifiers are in use. -/
structure IdentifierKeeper (σ : Type) where
  capacity : σ → Nat
  bits : σ → Nat → Bool
  allocate : σ → Except IdentifierError (Nat × σ)
  free : σ → Nat → Except IdentifierError σ
  isAllocated : σ → Nat → Bool
  allocatedCount : σ → Nat

namespace IdentifierKeeper

variable {σ : Type} {keeper : IdentifierKeeper σ} {state : σ} {capacity identifier : Nat}
  {inUse : Finset Nat}

def serve (keeper : IdentifierKeeper σ) (state : σ) : IdentifierRequest → IdentifierAnswer × σ
  | .allocate =>
      match keeper.allocate state with
      | .ok (identifier, next) => (.granted identifier, next)
      | .error cause => (.refused cause, state)
  | .free identifier =>
      match keeper.free state identifier with
      | .ok next => (.freed, next)
      | .error cause => (.refused cause, state)
  | .isAllocated identifier => (.inUse (keeper.isAllocated state identifier), state)
  | .allocatedCount => (.count (keeper.allocatedCount state), state)

/-- One bit differs between two states, and it has the given value afterwards. -/
structure Sets (keeper : IdentifierKeeper σ) (before after : σ) (identifier : Nat)
    (value : Bool) : Prop where
  capacity : keeper.capacity after = keeper.capacity before
  changed : keeper.bits after identifier = value
  others : ∀ other ≠ identifier, keeper.bits after other = keeper.bits before other

/-- The operations read and change the bits in the right way. -/
structure Lawful (keeper : IdentifierKeeper σ) : Prop where
  allocate_cases : ∀ state, keeper.capacity state ≤ IdentifierPool.maxCapacity →
    (∃ identifier next, keeper.allocate state = .ok (identifier, next) ∧
      identifier < keeper.capacity state ∧ keeper.bits state identifier = false ∧
      (∀ other < identifier, keeper.bits state other = true) ∧
      keeper.Sets state next identifier true) ∨
    (keeper.allocate state = .error (.exhausted (keeper.capacity state)) ∧
      ∀ other < keeper.capacity state, keeper.bits state other = true)
  free_beyond : ∀ state identifier, keeper.capacity state ≤ identifier →
    keeper.free state identifier = .error (.outOfRange identifier (keeper.capacity state))
  free_idle : ∀ state identifier, identifier < keeper.capacity state →
    keeper.bits state identifier = false →
      keeper.free state identifier = .error (.notAllocated identifier)
  free_occupied : ∀ state identifier, keeper.capacity state ≤ IdentifierPool.maxCapacity →
    identifier < keeper.capacity state → keeper.bits state identifier = true →
      ∃ next, keeper.free state identifier = .ok next ∧ keeper.Sets state next identifier false
  isAllocated_eq : ∀ state identifier, keeper.isAllocated state identifier =
    (decide (identifier < keeper.capacity state) && keeper.bits state identifier)
  allocatedCount_eq : ∀ state, keeper.allocatedCount state =
    (List.range IdentifierPool.maxCapacity).countP (keeper.bits state)

/-- The state stands for a set of identifiers below a capacity. -/
structure Represents (keeper : IdentifierKeeper σ) (state : σ) (capacity : Nat)
    (inUse : Finset Nat) : Prop where
  capacity_eq : keeper.capacity state = capacity
  fits : capacity ≤ IdentifierPool.maxCapacity
  mem_iff : ∀ identifier, keeper.bits state identifier = true ↔ identifier ∈ inUse
  below : ∀ identifier ∈ inUse, identifier < capacity

namespace Represents

theorem not_mem (represents : keeper.Represents state capacity inUse)
    (free : keeper.bits state identifier = false) : identifier ∉ inUse := by
  intro member
  rw [← represents.mem_iff, free] at member
  cases member

/-- What the rules answer when an identifier is free and all lesser ones are in use. -/
theorem serve_of_least (represents : keeper.Represents state capacity inUse)
    (below : identifier < capacity) (free : keeper.bits state identifier = false)
    (least : ∀ other < identifier, keeper.bits state other = true) :
    IdentifierSet.serve capacity inUse .allocate =
      (.granted identifier, insert identifier inUse) := by
  have member : identifier ∈ Finset.range capacity \ inUse :=
    Finset.mem_sdiff.mpr ⟨Finset.mem_range.mpr below, represents.not_mem free⟩
  have minimal : (Finset.range capacity \ inUse).min = some identifier := by
    apply le_antisymm
    · exact Finset.min_le member
    · apply Finset.le_min
      intro other candidate
      obtain ⟨-, absent⟩ := Finset.mem_sdiff.mp candidate
      apply WithTop.coe_le_coe.mpr
      by_contra before
      exact absent ((represents.mem_iff other).mp (least other (Nat.not_le.mp before)))
  simp only [IdentifierSet.serve, minimal]

/-- What the rules answer when no identifier is free. -/
theorem serve_of_full (represents : keeper.Represents state capacity inUse)
    (full : ∀ other < capacity, keeper.bits state other = true) :
    IdentifierSet.serve capacity inUse .allocate = (.refused (.exhausted capacity), inUse) := by
  have nothing : Finset.range capacity \ inUse = ∅ := by
    apply Finset.sdiff_eq_empty_iff_subset.mpr
    intro other member
    exact (represents.mem_iff other).mp (full other (Finset.mem_range.mp member))
  have minimal : (Finset.range capacity \ inUse).min = none := by
    rw [nothing]
    rfl
  simp only [IdentifierSet.serve, minimal]

theorem insert {next : σ} (represents : keeper.Represents state capacity inUse)
    (below : identifier < capacity) (sets : keeper.Sets state next identifier true) :
    keeper.Represents next capacity (insert identifier inUse) where
  capacity_eq := sets.capacity.trans represents.capacity_eq
  fits := represents.fits
  mem_iff other := by
    rw [Finset.mem_insert]
    by_cases same : other = identifier
    · simp only [same, sets.changed, true_or]
    · rw [sets.others other same, represents.mem_iff]
      simp only [same, false_or]
  below other member := by
    obtain rfl | former := Finset.mem_insert.mp member
    · exact below
    · exact represents.below other former

theorem erase {next : σ} (represents : keeper.Represents state capacity inUse)
    (sets : keeper.Sets state next identifier false) :
    keeper.Represents next capacity (inUse.erase identifier) where
  capacity_eq := sets.capacity.trans represents.capacity_eq
  fits := represents.fits
  mem_iff other := by
    rw [Finset.mem_erase]
    by_cases same : other = identifier
    · simp only [same, sets.changed, Bool.false_eq_true, ne_eq, not_true_eq_false, false_and]
    · rw [sets.others other same, represents.mem_iff]
      simp only [ne_eq, same, not_false_eq_true, true_and]
  below other member := represents.below other (Finset.mem_of_mem_erase member)

theorem decide_mem (represents : keeper.Represents state capacity inUse) (identifier : Nat) :
    (decide (identifier < capacity) && keeper.bits state identifier) =
      decide (identifier ∈ inUse) := by
  apply Bool.eq_iff_iff.mpr
  rw [Bool.and_eq_true, decide_eq_true_iff, decide_eq_true_iff, represents.mem_iff]
  constructor
  · exact And.right
  · intro member
    exact ⟨represents.below identifier member, member⟩

/-- The number of set bits is the size of the set. -/
theorem countP_eq_card (represents : keeper.Represents state capacity inUse) :
    (List.range IdentifierPool.maxCapacity).countP (keeper.bits state) = inUse.card := by
  have same :
      inUse = ((List.range IdentifierPool.maxCapacity).filter (keeper.bits state)).toFinset := by
    ext other
    rw [List.mem_toFinset, List.mem_filter, List.mem_range, represents.mem_iff]
    constructor
    · intro member
      exact ⟨Nat.lt_of_lt_of_le (represents.below other member) represents.fits, member⟩
    · exact And.right
  rw [List.countP_eq_length_filter, same, List.toFinset_card_of_nodup]
  exact List.nodup_range.filter _

/-- A request changes the state and the set alike and gets the same answer. -/
theorem serve (lawful : keeper.Lawful) (represents : keeper.Represents state capacity inUse)
    (request : IdentifierRequest) :
    (keeper.serve state request).1 = (IdentifierSet.serve capacity inUse request).1 ∧
      keeper.Represents (keeper.serve state request).2 capacity
        (IdentifierSet.serve capacity inUse request).2 := by
  have capacity_eq := represents.capacity_eq
  have fits : keeper.capacity state ≤ IdentifierPool.maxCapacity :=
    Nat.le_trans (Nat.le_of_eq capacity_eq) represents.fits
  cases request with
  | allocate =>
      rcases lawful.allocate_cases state fits with
        ⟨identifier, next, allocated, below, free, least, sets⟩ | ⟨allocated, full⟩
      · rw [capacity_eq] at below
        rw [represents.serve_of_least below free least, IdentifierKeeper.serve, allocated]
        exact ⟨rfl, represents.insert below sets⟩
      · rw [capacity_eq] at allocated full
        rw [represents.serve_of_full full, IdentifierKeeper.serve, allocated]
        exact ⟨rfl, represents⟩
  | free identifier =>
      rw [IdentifierKeeper.serve, IdentifierSet.serve]
      by_cases beyond : capacity ≤ identifier
      · rw [if_pos beyond, lawful.free_beyond state identifier (capacity_eq ▸ beyond), capacity_eq]
        exact ⟨rfl, represents⟩
      · have below : identifier < keeper.capacity state := by omega
        rw [if_neg beyond]
        by_cases member : identifier ∈ inUse
        · have occupied := (represents.mem_iff identifier).mpr member
          obtain ⟨next, freed, sets⟩ := lawful.free_occupied state identifier fits below occupied
          rw [if_pos member, freed]
          exact ⟨rfl, represents.erase sets⟩
        · have idle : keeper.bits state identifier = false := by
            rw [← Bool.not_eq_true, represents.mem_iff]
            exact member
          rw [if_neg member, lawful.free_idle state identifier below idle]
          exact ⟨rfl, represents⟩
  | isAllocated identifier =>
      rw [IdentifierKeeper.serve, IdentifierSet.serve, lawful.isAllocated_eq, capacity_eq,
        represents.decide_mem]
      exact ⟨rfl, represents⟩
  | allocatedCount =>
      rw [IdentifierKeeper.serve, IdentifierSet.serve, lawful.allocatedCount_eq,
        represents.countP_eq_card]
      exact ⟨rfl, represents⟩

/-- A sequence of requests gets the answers that the rules give. -/
theorem answerAll (lawful : keeper.Lawful) (represents : keeper.Represents state capacity inUse)
    (requests : List IdentifierRequest) :
    (IdentifierRequest.answerAll keeper.serve state requests).1 =
        (IdentifierRequest.answerAll (IdentifierSet.serve capacity) inUse requests).1 ∧
      keeper.Represents (IdentifierRequest.answerAll keeper.serve state requests).2 capacity
        (IdentifierRequest.answerAll (IdentifierSet.serve capacity) inUse requests).2 := by
  induction requests generalizing state inUse with
  | nil => exact ⟨rfl, represents⟩
  | cons request later ih =>
      obtain ⟨answer, next⟩ := represents.serve lawful request
      obtain ⟨answers, final⟩ := ih next
      rw [IdentifierRequest.answerAll, IdentifierRequest.answerAll]
      exact ⟨congrArg₂ List.cons answer answers, final⟩

end Represents

end IdentifierKeeper

/-! ## The bitmap -/

namespace IdentifierPool

def keeper : IdentifierKeeper IdentifierPool where
  capacity := IdentifierPool.capacity
  bits pool := pool.inUse.getLsbD
  allocate := allocate
  free := free
  isAllocated := isAllocated
  allocatedCount := allocatedCount

variable {pool : IdentifierPool} {identifier : Nat}

theorem sets_take (inBitmap : identifier < maxCapacity) :
    keeper.Sets pool (pool.take identifier) identifier true where
  capacity := rfl
  changed := by
    change (pool.take identifier).inUse.getLsbD identifier = true
    rw [getLsbD_take inBitmap, decide_eq_true rfl, Bool.or_true]
  others other different := by
    change (pool.take identifier).inUse.getLsbD other = pool.inUse.getLsbD other
    rw [getLsbD_take inBitmap, decide_eq_false different, Bool.or_false]

theorem sets_drop (inBitmap : identifier < maxCapacity) :
    keeper.Sets pool (pool.drop identifier) identifier false where
  capacity := rfl
  changed := by
    change (pool.drop identifier).inUse.getLsbD identifier = false
    rw [getLsbD_drop inBitmap, decide_eq_true rfl, Bool.not_true, Bool.and_false]
  others other different := by
    change (pool.drop identifier).inUse.getLsbD other = pool.inUse.getLsbD other
    rw [getLsbD_drop inBitmap, decide_eq_false different, Bool.not_false, Bool.and_true]

theorem lawful_keeper : keeper.Lawful where
  allocate_cases pool fits := by
    rcases pool.allocate_cases with ⟨identifier, offers, allocated⟩ | ⟨full, allocated⟩
    · have inBitmap : identifier < maxCapacity := Nat.lt_of_lt_of_le offers.below fits
      exact .inl ⟨identifier, _, allocated, offers.below, offers.free, offers.least,
        sets_take inBitmap⟩
    · exact .inr ⟨allocated, full⟩
  free_beyond pool identifier beyond := if_pos beyond
  free_idle pool identifier below idle := by
    have inside : ¬ pool.capacity ≤ identifier := Nat.not_le.mpr below
    have clear : pool.inUse.getLsbD identifier = false := idle
    have unallocated : pool.isAllocated identifier = false := by
      rw [isAllocated, clear, Bool.and_false]
    change pool.free identifier = _
    rw [free, if_neg inside, unallocated]
    rfl
  free_occupied pool identifier fits below occupied :=
    ⟨_, free_of_occupied below occupied, sets_drop (Nat.lt_of_lt_of_le below fits)⟩
  isAllocated_eq pool identifier := rfl
  allocatedCount_eq pool := rfl

end IdentifierPool

/-! ## The words -/

namespace IdentifierWords

def keeper : IdentifierKeeper IdentifierWords where
  capacity := IdentifierWords.capacity
  bits state := bitAt state.words.toList
  allocate := allocate
  free := free
  isAllocated := isAllocated
  allocatedCount := allocatedCount

variable {state : IdentifierWords} {identifier : Nat}

theorem sets_mark (inBitmap : identifier < 4 * wordBits) :
    keeper.Sets state { state with words := mark state.words identifier } identifier true where
  capacity := rfl
  changed := by
    change bitAt (mark state.words identifier).toList identifier = true
    rw [bitAt_mark state.words inBitmap, decide_eq_true rfl, Bool.or_true]
  others other different := by
    change bitAt (mark state.words identifier).toList other = bitAt state.words.toList other
    rw [bitAt_mark state.words inBitmap, decide_eq_false different, Bool.or_false]

theorem sets_clear (inBitmap : identifier < 4 * wordBits) :
    keeper.Sets state
      { state with words := onWord state.words identifier (· &&& ~~~mask identifier) }
      identifier false where
  capacity := rfl
  changed := by
    change bitAt (onWord state.words identifier _).toList identifier = false
    rw [bitAt_clear state.words inBitmap, decide_eq_true rfl, Bool.not_true, Bool.and_false]
  others other different := by
    change bitAt (onWord state.words identifier _).toList other = bitAt state.words.toList other
    rw [bitAt_clear state.words inBitmap, decide_eq_false different, Bool.not_false,
      Bool.and_true]

theorem isAllocated_eq (state : IdentifierWords) (identifier : Nat) :
    state.isAllocated identifier =
      (decide (identifier < state.capacity) && bitAt state.words.toList identifier) := by
  rw [isAllocated, and_mask_ne_zero, bitAt_toList]

theorem lawful_keeper : keeper.Lawful where
  allocate_cases state fits := by
    have searched := search_cases state.capacity 0 state.words.toList
    simp only [Nat.zero_mul, Nat.zero_add, Vector.length_toList] at searched
    rcases searched with ⟨identifier, found, below, clear, least⟩ | ⟨none, set⟩
    · have inBitmap : identifier < 4 * wordBits := Nat.lt_of_lt_of_le below fits
      have allocated : state.allocate =
          .ok (identifier, { state with words := mark state.words identifier }) := by
        rw [allocate, found]
      exact .inl ⟨identifier, _, allocated, below, clear, least, sets_mark inBitmap⟩
    · have allocated : state.allocate = .error (.exhausted state.capacity) := by
        rw [allocate, none]
      refine .inr ⟨allocated, fun other below => ?_⟩
      exact set other (Nat.lt_of_lt_of_le below fits) below
  free_beyond state identifier beyond := if_pos beyond
  free_idle state identifier below idle := by
    have inside : ¬ state.capacity ≤ identifier := Nat.not_le.mpr below
    have clear : bitAt state.words.toList identifier = false := idle
    have unallocated : state.isAllocated identifier = false := by
      rw [isAllocated_eq, clear, Bool.and_false]
    change state.free identifier = _
    rw [free, if_neg inside, unallocated]
    rfl
  free_occupied state identifier fits below occupied := by
    have inside : ¬ state.capacity ≤ identifier := Nat.not_le.mpr below
    have set : bitAt state.words.toList identifier = true := occupied
    have allocated : state.isAllocated identifier = true := by
      rw [isAllocated_eq, set, Bool.and_true]
      exact decide_eq_true below
    refine ⟨_, ?_, sets_clear (Nat.lt_of_lt_of_le below fits)⟩
    change state.free identifier = _
    rw [free, if_neg inside, if_pos allocated]
  isAllocated_eq := isAllocated_eq
  allocatedCount_eq state := by
    change state.allocatedCount = _
    rw [allocatedCount, foldr_ones, Vector.length_toList]
    rfl

end IdentifierWords

/-! ## Both from the start -/

section Start

variable {reserved capacity : Nat}

theorem IdentifierKeeper.Represents.start {σ : Type} {keeper : IdentifierKeeper σ} {state : σ}
    (capacity_eq : keeper.capacity state = capacity)
    (marked : ∀ other, keeper.bits state other = decide (other < reserved))
    (reservable : reserved ≤ capacity) (fits : capacity ≤ IdentifierPool.maxCapacity) :
    keeper.Represents state capacity (Finset.range reserved) where
  capacity_eq := capacity_eq
  fits := fits
  mem_iff other := by rw [marked, decide_eq_true_iff, Finset.mem_range]
  below other member := Nat.lt_of_lt_of_le (Finset.mem_range.mp member) reservable

theorem IdentifierPool.represents_create (reservable : reserved ≤ capacity)
    (fits : capacity ≤ maxCapacity) :
    ∃ pool, create reserved capacity = .ok pool ∧
      keeper.Represents pool capacity (Finset.range reserved) := by
  have created : create reserved capacity =
      .ok ⟨capacity, BitVec.allOnes 256 >>> (maxCapacity - reserved)⟩ := by
    rw [create, if_pos fits, if_pos reservable]
  obtain ⟨-, -, capacity_eq, marked, -⟩ := create_eq_ok created
  exact ⟨_, created, .start capacity_eq marked reservable fits⟩

theorem IdentifierWords.represents_create (reservable : reserved ≤ capacity)
    (fits : capacity ≤ IdentifierPool.maxCapacity) :
    ∃ state, create reserved capacity = .ok state ∧
      keeper.Represents state capacity (Finset.range reserved) := by
  have inWords : capacity ≤ 4 * wordBits := fits
  have created : create reserved capacity =
      .ok ⟨capacity, (List.range reserved).foldl mark (.replicate 4 0)⟩ := by
    rw [create, if_pos inWords, if_pos reservable]
  have marked := bitAt_marked (Nat.le_trans reservable inWords)
  exact ⟨_, created, .start rfl marked reservable fits⟩

/-- A new pool answers every sequence of requests as the set of the reserved identifiers does, and
still stands for that set afterwards.  The same pool kept word by word gives the same answers. -/
theorem IdentifierPool.answers_as_set (reservable : reserved ≤ capacity)
    (fits : capacity ≤ maxCapacity) (requests : List IdentifierRequest) :
    let expected := IdentifierRequest.answerAll (IdentifierSet.serve capacity)
      (Finset.range reserved) requests
    ∃ pool words, create reserved capacity = .ok pool ∧
      IdentifierWords.create reserved capacity = .ok words ∧
      (IdentifierRequest.answerAll keeper.serve pool requests).1 = expected.1 ∧
      keeper.Represents (IdentifierRequest.answerAll keeper.serve pool requests).2 capacity
        expected.2 ∧
      (IdentifierRequest.answerAll IdentifierWords.keeper.serve words requests).1 =
        expected.1 ∧
      IdentifierWords.keeper.Represents
        (IdentifierRequest.answerAll IdentifierWords.keeper.serve words requests).2 capacity
        expected.2 := by
  obtain ⟨pool, created, represents⟩ := represents_create reservable fits
  obtain ⟨words, wordsCreated, wordsRepresent⟩ :=
    IdentifierWords.represents_create reservable fits
  obtain ⟨answers, final⟩ := represents.answerAll lawful_keeper requests
  obtain ⟨wordsAnswers, wordsFinal⟩ :=
    wordsRepresent.answerAll IdentifierWords.lawful_keeper requests
  exact ⟨pool, words, created, wordsCreated, answers, final, wordsAnswers, wordsFinal⟩

/-- One identifier of two is reserved.  It is given back and handed out again, and then the pool is
exhausted. -/
theorem IdentifierPool.answers_as_set_reused :
    ∃ pool words, create 1 2 = .ok pool ∧ IdentifierWords.create 1 2 = .ok words ∧
      (IdentifierRequest.answerAll keeper.serve pool
        [.allocate, .free 2, .free 0, .free 0, .allocate, .allocate, .allocatedCount]).1 =
        [.granted 1, .refused (.outOfRange 2 2), .freed, .refused (.notAllocated 0), .granted 0,
          .refused (.exhausted 2), .count 2] := by
  obtain ⟨pool, words, created, wordsCreated, answers, -, -, -⟩ :=
    answers_as_set (by decide : 1 ≤ 2) (by decide)
      [.allocate, .free 2, .free 0, .free 0, .allocate, .allocate, .allocatedCount]
  exact ⟨pool, words, created, wordsCreated, answers⟩

end Start

end Armv6Kernel
