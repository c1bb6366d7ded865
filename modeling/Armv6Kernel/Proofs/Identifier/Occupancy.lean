import Armv6Kernel.Identifier.Pool

/-!
# Which identifiers are in use

Handing out an identifier sets its bit and taking it back clears the bit.  All other bits stay, the
count follows, and taking back what was just handed out restores the pool.
-/

namespace Armv6Kernel

section Counting

variable {before after : Nat → Bool} {place : Nat}

theorem countP_range_of_same (same : ∀ other, other ≠ place → after other = before other)
    {bound : Nat} (above : bound ≤ place) :
    (List.range bound).countP after = (List.range bound).countP before := by
  apply List.countP_congr
  intro other member
  have below := List.mem_range.mp member
  rw [same other (by omega)]

/-- Setting one place below the bound raises the count by one. -/
theorem countP_range_set (same : ∀ other, other ≠ place → after other = before other)
    (was : before place = false) (now : after place = true) {bound : Nat}
    (below : place < bound) :
    (List.range bound).countP after = (List.range bound).countP before + 1 := by
  induction bound with
  | zero => exact absurd below (Nat.not_lt_zero _)
  | succ bound ih =>
      rw [List.range_succ, List.countP_append, List.countP_append, List.countP_singleton,
        List.countP_singleton]
      by_cases last : place = bound
      · subst last
        rw [countP_range_of_same same (Nat.le_refl _), was, now]
        rfl
      · have earlier := ih (by omega)
        rw [earlier, same bound (Ne.symm last)]
        omega

theorem countP_range_lt (reserved bound : Nat) :
    (List.range bound).countP (fun other => decide (other < reserved)) = min bound reserved := by
  induction bound with
  | zero => exact (Nat.zero_min reserved).symm
  | succ bound ih =>
      rw [List.range_succ, List.countP_append, List.countP_singleton, ih]
      by_cases below : bound < reserved
      · rw [if_pos (decide_eq_true below)]
        omega
      · rw [if_neg (by simpa using below)]
        omega

end Counting

namespace IdentifierPool

variable {pool rest : IdentifierPool} {identifier : Nat}

theorem getLsbD_bit (below : identifier < maxCapacity) (other : Nat) :
    (bit identifier).getLsbD other = decide (other = identifier) := by
  simp only [maxCapacity] at below
  rw [bit, BitVec.getLsbD_shiftLeft]
  by_cases same : other = identifier
  · subst same
    simp [below]
  · rcases Nat.lt_or_gt_of_ne same with earlier | later
    · simp [earlier, same]
    · have apart : other - identifier ≠ 0 := by omega
      simp [same, BitVec.getLsbD_one, apart]

/-- The pool with one identifier more in use. -/
def take (pool : IdentifierPool) (identifier : Nat) : IdentifierPool :=
  { pool with inUse := pool.inUse ||| bit identifier }

/-- The pool with one identifier less in use. -/
def drop (pool : IdentifierPool) (identifier : Nat) : IdentifierPool :=
  { pool with inUse := pool.inUse &&& ~~~bit identifier }

theorem getLsbD_take (below : identifier < maxCapacity) (other : Nat) :
    (pool.take identifier).inUse.getLsbD other =
      (pool.inUse.getLsbD other || decide (other = identifier)) := by
  rw [take, BitVec.getLsbD_or, getLsbD_bit below]

theorem getLsbD_drop (below : identifier < maxCapacity) (other : Nat) :
    (pool.drop identifier).inUse.getLsbD other =
      (pool.inUse.getLsbD other && !decide (other = identifier)) := by
  rw [drop, BitVec.getLsbD_and, BitVec.getLsbD_not, getLsbD_bit below]
  by_cases inside : other < 256
  · simp only [inside, decide_true, Bool.true_and]
  · have outside : pool.inUse.getLsbD other = false := BitVec.getLsbD_of_ge _ _ (by omega)
    simp only [outside, Bool.false_and]

theorem drop_take (below : identifier < maxCapacity)
    (free : pool.inUse.getLsbD identifier = false) :
    (pool.take identifier).drop identifier = pool := by
  have same : ((pool.take identifier).drop identifier).inUse = pool.inUse := by
    apply BitVec.eq_of_getLsbD_eq
    intro other _
    rw [getLsbD_drop below, getLsbD_take below]
    by_cases here : other = identifier
    · rw [here, free]
      simp only [decide_true, Bool.not_true, Bool.and_false]
    · simp only [here, decide_false, Bool.or_false, Bool.not_false, Bool.and_true]
  cases pool
  exact congrArg _ same

theorem allocatedCount_take (below : identifier < maxCapacity)
    (free : pool.inUse.getLsbD identifier = false) :
    (pool.take identifier).allocatedCount = pool.allocatedCount + 1 := by
  have same : ∀ other, other ≠ identifier →
      (pool.take identifier).inUse.getLsbD other = pool.inUse.getLsbD other := by
    intro other different
    rw [getLsbD_take below]
    simp only [different, decide_false, Bool.or_false]
  have now : (pool.take identifier).inUse.getLsbD identifier = true := by
    rw [getLsbD_take below]
    simp only [decide_true, Bool.or_true]
  exact countP_range_set same free now below

theorem allocatedCount_drop (below : identifier < maxCapacity)
    (occupied : pool.inUse.getLsbD identifier = true) :
    (pool.drop identifier).allocatedCount + 1 = pool.allocatedCount := by
  have same : ∀ other, other ≠ identifier →
      pool.inUse.getLsbD other = (pool.drop identifier).inUse.getLsbD other := by
    intro other different
    rw [getLsbD_drop below]
    simp only [different, decide_false, Bool.not_false, Bool.and_true]
  have was : (pool.drop identifier).inUse.getLsbD identifier = false := by
    rw [getLsbD_drop below]
    simp only [decide_true, Bool.not_true, Bool.and_false]
  exact (countP_range_set same was occupied below).symm

/-- The least identifier below the capacity that is not in use. -/
structure Offers (pool : IdentifierPool) (identifier : Nat) : Prop where
  below : identifier < pool.capacity
  free : pool.inUse.getLsbD identifier = false
  least : ∀ other < identifier, pool.inUse.getLsbD other = true

/-- Every identifier below the capacity is in use. -/
def Full (pool : IdentifierPool) : Prop :=
  ∀ other < pool.capacity, pool.inUse.getLsbD other = true

theorem Full.not_offers (full : pool.Full) (identifier : Nat) : ¬ pool.Offers identifier := by
  intro offers
  have occupied := full identifier offers.below
  rw [offers.free] at occupied
  cases occupied

theorem getLsbD_take_of_occupied (fits : pool.capacity ≤ maxCapacity)
    (offers : pool.Offers identifier) {other : Nat} (occupied : pool.inUse.getLsbD other = true) :
    (pool.take identifier).inUse.getLsbD other = true := by
  have inBitmap : identifier < maxCapacity := Nat.lt_of_lt_of_le offers.below fits
  rw [getLsbD_take inBitmap, occupied, Bool.true_or]

theorem allocate_cases (pool : IdentifierPool) :
    (∃ identifier, pool.Offers identifier ∧
      pool.allocate = .ok (identifier, pool.take identifier)) ∨
    (pool.Full ∧ pool.allocate = .error (.exhausted pool.capacity)) := by
  unfold allocate firstFree?
  rcases found : (List.range pool.capacity).find? (fun other => !pool.inUse.getLsbD other) with
    _ | identifier
  · right
    rw [List.find?_eq_none] at found
    refine ⟨fun other below => ?_, rfl⟩
    simpa using found other (List.mem_range.mpr below)
  · left
    obtain ⟨free, below, least⟩ := List.find?_range_eq_some.mp found
    refine ⟨identifier, ⟨List.mem_range.mp below, ?_, fun other earlier => ?_⟩, rfl⟩
    · simpa using free
    · simpa using least other earlier

/-- An identifier in use can be taken back. -/
theorem free_of_occupied (below : identifier < pool.capacity)
    (occupied : pool.inUse.getLsbD identifier = true) :
    pool.free identifier = .ok (pool.drop identifier) := by
  have known : ¬ pool.capacity ≤ identifier := Nat.not_le.mpr below
  unfold free
  rw [if_neg known, if_pos]
  · rfl
  · simp only [isAllocated, below, decide_true, occupied, Bool.and_self]

theorem free_eq_ok {rest : IdentifierPool} (freed : pool.free identifier = .ok rest) :
    rest = pool.drop identifier := by
  unfold free at freed
  split at freed
  · cases freed
  · split at freed
    · cases freed
      rfl
    · cases freed

/-- Taking back what was just handed out restores the pool. -/
theorem free_take (fits : pool.capacity ≤ maxCapacity) (offers : pool.Offers identifier) :
    (pool.take identifier).free identifier = .ok pool := by
  have inBitmap : identifier < maxCapacity := Nat.lt_of_lt_of_le offers.below fits
  have occupied : (pool.take identifier).inUse.getLsbD identifier = true := by
    rw [getLsbD_take inBitmap]
    simp only [decide_true, Bool.or_true]
  have known : identifier < (pool.take identifier).capacity := offers.below
  rw [free_of_occupied known occupied, drop_take inBitmap offers.free]

/-- A new pool has exactly the reserved identifiers in use. -/
theorem create_eq_ok {reserved capacity : Nat} (created : create reserved capacity = .ok pool) :
    reserved ≤ capacity ∧ capacity ≤ maxCapacity ∧ pool.capacity = capacity ∧
      (∀ other, pool.inUse.getLsbD other = decide (other < reserved)) ∧
      pool.allocatedCount = reserved := by
  unfold create at created
  split at created
  · next fits =>
      split at created
      · next reservable =>
          cases created
          have bits : ∀ other,
              (BitVec.allOnes 256 >>> (maxCapacity - reserved)).getLsbD other =
                decide (other < reserved) := by
            intro other
            simp only [maxCapacity] at fits ⊢
            rw [BitVec.getLsbD_ushiftRight, BitVec.getLsbD_allOnes]
            apply decide_eq_decide.mpr
            omega
          refine ⟨reservable, fits, rfl, bits, ?_⟩
          rw [allocatedCount, funext bits, countP_range_lt]
          omega
      · cases created
  · cases created

end IdentifierPool

end Armv6Kernel
