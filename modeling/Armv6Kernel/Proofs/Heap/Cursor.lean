import Armv6Kernel.Heap.Arena
import Armv6Kernel.Heap.Bump
import Armv6Kernel.Proofs.Effect.Ending
import Armv6Kernel.Proofs.Heap.Rounding

/-!
# Sources with a cursor

The arena and the bump heap hand out blocks in the order of their addresses.  Both keep a cursor,
below which everything has been handed out, and a limit that the cursor never passes.  This module
states what an allocation does in these terms: for blocks of any size that the cursor only moves
forward over the block, and for tables exactly when there is room and where the table lies.
-/

namespace Armv6Kernel

/-- A run of bytes. -/
structure Block where
  start : Nat
  bytes : Nat
  deriving DecidableEq, Repr

/-- No byte lies in both blocks. -/
def Block.Apart (first second : Block) : Prop :=
  first.start + first.bytes ≤ second.start ∨ second.start + second.bytes ≤ first.start

theorem Block.Apart.symm {first second : Block} (apart : first.Apart second) :
    second.Apart first :=
  Or.symm apart

/-- There is room for an aligned table between a cursor and a limit. -/
def TableLevel.Fits (level : TableLevel) (cursor limit : Nat) : Prop :=
  roundUp cursor level.bytes + level.bytes ≤ limit

instance (level : TableLevel) (cursor limit : Nat) : Decidable (level.Fits cursor limit) :=
  inferInstanceAs (Decidable (_ ≤ _))

/-- A source that hands out one block after the other, up to a limit. -/
class CursorSource (A : Type) [TableSource A] where
  /-- The first byte that has not been handed out. -/
  cursor : A → Word
  /-- One past the last byte that may be handed out. -/
  limit : A → Word
  /-- The source with its cursor at another place. -/
  moveTo : Word → A → A
  cursor_moveTo : ∀ place source, cursor (moveTo place source) = place
  limit_moveTo : ∀ place source, limit (moveTo place source) = limit source
  /-- An allocation that hands out a block moves the cursor over it; any other changes nothing. -/
  allocate_cases : ∀ bytes alignment source,
    (∃ start stop : Word,
      (TableSource.allocate bytes alignment).effect source =
        (.value (some ⟨start⟩), moveTo stop source) ∧
      (cursor source).toNat ≤ start.toNat ∧ start.toNat + bytes.toNat ≤ stop.toNat ∧
      stop.toNat ≤ (limit source).toNat) ∨
    ((∀ address,
      ((TableSource.allocate bytes alignment).effect source).1 ≠ .value (some address)) ∧
      ((TableSource.allocate bytes alignment).effect source).2 = source)
  /-- A table is handed out exactly if there is room for it. -/
  allocate_table : ∀ (level : TableLevel) source,
    (TableSource.allocate (BitVec.ofNat 32 level.bytes) (BitVec.ofNat 32 level.bytes)).effect
        source =
      if level.Fits (cursor source).toNat (limit source).toNat then
        (.value (some (.ofNat (roundUp (cursor source).toNat level.bytes))),
          moveTo (BitVec.ofNat 32 (roundUp (cursor source).toNat level.bytes + level.bytes)) source)
      else
        (.value none, source)

namespace TableLevel

theorem bytes_pos (level : TableLevel) : 0 < level.bytes := by
  cases level <;> decide

theorem toNat_bytes (level : TableLevel) : (BitVec.ofNat 32 level.bytes).toNat = level.bytes := by
  cases level <;> rfl

theorem isPowerOfTwo_bytes (level : TableLevel) :
    (BitVec.ofNat 32 level.bytes).toNat.isPowerOfTwo := by
  cases level
  · exact ⟨14, rfl⟩
  · exact ⟨10, rfl⟩

theorem dvd_roundUp (level : TableLevel) (place : Nat) :
    roundUp place level.bytes % level.bytes = 0 :=
  Nat.mod_eq_zero_of_dvd (Armv6Kernel.dvd_roundUp place level.bytes)

theorem le_roundUp (level : TableLevel) (place : Nat) : place ≤ roundUp place level.bytes :=
  Armv6Kernel.le_roundUp level.bytes_pos place

/-- There is room for a table exactly if some aligned block lies between the cursor and the
limit. -/
theorem fits_iff (level : TableLevel) (cursor limit : Nat) :
    level.Fits cursor limit ↔ ∃ start, start % level.bytes = 0 ∧ cursor ≤ start ∧
      start + level.bytes ≤ limit := by
  constructor
  · intro fits
    exact ⟨roundUp cursor level.bytes, level.dvd_roundUp cursor, level.le_roundUp cursor, fits⟩
  · rintro ⟨start, aligned, above, below⟩
    have nearest := roundUp_le level.bytes_pos (Nat.dvd_of_mod_eq_zero aligned) above
    exact Nat.le_trans (Nat.add_le_add_right nearest _) below

/-- The end of the next table is found by checked operations exactly if it is an address. -/
theorem nextTable_eq (level : TableLevel) (place : Word) :
    ((alignUp? place (BitVec.ofNat 32 level.bytes)).bind fun start =>
      (checkedAdd? start (BitVec.ofNat 32 level.bytes)).bind fun stop => some (start, stop)) =
      if roundUp place.toNat level.bytes + level.bytes < 0x100000000 then
        some (BitVec.ofNat 32 (roundUp place.toNat level.bytes),
          BitVec.ofNat 32 (roundUp place.toNat level.bytes + level.bytes))
      else none := by
  rw [alignedBlock_eq level.isPowerOfTwo_bytes, toNat_bytes]

end TableLevel

/-! ## The arena -/

namespace Arena

theorem ofRange_eq_ok {base length : Word} {arena : Arena}
    (ranged : ofRange base length = .ok arena) :
    ∃ stop, PhysicalMemory.windowEnd base length = .ok stop ∧
      arena = ⟨⟨base⟩, base, stop.word⟩ := by
  unfold ofRange at ranged
  rcases ends : PhysicalMemory.windowEnd base length with cause | stop
  · rw [ends] at ranged
    cases ranged
  · rw [ends] at ranged
    cases ranged
    exact ⟨stop, rfl, rfl⟩

theorem effect_allocateAligned (bytes alignment : Word) (arena : Arena) :
    (allocateAligned bytes alignment).effect arena =
      if alignment = 0 then (.panic .subtractionOverflow, arena)
      else
        match arena.nextBlock? bytes alignment with
        | none => (.value none, arena)
        | some (start, stop) => (.value (some ⟨start⟩), { arena with next := stop }) := by
  unfold allocateAligned
  by_cases zero : alignment = 0
  · subst zero
    rfl
  · have nonzero : (alignment != 0) = true := bne_iff_ne.mpr zero
    simp only [Action.effect_bind, Action.effect_assert, nonzero, if_true, Action.effect_get,
      if_neg zero]
    rcases arena.nextBlock? bytes alignment with _ | ⟨start, stop⟩ <;> rfl

theorem nextBlock?_bounds {arena : Arena} {bytes alignment start stop : Word}
    (positive : 0 < alignment.toNat)
    (found : arena.nextBlock? bytes alignment = some (start, stop)) :
    arena.next.toNat ≤ start.toNat ∧ start.toNat + bytes.toNat ≤ stop.toNat ∧
      stop.toNat ≤ arena.limit.toNat := by
  simp only [nextBlock?, Option.bind_eq_bind, Option.bind_eq_some_iff] at found
  obtain ⟨aligned, rounded, last, added, ended⟩ := found
  split at ended
  · next below =>
      cases ended
      have sum := toNat_of_checkedAdd? added
      exact ⟨le_of_alignUp? positive rounded, by omega, below⟩
  · cases ended

theorem nextBlock?_table (arena : Arena) (level : TableLevel) :
    arena.nextBlock? (BitVec.ofNat 32 level.bytes) (BitVec.ofNat 32 level.bytes) =
      if level.Fits arena.next.toNat arena.limit.toNat then
        some (BitVec.ofNat 32 (roundUp arena.next.toNat level.bytes),
          BitVec.ofNat 32 (roundUp arena.next.toNat level.bytes + level.bytes))
      else none := by
  have limitBound := arena.limit.isLt
  have next := level.nextTable_eq arena.next
  unfold nextBlock?
  simp only [Option.bind_eq_bind] at next ⊢
  by_cases inside : roundUp arena.next.toNat level.bytes + level.bytes < 0x100000000
  · rw [if_pos inside] at next
    obtain ⟨start, rounded, rest⟩ := Option.bind_eq_some_iff.mp next
    obtain ⟨stop, added, pair⟩ := Option.bind_eq_some_iff.mp rest
    cases pair
    rw [rounded, Option.bind_some, added, Option.bind_some, BitVec.toNat_ofNat,
      Nat.mod_eq_of_lt inside]
    rfl
  · have noRoom : ¬ level.Fits arena.next.toNat arena.limit.toNat := by
      unfold TableLevel.Fits
      omega
    rw [if_neg inside] at next
    rw [if_neg noRoom]
    rcases rounded : alignUp? arena.next (BitVec.ofNat 32 level.bytes) with _ | start
    · rfl
    · rw [rounded, Option.bind_some] at next
      rcases added : checkedAdd? start (BitVec.ofNat 32 level.bytes) with _ | stop
      · simp only [Option.bind_some, added, Option.bind_none]
      · rw [added] at next
        cases next

theorem allocate_cases (bytes alignment : Word) (arena : Arena) :
    (∃ start stop : Word, (allocateAligned bytes alignment).effect arena =
        (.value (some ⟨start⟩), { arena with next := stop }) ∧
      arena.next.toNat ≤ start.toNat ∧ start.toNat + bytes.toNat ≤ stop.toNat ∧
      stop.toNat ≤ arena.limit.toNat) ∨
    ((∀ address, ((allocateAligned bytes alignment).effect arena).1 ≠ .value (some address)) ∧
      ((allocateAligned bytes alignment).effect arena).2 = arena) := by
  rw [effect_allocateAligned]
  by_cases zero : alignment = 0
  · rw [if_pos zero]
    exact .inr ⟨fun address impossible => (by cases impossible), rfl⟩
  · rw [if_neg zero]
    rcases found : arena.nextBlock? bytes alignment with _ | ⟨start, stop⟩
    · exact .inr ⟨fun address impossible => (by cases impossible), rfl⟩
    · have positive : 0 < alignment.toNat := by
        apply Nat.pos_of_ne_zero
        intro equal
        exact zero (BitVec.eq_of_toNat_eq equal)
      exact .inl ⟨start, stop, rfl, nextBlock?_bounds positive found⟩

theorem allocate_table (level : TableLevel) (arena : Arena) :
    (allocateAligned (BitVec.ofNat 32 level.bytes) (BitVec.ofNat 32 level.bytes)).effect arena =
      if level.Fits arena.next.toNat arena.limit.toNat then
        (.value (some (.ofNat (roundUp arena.next.toNat level.bytes))),
          { arena with
            next := BitVec.ofNat 32 (roundUp arena.next.toNat level.bytes + level.bytes) })
      else
        (.value none, arena) := by
  have positive : BitVec.ofNat 32 level.bytes ≠ 0 := by cases level <;> decide
  rw [effect_allocateAligned, if_neg positive, nextBlock?_table]
  by_cases fits : level.Fits arena.next.toNat arena.limit.toNat
  · rw [if_pos fits, if_pos fits]
    rfl
  · rw [if_neg fits, if_neg fits]

end Arena

instance : CursorSource Arena where
  cursor := Arena.next
  limit := Arena.limit
  moveTo place arena := { arena with next := place }
  cursor_moveTo _ _ := rfl
  limit_moveTo _ _ := rfl
  allocate_cases := Arena.allocate_cases
  allocate_table := Arena.allocate_table

/-! ## The bump heap -/

namespace BumpHeap

theorem create_eq_ok {start limit : PhysicalAddress} {heap : BumpHeap}
    (created : create start limit = .ok heap) :
    start.toNat ≤ limit.toNat ∧ heap = ⟨start, start, start, limit⟩ := by
  unfold create at created
  split at created
  · split at created
    · next ordered =>
        cases created
        exact ⟨ordered, rfl⟩
    · cases created
  · cases created

theorem isPowerOfTwo_iff (word : Word) :
    isPowerOfTwo word = true ↔ word.toNat.isPowerOfTwo := by
  by_cases zero : word = 0
  · subst zero
    exact ⟨fun impossible => absurd impossible (by decide),
      fun power => absurd (Nat.pos_of_isPowerOfTwo power) (by decide)⟩
  · have nonzero : word.toNat ≠ 0 := fun equal => zero (BitVec.eq_of_toNat_eq equal)
    have mask : word &&& (word - 1) = 0 ↔ word.toNat &&& word.toNat - 1 = 0 := by
      rw [← toNat_sub_one (Nat.pos_of_ne_zero nonzero), ← BitVec.toNat_and]
      exact ⟨fun equal => by rw [equal]; rfl, fun equal => BitVec.eq_of_toNat_eq equal⟩
    rw [← Nat.and_sub_one_eq_zero_iff_isPowerOfTwo nonzero, ← mask]
    simp only [isPowerOfTwo, Bool.and_eq_true, bne_iff_ne, beq_iff_eq, ne_eq, zero,
      not_false_eq_true, true_and]

/-- The alignment that a request for a block is served with. -/
def servedAlignment (alignment : Word) : Word :=
  if alignment.toNat < minAlignment.toNat then minAlignment else alignment

theorem toNat_servedAlignment (alignment : Word) :
    (servedAlignment alignment).toNat = max alignment.toNat 8 := by
  have least : minAlignment.toNat = 8 := rfl
  unfold servedAlignment
  split <;> omega

theorem isPowerOfTwo_servedAlignment {alignment : Word} (power : alignment.toNat.isPowerOfTwo) :
    (servedAlignment alignment).toNat.isPowerOfTwo := by
  unfold servedAlignment
  split
  · exact ⟨3, rfl⟩
  · exact power

/-- The first byte of the block that a heap would hand out next. -/
def place (heap : BumpHeap) (alignment : Word) : Nat :=
  roundUp heap.next.toNat (max alignment.toNat 8)

/-- The number of bytes that a block takes up. -/
def size (bytes : Word) : Nat :=
  roundUp bytes.toNat 8

theorem le_place (heap : BumpHeap) (alignment : Word) :
    heap.next.toNat ≤ heap.place alignment :=
  le_roundUp (by omega) heap.next.toNat

theorem le_size (bytes : Word) : bytes.toNat ≤ size bytes :=
  le_roundUp (by omega) bytes.toNat

/-- The checked operations that place a block fail exactly if it does not end at an address. -/
theorem nextBlock?_eq {alignment : Word} (power : alignment.toNat.isPowerOfTwo) (heap : BumpHeap)
    (bytes : Word) :
    heap.nextBlock? bytes (servedAlignment alignment) =
      if heap.place alignment + size bytes < 0x100000000 then
        some (BitVec.ofNat 32 (heap.place alignment),
          BitVec.ofNat 32 (heap.place alignment + size bytes))
      else none := by
  have sized : alignUp? bytes minAlignment =
      if size bytes < 0x100000000 then some (BitVec.ofNat 32 (size bytes)) else none :=
    alignUp?_eq ⟨3, rfl⟩ bytes
  have block := alignedBlock_eq (isPowerOfTwo_servedAlignment power) heap.next.word
    (BitVec.ofNat 32 (size bytes))
  unfold nextBlock?
  rw [sized]
  by_cases fits : size bytes < 0x100000000
  · rw [toNat_servedAlignment, BitVec.toNat_ofNat, Nat.mod_eq_of_lt fits] at block
    rw [if_pos fits]
    exact block
  · rw [if_neg fits, if_neg (by omega)]
    rfl

/-- The checks on words grant a request exactly if the block ends before the limit. -/
theorem effect_allocateAligned (bytes alignment : Word) (heap : BumpHeap) :
    (allocateAligned bytes alignment).effect heap =
      if isPowerOfTwo alignment then
        if heap.place alignment + size bytes ≤ heap.limit.toNat then
          (.value (some (.ofNat (heap.place alignment))),
            { heap with next := .ofNat (heap.place alignment + size bytes) })
        else (.value none, heap)
      else (.panic (.alignmentNotPowerOfTwo alignment), heap) := by
  have limitBound := heap.limit.toNat_lt
  unfold allocateAligned
  by_cases power : isPowerOfTwo alignment = true
  · simp only [Action.effect_bind, Action.effect_assert, power, if_true, Action.effect_get]
    change Action.effect (match heap.nextBlock? bytes (servedAlignment alignment) with
      | none => _
      | some (base, stop) => _) heap = _
    rw [nextBlock?_eq ((isPowerOfTwo_iff alignment).mp power)]
    by_cases inside : heap.place alignment + size bytes < 0x100000000
    · simp only [if_pos inside, BitVec.toNat_ofNat, Nat.mod_eq_of_lt inside]
      by_cases room : heap.place alignment + size bytes ≤ heap.limit.toNat
      · simp only [if_pos room]
        rfl
      · simp only [if_neg room]
        rfl
    · have noRoom : ¬ heap.place alignment + size bytes ≤ heap.limit.toNat := by omega
      rw [if_neg inside, if_neg noRoom]
      rfl
  · simp only [Action.effect_bind, Action.effect_assert, if_neg power]

theorem allocate_cases (bytes alignment : Word) (heap : BumpHeap) :
    (∃ start stop : Word, (allocateAligned bytes alignment).effect heap =
        (.value (some ⟨start⟩), { heap with next := ⟨stop⟩ }) ∧
      heap.next.toNat ≤ start.toNat ∧ start.toNat + bytes.toNat ≤ stop.toNat ∧
      stop.toNat ≤ heap.limit.toNat) ∨
    ((∀ address, ((allocateAligned bytes alignment).effect heap).1 ≠ .value (some address)) ∧
      ((allocateAligned bytes alignment).effect heap).2 = heap) := by
  have limitBound := heap.limit.toNat_lt
  have above := heap.le_place alignment
  have large := le_size bytes
  rw [effect_allocateAligned]
  by_cases power : isPowerOfTwo alignment = true
  · by_cases room : heap.place alignment + size bytes ≤ heap.limit.toNat
    · rw [if_pos power, if_pos room]
      refine .inl ⟨_, _, rfl, ?_, ?_, ?_⟩ <;> simp only [BitVec.toNat_ofNat] <;> omega
    · rw [if_pos power, if_neg room]
      exact .inr ⟨fun address impossible => (by cases impossible), rfl⟩
  · rw [if_neg power]
    exact .inr ⟨fun address impossible => (by cases impossible), rfl⟩

theorem allocate_table (level : TableLevel) (heap : BumpHeap) :
    (allocateAligned (BitVec.ofNat 32 level.bytes) (BitVec.ofNat 32 level.bytes)).effect heap =
      if level.Fits heap.next.toNat heap.limit.toNat then
        (.value (some (.ofNat (roundUp heap.next.toNat level.bytes))),
          { heap with
            next := .ofNat (roundUp heap.next.toNat level.bytes + level.bytes) })
      else
        (.value none, heap) := by
  have power := (isPowerOfTwo_iff (BitVec.ofNat 32 level.bytes)).mpr level.isPowerOfTwo_bytes
  have sized : size (BitVec.ofNat 32 level.bytes) = level.bytes := by cases level <;> rfl
  have placed : heap.place (BitVec.ofNat 32 level.bytes) = roundUp heap.next.toNat level.bytes := by
    cases level <;> rfl
  rw [effect_allocateAligned, if_pos power, sized, placed]
  rfl

end BumpHeap

instance : CursorSource BumpHeap where
  cursor heap := heap.next.word
  limit heap := heap.limit.word
  moveTo place heap := { heap with next := ⟨place⟩ }
  cursor_moveTo _ _ := rfl
  limit_moveTo _ _ := rfl
  allocate_cases := BumpHeap.allocate_cases
  allocate_table := BumpHeap.allocate_table

theorem BumpHeap.start_moveTo (place : Word) (heap : BumpHeap) :
    (CursorSource.moveTo place heap).start = heap.start := rfl

theorem BumpHeap.limit_moveTo (place : Word) (heap : BumpHeap) :
    (CursorSource.moveTo place heap).limit = heap.limit := rfl

end Armv6Kernel
