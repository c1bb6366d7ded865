import Armv6Kernel.Descriptor.Slot

/-!
# Reading slots

A slot is read as a descriptor of a shape exactly if its word decodes as one, and it is empty
exactly if its two low bits are zero.
-/

namespace Armv6Kernel

theorem Descriptor.decode?_eq_some_iff {shape : Shape} {word : Word}
    {descriptor : Descriptor shape} :
    decode? shape word = some descriptor ↔
      word = descriptor.word ∧ word &&& shape.tagMask = shape.tag ∧
        word &&& shape.reservedMask = 0 := by
  rcases descriptor with ⟨own⟩
  simp only [decode?, isWellFormed, tagMatches, reservedClear, Bool.and_eq_true, beq_iff_eq]
  split
  · next wellFormed =>
      simp only [Option.some.injEq, Descriptor.mk.injEq, wellFormed, and_self, and_true]
  · next malformed =>
      constructor
      · intro impossible
        cases impossible
      · rintro ⟨-, wellFormed⟩
        exact absurd wellFormed malformed

/-- A word does not decode as a shape exactly if nothing of that shape is its meaning. -/
theorem Descriptor.decode?_eq_none_iff {shape : Shape} {word : Word} {Entry : Type}
    {entry : Entry} {ofShape : Descriptor shape → Entry}
    (agrees : ∀ descriptor, entry = ofShape descriptor ↔ decode? shape word = some descriptor) :
    decode? shape word = none ↔ ∀ descriptor, entry ≠ ofShape descriptor := by
  rw [Option.eq_none_iff_forall_ne_some]
  exact forall_congr' fun descriptor => not_congr (agrees descriptor).symm

namespace Slot

variable {level : TableLevel}

theorem tag_and (slot : Slot level) (mask : Word) :
    (slot.word &&& mask).extractLsb' 0 2 = slot.tag &&& mask.extractLsb' 0 2 := by
  apply BitVec.eq_of_getLsbD_eq
  intro index bound
  simp only [tag, BitVec.getLsbD_extractLsb', BitVec.getLsbD_and, bound, decide_true,
    Bool.true_and]

theorem tag_eq_of_and_eq {slot : Slot level} {expected : Word}
    (masked : slot.word &&& 0b11 = expected) : slot.tag = expected.extractLsb' 0 2 := by
  have cut := slot.tag_and 0b11
  rw [masked] at cut
  rw [cut]
  exact (BitVec.and_allOnes (x := slot.tag)).symm

theorem isFault_iff (slot : Slot level) : slot.isFault = true ↔ slot.tag = 0b00 := by
  rw [isFault, beq_iff_eq]

theorem isFault_of_word_zero {slot : Slot level} (zero : slot.word = 0) : slot.isFault = true := by
  rcases slot with ⟨word⟩
  cases zero
  rfl

/-! ## First-level slots -/

theorem firstLevelEntry_eq_fault_iff (slot : Slot .first) :
    slot.firstLevelEntry = .fault ↔ slot.isFault = true := by
  rw [isFault_iff]
  unfold firstLevelEntry
  by_cases fault : slot.tag = 0b00
  · simp only [fault, if_true]
  · rw [if_neg fault]
    refine ⟨fun read => ?_, fun empty => absurd empty fault⟩
    split at read
    · split at read <;> cases read
    · split at read
      · split at read <;> cases read
      · cases read

theorem firstLevelEntry_of_word_zero {slot : Slot .first} (zero : slot.word = 0) :
    slot.firstLevelEntry = .fault :=
  slot.firstLevelEntry_eq_fault_iff.mpr (isFault_of_word_zero zero)

theorem firstLevelEntry_eq_coarse_iff (slot : Slot .first) (pointer : CoarseTableDescriptor) :
    slot.firstLevelEntry = .coarse pointer ↔
      Descriptor.decode? .coarse slot.word = some pointer := by
  constructor
  · intro read
    unfold firstLevelEntry at read
    split at read
    · cases read
    · split at read
      · split at read
        · next decoded => cases read; exact decoded
        · cases read
      · split at read
        · split at read <;> cases read
        · cases read
  · intro decoded
    have tagged : slot.tag = 0b01 :=
      tag_eq_of_and_eq (Descriptor.decode?_eq_some_iff.mp decoded).2.1
    unfold firstLevelEntry
    rw [tagged, if_neg (by decide), if_pos rfl, decoded]

theorem firstLevelEntry_eq_section1M_iff (slot : Slot .first) (descriptor : SectionDescriptor) :
    slot.firstLevelEntry = .section1M descriptor ↔
      Descriptor.decode? (.mapping .section1M) slot.word = some descriptor := by
  constructor
  · intro read
    unfold firstLevelEntry at read
    split at read
    · cases read
    · split at read
      · split at read <;> cases read
      · split at read
        · split at read
          · next decoded => cases read; exact decoded
          · cases read
        · cases read
  · intro decoded
    have tagged : slot.tag = 0b10 :=
      tag_eq_of_and_eq (Descriptor.decode?_eq_some_iff.mp decoded).2.1
    unfold firstLevelEntry
    rw [tagged, if_neg (by decide), if_neg (by decide), if_pos rfl, decoded]

theorem eq_word_of_firstLevelEntry {slot : Slot .first} {word : Word}
    (read : slot.firstLevelEntry = .unsupported word) : word = slot.word := by
  unfold firstLevelEntry at read
  split at read
  · cases read
  · split at read
    · split at read
      · cases read
      · cases read
        rfl
    · split at read
      · split at read
        · cases read
        · cases read
          rfl
      · cases read
        rfl

/-- What is unsupported on the first level is all that is neither empty nor of one of the two
shapes. -/
theorem firstLevelEntry_eq_unsupported_iff (slot : Slot .first) (word : Word) :
    slot.firstLevelEntry = .unsupported word ↔
      word = slot.word ∧ slot.isFault = false ∧ Descriptor.decode? .coarse slot.word = none ∧
        Descriptor.decode? (.mapping .section1M) slot.word = none := by
  rw [← Bool.not_eq_true, ← firstLevelEntry_eq_fault_iff,
    Descriptor.decode?_eq_none_iff slot.firstLevelEntry_eq_coarse_iff,
    Descriptor.decode?_eq_none_iff slot.firstLevelEntry_eq_section1M_iff]
  rcases read : slot.firstLevelEntry with _ | pointer | descriptor | own
  · simp
  · simp
  · simp
  · simp [eq_word_of_firstLevelEntry read, eq_comm]

/-! ## Second-level slots -/

theorem secondLevelEntry_eq_fault_iff (slot : Slot .coarse) :
    slot.secondLevelEntry = .fault ↔ slot.isFault = true := by
  rw [isFault_iff]
  unfold secondLevelEntry
  by_cases fault : slot.tag = 0b00
  · simp only [fault, if_true]
  · rw [if_neg fault]
    refine ⟨fun read => ?_, fun empty => absurd empty fault⟩
    split at read
    · split at read <;> cases read
    · cases read

theorem secondLevelEntry_eq_page64K_iff (slot : Slot .coarse) (descriptor : LargePageDescriptor) :
    slot.secondLevelEntry = .page64K descriptor ↔
      Descriptor.decode? (.mapping .page64K) slot.word = some descriptor := by
  constructor
  · intro read
    unfold secondLevelEntry at read
    split at read
    · cases read
    · split at read
      · split at read
        · next decoded => cases read; exact decoded
        · cases read
      · cases read
  · intro decoded
    have tagged : slot.tag = 0b01 :=
      tag_eq_of_and_eq (Descriptor.decode?_eq_some_iff.mp decoded).2.1
    unfold secondLevelEntry
    rw [tagged, if_neg (by decide), if_pos rfl, decoded]

theorem tagMatches_page4K_iff (slot : Slot .coarse) :
    slot.word &&& 0b10 = 0b10 ↔ slot.tag ≠ 0b00 ∧ slot.tag ≠ 0b01 := by
  have single : slot.word &&& 0b10 = if slot.word.getLsbD 1 then 0b10 else 0 :=
    BitVec.and_twoPow slot.word 1
  have tagBit : slot.tag.getLsbD 1 = slot.word.getLsbD 1 := by
    simp only [tag, BitVec.getLsbD_extractLsb', Nat.reduceLT, Nat.reduceAdd, decide_true,
      Bool.true_and]
  have pairs : ∀ bits : BitVec 2, bits.getLsbD 1 = true ↔ bits ≠ 0b00 ∧ bits ≠ 0b01 := by decide
  rw [← pairs slot.tag, tagBit, single]
  cases slot.word.getLsbD 1 <;> decide

theorem secondLevelEntry_eq_page4K_iff (slot : Slot .coarse) (descriptor : SmallPageDescriptor) :
    slot.secondLevelEntry = .page4K descriptor ↔
      Descriptor.decode? (.mapping .page4K) slot.word = some descriptor := by
  have tagged := slot.tagMatches_page4K_iff
  rw [Descriptor.decode?_eq_some_iff]
  constructor
  · intro read
    unfold secondLevelEntry at read
    split at read
    · cases read
    · next notEmpty =>
        split at read
        · split at read <;> cases read
        · next notLarge =>
            cases read
            exact ⟨rfl, tagged.mpr ⟨notEmpty, notLarge⟩, BitVec.and_zero⟩
  · rintro ⟨own, matched, -⟩
    obtain ⟨notEmpty, notLarge⟩ := tagged.mp matched
    unfold secondLevelEntry
    rw [if_neg notEmpty, if_neg notLarge, own]

theorem eq_word_of_secondLevelEntry {slot : Slot .coarse} {word : Word}
    (read : slot.secondLevelEntry = .unsupported word) : word = slot.word := by
  unfold secondLevelEntry at read
  split at read
  · cases read
  · split at read
    · split at read
      · cases read
      · cases read
        rfl
    · cases read

/-- What is unsupported on the second level is all that is neither empty nor a page. -/
theorem secondLevelEntry_eq_unsupported_iff (slot : Slot .coarse) (word : Word) :
    slot.secondLevelEntry = .unsupported word ↔
      word = slot.word ∧ slot.isFault = false ∧
        Descriptor.decode? (.mapping .page4K) slot.word = none ∧
        Descriptor.decode? (.mapping .page64K) slot.word = none := by
  rw [← Bool.not_eq_true, ← secondLevelEntry_eq_fault_iff,
    Descriptor.decode?_eq_none_iff slot.secondLevelEntry_eq_page4K_iff,
    Descriptor.decode?_eq_none_iff slot.secondLevelEntry_eq_page64K_iff]
  rcases read : slot.secondLevelEntry with _ | descriptor | descriptor | own
  · simp
  · simp
  · simp
  · simp [eq_word_of_secondLevelEntry read, eq_comm]

end Slot

end Armv6Kernel
