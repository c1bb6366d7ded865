/-!
# Machine words and the fields inside them

Registers, translation-table entries and memory cells are all 32-bit words.  A `BitField` names a
run of bits; `get` reads it, `put` replaces it and leaves every other bit alone.  The main
statements say that a field reads back what was put into it, that disjoint fields do not disturb
each other, and that putting a field's own value back changes nothing.
-/

namespace Armv6Kernel

/-- A machine word of the 32-bit processor. -/
abbrev Word := BitVec 32

/-- A run of `width` bits inside a word, given by its lowest bit. -/
structure BitField (width : Nat) where
  offset : Nat
  deriving DecidableEq, Repr

namespace BitField

variable {width : Nat}

def mask (field : BitField width) : Word :=
  (BitVec.allOnes width).setWidth 32 <<< field.offset

def get (field : BitField width) (word : Word) : BitVec width :=
  word.extractLsb' field.offset width

def put (field : BitField width) (value : BitVec width) (word : Word) : Word :=
  (word &&& ~~~field.mask) ||| (value.setWidth 32 <<< field.offset)

/-- Whether a one-bit field is set. -/
def test (field : BitField 1) (word : Word) : Bool :=
  word.getLsbD field.offset

/-- The word with a one-bit field set or cleared. -/
def assign (field : BitField 1) (value : Bool) (word : Word) : Word :=
  field.put (BitVec.ofBool value) word

/-- The field lies inside the word. -/
def Fits (field : BitField width) : Prop :=
  field.offset + width ≤ 32

/-- No bit belongs to both fields. -/
def Apart {otherWidth : Nat} (field : BitField width) (other : BitField otherWidth) : Prop :=
  field.offset + width ≤ other.offset ∨ other.offset + otherWidth ≤ field.offset

instance (field : BitField width) : Decidable field.Fits :=
  inferInstanceAs (Decidable (_ ≤ _))

instance {otherWidth : Nat} (field : BitField width) (other : BitField otherWidth) :
    Decidable (field.Apart other) :=
  inferInstanceAs (Decidable (_ ∨ _))

theorem getLsbD_mask (field : BitField width) (index : Nat) :
    field.mask.getLsbD index =
      (decide (index < 32) && decide (field.offset ≤ index) &&
        decide (index < field.offset + width)) := by
  simp only [mask, BitVec.getLsbD_shiftLeft, BitVec.getLsbD_setWidth, BitVec.getLsbD_allOnes]
  by_cases inWord : index < 32 <;> by_cases above : field.offset ≤ index <;>
    by_cases below : index < field.offset + width <;> simp [*] <;> omega

theorem getLsbD_put (field : BitField width) (value : BitVec width) (word : Word) (index : Nat) :
    (field.put value word).getLsbD index =
      if index < 32 ∧ field.offset ≤ index ∧ index < field.offset + width then
        value.getLsbD (index - field.offset)
      else word.getLsbD index := by
  simp only [put, BitVec.getLsbD_or, BitVec.getLsbD_and, BitVec.getLsbD_not, getLsbD_mask,
    BitVec.getLsbD_shiftLeft, BitVec.getLsbD_setWidth]
  by_cases inWord : index < 32
  · by_cases above : field.offset ≤ index
    · by_cases below : index < field.offset + width
      · have notBelow : ¬ index < field.offset := by omega
        have shifted : index - field.offset < 32 := by omega
        simp [inWord, above, below, notBelow, shifted]
      · have beyond : width ≤ index - field.offset := by omega
        simp [inWord, above, below, BitVec.getLsbD_of_ge value _ beyond]
    · have notAbove : index < field.offset := by omega
      simp [inWord, above, notAbove]
  · simp [inWord, BitVec.getLsbD_of_ge word index (by omega)]

@[simp]
theorem get_put (field : BitField width) (fits : field.Fits) (value : BitVec width) (word : Word) :
    field.get (field.put value word) = value := by
  apply BitVec.eq_of_getLsbD_eq
  intro index bound
  have inWord : field.offset + index < 32 := by unfold Fits at fits; omega
  have inRun : field.offset + index < field.offset + width := by omega
  simp only [get, BitVec.getLsbD_extractLsb', getLsbD_put]
  simp [inWord, inRun, bound]

theorem get_put_of_apart {otherWidth : Nat} (field : BitField width)
    (other : BitField otherWidth) (apart : field.Apart other) (value : BitVec otherWidth)
    (word : Word) :
    field.get (other.put value word) = field.get word := by
  apply BitVec.eq_of_getLsbD_eq
  intro index bound
  have outside :
      ¬ (field.offset + index < 32 ∧ other.offset ≤ field.offset + index ∧
        field.offset + index < other.offset + otherWidth) := by
    unfold Apart at apart
    omega
  simp [get, getLsbD_put, outside]

theorem put_get (field : BitField width) (word : Word) :
    field.put (field.get word) word = word := by
  apply BitVec.eq_of_getLsbD_eq
  intro index _bound
  rw [getLsbD_put]
  split
  · next inside =>
      have offsetBack : field.offset + (index - field.offset) = index := by omega
      have small : index - field.offset < width := by omega
      simp [get, small, offsetBack]
  · rfl

theorem put_comm {otherWidth : Nat} (field : BitField width) (other : BitField otherWidth)
    (apart : field.Apart other) (value : BitVec width) (otherValue : BitVec otherWidth)
    (word : Word) :
    field.put value (other.put otherValue word) = other.put otherValue (field.put value word) := by
  apply BitVec.eq_of_getLsbD_eq
  intro index _bound
  unfold Apart at apart
  simp only [getLsbD_put]
  split <;> split <;> first | rfl | omega

theorem test_eq_get (field : BitField 1) (word : Word) :
    field.test word = (field.get word).getLsbD 0 := by
  simp [test, get]

@[simp]
theorem test_assign (field : BitField 1) (fits : field.Fits) (value : Bool) (word : Word) :
    field.test (field.assign value word) = value := by
  rw [test_eq_get, assign, get_put field fits]
  cases value <;> rfl

end BitField

end Armv6Kernel
