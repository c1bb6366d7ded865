import Armv6Kernel.Identifier.Words

/-!
# Searching a bitmap word by word

The bits of a list of words are numbered from the first word on.  The search for the least clear bit
passes over full words; the first word that is not full holds it, so it may stop there.
-/

namespace Armv6Kernel.IdentifierWords

/-- The bit with the given number in a list of words. -/
def bitAt (words : List (BitVec 64)) (number : Nat) : Bool :=
  (words.getD (number / wordBits) 0).getLsbD (number % wordBits)

variable {word : BitVec 64} {words later : List (BitVec 64)} {number : Nat}

theorem bitAt_cons_of_lt (below : number < wordBits) :
    bitAt (word :: later) number = word.getLsbD number := by
  rw [bitAt, Nat.div_eq_of_lt below, Nat.mod_eq_of_lt below, List.getD_cons_zero]

theorem bitAt_cons_add (number : Nat) :
    bitAt (word :: later) (wordBits + number) = bitAt later number := by
  have positive : 0 < wordBits := by decide
  rw [bitAt, Nat.add_mod_left, Nat.add_div_left number positive, List.getD_cons_succ, bitAt]

/-! ## One word -/

theorem getLsbD_mask (identifier place : Nat) :
    (mask identifier).getLsbD place = decide (place = identifier % wordBits) := by
  have bound : identifier % wordBits < 64 := Nat.mod_lt identifier (by decide)
  have power : mask identifier = BitVec.twoPow 64 (identifier % wordBits) := rfl
  rw [power, BitVec.getLsbD_twoPow, decide_eq_true bound, Bool.true_and]
  exact decide_eq_decide.mpr eq_comm

theorem and_mask_ne_zero (word : BitVec 64) (identifier : Nat) :
    (word &&& mask identifier != 0) = word.getLsbD (identifier % wordBits) := by
  have power : mask identifier = BitVec.twoPow 64 (identifier % wordBits) := rfl
  have nonzero : mask identifier ≠ 0 := by
    intro zero
    have bit := getLsbD_mask identifier (identifier % wordBits)
    rw [zero, decide_eq_true rfl, BitVec.ofNat_eq_ofNat, BitVec.getLsbD_zero] at bit
    cases bit
  rw [power] at nonzero ⊢
  rw [BitVec.and_twoPow]
  cases word.getLsbD (identifier % wordBits) with
  | true => exact bne_iff_ne.mpr nonzero
  | false => rfl

theorem getLsbD_of_lt_trailingOnes {place : Nat} (before : place < trailingOnes word) :
    word.getLsbD place = true := by
  have notClear := List.not_of_lt_findIdx before
  rw [List.getElem_range, Bool.not_eq_eq_eq_not, Bool.not_false] at notClear
  exact notClear

/-- A word that is not full has a clear bit, and the least one comes after the trailing ones. -/
theorem trailingOnes_of_not_full (notFull : word ≠ BitVec.allOnes 64) :
    trailingOnes word < wordBits ∧ word.getLsbD (trailingOnes word) = false := by
  have inside : trailingOnes word < (List.range wordBits).length := by
    apply Nat.lt_of_not_le
    intro beyond
    apply notFull
    apply BitVec.eq_of_getLsbD_eq
    intro place inWord
    have before : place < trailingOnes word := by
      rw [List.length_range] at beyond
      exact Nat.lt_of_lt_of_le inWord beyond
    rw [getLsbD_of_lt_trailingOnes before, BitVec.getLsbD_allOnes, decide_eq_true inWord]
  have clear : (!word.getLsbD (List.range wordBits)[trailingOnes word]) = true :=
    @List.findIdx_getElem _ _ _ inside
  rw [List.getElem_range, Bool.not_eq_true'] at clear
  rw [List.length_range] at inside
  exact ⟨inside, clear⟩

/-! ## All words -/

/-- The search finds the least clear bit if it lies below the capacity, and else all bits below the
capacity are set. -/
theorem search_cases (capacity index : Nat) (words : List (BitVec 64)) :
    (∃ number, search capacity index words = some (index * wordBits + number) ∧
      index * wordBits + number < capacity ∧ bitAt words number = false ∧
      ∀ other < number, bitAt words other = true) ∨
    (search capacity index words = none ∧
      ∀ other < words.length * wordBits, index * wordBits + other < capacity →
        bitAt words other = true) := by
  induction words generalizing index with
  | nil =>
      right
      refine ⟨rfl, fun other inside => ?_⟩
      rw [List.length_nil, Nat.zero_mul] at inside
      exact absurd inside (Nat.not_lt_zero other)
  | cons word later ih =>
      by_cases full : word = BitVec.allOnes 64
      · have passes : search capacity index (word :: later) = search capacity (index + 1) later :=
          if_pos full
        have low : ∀ other < wordBits, bitAt (word :: later) other = true := by
          intro other inWord
          rw [bitAt_cons_of_lt inWord, full, BitVec.getLsbD_allOnes]
          exact decide_eq_true inWord
        -- A bit of the later words counts from the end of this one.
        have rest : ∀ other, wordBits ≤ other →
            bitAt (word :: later) other = bitAt later (other - wordBits) := by
          intro other above
          obtain ⟨number, rfl⟩ := Nat.exists_eq_add_of_le above
          rw [bitAt_cons_add, Nat.add_sub_cancel_left]
        rw [passes]
        rcases ih (index + 1) with ⟨number, found, below, clear, least⟩ | ⟨none, set⟩
        · left
          refine ⟨wordBits + number, ?_, by rw [Nat.add_mul] at below; omega, ?_, ?_⟩
          · rw [found, Nat.add_mul, Nat.one_mul, Nat.add_assoc]
          · rw [bitAt_cons_add, clear]
          · intro other before
            by_cases inWord : other < wordBits
            · exact low other inWord
            · rw [rest other (Nat.not_lt.mp inWord)]
              exact least _ (by omega)
        · right
          refine ⟨none, fun other inside below => ?_⟩
          by_cases inWord : other < wordBits
          · exact low other inWord
          · rw [rest other (Nat.not_lt.mp inWord)]
            rw [List.length_cons, Nat.add_mul] at inside
            apply set
            · omega
            · rw [Nat.add_mul]
              omega
      · obtain ⟨inWord, clear⟩ := trailingOnes_of_not_full full
        have least : ∀ other < trailingOnes word, bitAt (word :: later) other = true := by
          intro other before
          rw [bitAt_cons_of_lt (Nat.lt_trans before inWord)]
          exact getLsbD_of_lt_trailingOnes before
        have stops : search capacity index (word :: later) =
            if capacity ≤ index * wordBits + trailingOnes word then none
            else some (index * wordBits + trailingOnes word) := if_neg full
        by_cases beyond : capacity ≤ index * wordBits + trailingOnes word
        · right
          rw [stops, if_pos beyond]
          exact ⟨rfl, fun other _ below => least other (by omega)⟩
        · left
          refine ⟨trailingOnes word, ?_, Nat.not_le.mp beyond, ?_, least⟩
          · rw [stops, if_neg beyond]
          · rw [bitAt_cons_of_lt inWord, clear]

/-- The set bits of all words are those of each word together. -/
theorem foldr_ones (words : List (BitVec 64)) :
    words.foldr (fun word total => ones word + total) 0 =
      (List.range (words.length * wordBits)).countP (bitAt words) := by
  induction words with
  | nil => rfl
  | cons word later ih =>
      have first : (List.range wordBits).countP (bitAt (word :: later)) = ones word := by
        apply List.countP_congr
        intro place member
        rw [bitAt_cons_of_lt (List.mem_range.mp member)]
      rw [List.foldr_cons, ih, List.length_cons, Nat.add_mul, Nat.one_mul,
        Nat.add_comm (later.length * wordBits), List.range_add, List.countP_append, first,
        List.countP_map]
      apply congrArg
      apply List.countP_congr
      intro place _
      rw [Function.comp_apply, bitAt_cons_add]

/-! ## Changing one word -/

variable {identifier : Nat}

/-- A change of the word of an identifier is seen in the bits of that word only. -/
theorem bitAt_onWord (words : Vector (BitVec 64) 4) (inBitmap : identifier < 4 * wordBits)
    (change : BitVec 64 → BitVec 64) (other : Nat) :
    bitAt (onWord words identifier change).toList other =
      if identifier / wordBits = other / wordBits then
        (change (words[identifier / wordBits]?.getD 0)).getLsbD (other % wordBits)
      else bitAt words.toList other := by
  have inside : identifier / wordBits < words.toList.length := by
    rw [Vector.length_toList]
    exact Nat.div_lt_of_lt_mul (by rw [Nat.mul_comm]; exact inBitmap)
  rw [bitAt, bitAt, onWord, Vector.toList_setIfInBounds, List.getD_eq_getElem?_getD,
    List.getElem?_set, if_pos inside]
  split
  · rw [Option.getD_some]
  · rw [List.getD_eq_getElem?_getD]

theorem bitAt_toList (words : Vector (BitVec 64) 4) (number : Nat) :
    bitAt words.toList number =
      (words[number / wordBits]?.getD 0).getLsbD (number % wordBits) := by
  rw [bitAt, List.getD_eq_getElem?_getD, Vector.getElem?_toList]

/-- Two numbers with the same word and the same place in it are the same. -/
theorem eq_of_div_of_mod {first second : Nat} (sameWord : first / wordBits = second / wordBits)
    (samePlace : first % wordBits = second % wordBits) : first = second := by
  rw [← Nat.div_add_mod first wordBits, sameWord, samePlace, Nat.div_add_mod]

theorem bitAt_mark (words : Vector (BitVec 64) 4) (inBitmap : identifier < 4 * wordBits)
    (other : Nat) :
    bitAt (mark words identifier).toList other =
      (bitAt words.toList other || decide (other = identifier)) := by
  rw [mark, bitAt_onWord words inBitmap]
  split
  · next sameWord =>
      rw [BitVec.getLsbD_or, getLsbD_mask, bitAt_toList, sameWord]
      congr 1
      apply decide_eq_decide.mpr
      constructor
      · exact eq_of_div_of_mod sameWord.symm
      · intro same
        rw [same]
  · next apart =>
      have different : other ≠ identifier := fun same => apart (by rw [same])
      rw [decide_eq_false different, Bool.or_false]

theorem bitAt_clear (words : Vector (BitVec 64) 4) (inBitmap : identifier < 4 * wordBits)
    (other : Nat) :
    bitAt (onWord words identifier (· &&& ~~~mask identifier)).toList other =
      (bitAt words.toList other && !decide (other = identifier)) := by
  have inWord : other % wordBits < 64 := Nat.mod_lt other (by decide)
  rw [bitAt_onWord words inBitmap]
  split
  · next sameWord =>
      rw [BitVec.getLsbD_and, BitVec.getLsbD_not, getLsbD_mask, bitAt_toList, sameWord,
        decide_eq_true inWord, Bool.true_and]
      congr 2
      apply decide_eq_decide.mpr
      constructor
      · exact eq_of_div_of_mod sameWord.symm
      · intro same
        rw [same]
  · next apart =>
      have different : other ≠ identifier := fun same => apart (by rw [same])
      rw [decide_eq_false different, Bool.not_false, Bool.and_true]

/-- Marking the first identifiers one after the other sets exactly their bits. -/
theorem bitAt_marked {reserved : Nat} (inBitmap : reserved ≤ 4 * wordBits) (other : Nat) :
    bitAt ((List.range reserved).foldl mark (.replicate 4 0)).toList other =
      decide (other < reserved) := by
  induction reserved with
  | zero =>
      rw [List.range_zero, List.foldl_nil, bitAt_toList, Vector.getElem?_replicate]
      split <;> exact BitVec.getLsbD_zero
  | succ reserved ih =>
      rw [List.range_succ, List.foldl_append, List.foldl_cons, List.foldl_nil,
        bitAt_mark _ inBitmap, ih (Nat.le_of_succ_le inBitmap), ← Bool.decide_or]
      apply decide_eq_decide.mpr
      omega

end Armv6Kernel.IdentifierWords
