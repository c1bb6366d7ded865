import Armv6Kernel.Heap.TableSource
import Armv6Kernel.AddressSpace.MapError

/-!
# Rounding addresses up

Rounding up to an alignment never goes down, whatever the alignment is; rounding up to a power of
two gives the least multiple of it that is not below the address, or no address at all if that
multiple lies beyond the address space.  Both are read off the bit operations that compute the
rounding.
-/

namespace Armv6Kernel

theorem and_not_add_and (word mask : Word) : (word &&& ~~~mask) + (word &&& mask) = word := by
  rw [BitVec.add_eq_or_of_and_eq_zero]
  · apply BitVec.eq_of_getLsbD_eq
    intro index bound
    simp only [BitVec.getLsbD_or, BitVec.getLsbD_and, BitVec.getLsbD_not, bound]
    cases word.getLsbD index <;> cases mask.getLsbD index <;> rfl
  · apply BitVec.eq_of_getLsbD_eq
    intro index bound
    simp only [BitVec.getLsbD_and, BitVec.getLsbD_not, BitVec.getLsbD_zero, bound]
    cases word.getLsbD index <;> cases mask.getLsbD index <;> rfl

theorem toNat_and_not (word mask : Word) :
    (word &&& ~~~mask).toNat + (word.toNat &&& mask.toNat) = word.toNat := by
  have sum := congrArg BitVec.toNat (and_not_add_and word mask)
  have cleared : (word &&& ~~~mask).toNat ≤ word.toNat := by
    rw [BitVec.toNat_and]
    exact Nat.and_le_left
  have masked : word.toNat &&& mask.toNat ≤ word.toNat := Nat.and_le_left
  have bound := word.isLt
  rw [BitVec.toNat_add, BitVec.toNat_and word mask] at sum
  omega

/-! ## Multiples -/

/-- The least multiple of `unit` that is not below `place`. -/
def roundUp (place unit : Nat) : Nat :=
  (place + (unit - 1)) / unit * unit

section Multiples

variable {unit : Nat}

theorem le_roundUp (positive : 0 < unit) (place : Nat) : place ≤ roundUp place unit := by
  have division := Nat.div_add_mod' (place + (unit - 1)) unit
  have remainder := Nat.mod_lt (place + (unit - 1)) positive
  unfold roundUp
  omega

theorem roundUp_lt (positive : 0 < unit) (place : Nat) : roundUp place unit < place + unit := by
  have division := Nat.div_add_mod' (place + (unit - 1)) unit
  unfold roundUp
  omega

theorem dvd_roundUp (place unit : Nat) : unit ∣ roundUp place unit :=
  Nat.dvd_mul_left unit _

/-- No multiple of the unit lies between a place and the one that it is rounded up to. -/
theorem roundUp_le {place multiple : Nat} (positive : 0 < unit) (divides : unit ∣ multiple)
    (above : place ≤ multiple) : roundUp place unit ≤ multiple := by
  obtain ⟨count, rfl⟩ := divides
  have below : (place + (unit - 1)) / unit < count + 1 := by
    rw [Nat.div_lt_iff_lt_mul positive, Nat.succ_mul, Nat.mul_comm]
    omega
  rw [roundUp, Nat.mul_comm]
  exact Nat.mul_le_mul_left unit (Nat.le_of_lt_succ below)

end Multiples

/-! ## Addresses -/

theorem toNat_sub_one {alignment : Word} (positive : 0 < alignment.toNat) :
    (alignment - 1).toNat = alignment.toNat - 1 := by
  have atLeastOne : (1 : Word) ≤ alignment := by
    rw [BitVec.le_def]
    exact positive
  exact BitVec.toNat_sub_of_le atLeastOne

/-- Rounding up never goes down, whatever the alignment is. -/
theorem le_of_alignUp? {address alignment rounded : Word} (positive : 0 < alignment.toNat)
    (found : alignUp? address alignment = some rounded) :
    address.toNat ≤ rounded.toNat := by
  unfold alignUp? at found
  split at found
  · next inside =>
      cases found
      have parts := toNat_and_not (address + (alignment - 1)) (alignment - 1)
      have masked :
          (address + (alignment - 1)).toNat &&& (alignment - 1).toNat ≤ (alignment - 1).toNat :=
        Nat.and_le_right
      have sum : (address + (alignment - 1)).toNat = address.toNat + (alignment.toNat - 1) := by
        rw [BitVec.toNat_add, toNat_sub_one positive]
        omega
      rw [toNat_sub_one positive] at masked parts
      omega
  · cases found

/-- The address space ends at a multiple of every alignment. -/
theorem dvd_addressSpace {alignment : Word} (power : alignment.toNat.isPowerOfTwo) :
    alignment.toNat ∣ 0x100000000 := by
  obtain ⟨exponent, equal⟩ := power
  have bound := alignment.isLt
  rw [equal] at bound ⊢
  exact Nat.pow_dvd_pow 2 (Nat.le_of_lt ((Nat.pow_lt_pow_iff_right (by decide)).mp bound))

/-- Rounding up to a power of two gives the next multiple of it, if that is an address. -/
theorem alignUp?_eq {alignment : Word} (power : alignment.toNat.isPowerOfTwo) (address : Word) :
    alignUp? address alignment =
      if roundUp address.toNat alignment.toNat < 0x100000000 then
        some (BitVec.ofNat 32 (roundUp address.toNat alignment.toNat))
      else none := by
  have positive := Nat.pos_of_isPowerOfTwo power
  have division := Nat.div_add_mod' (address.toNat + (alignment.toNat - 1)) alignment.toNat
  unfold alignUp?
  by_cases inside : address.toNat + (alignment.toNat - 1) < 0x100000000
  · have rounded := roundUp_lt positive address.toNat
    have remainder : (address.toNat + (alignment.toNat - 1)) &&& (alignment.toNat - 1) =
        (address.toNat + (alignment.toNat - 1)) % alignment.toNat := by
      obtain ⟨exponent, equal⟩ := power
      rw [equal, Nat.and_two_pow_sub_one_eq_mod]
    have sum : (address + (alignment - 1)).toNat = address.toNat + (alignment.toNat - 1) := by
      rw [BitVec.toNat_add, toNat_sub_one positive]
      omega
    have parts := toNat_and_not (address + (alignment - 1)) (alignment - 1)
    rw [sum, toNat_sub_one positive, remainder] at parts
    rw [if_pos inside, if_pos (by omega)]
    congr 1
    apply BitVec.eq_of_toNat_eq
    rw [BitVec.toNat_ofNat, roundUp]
    omega
  · -- The addition overflows exactly if the next multiple is the end of the address space.
    have beyond : ¬ roundUp address.toNat alignment.toNat < 0x100000000 := by
      obtain ⟨count, whole⟩ := dvd_addressSpace power
      have reached : count ≤ (address.toNat + (alignment.toNat - 1)) / alignment.toNat := by
        rw [Nat.le_div_iff_mul_le positive, Nat.mul_comm]
        omega
      have scaled := Nat.mul_le_mul_right alignment.toNat reached
      rw [Nat.mul_comm] at whole
      unfold roundUp
      omega
    rw [if_neg inside, if_neg beyond]

theorem toNat_of_checkedAdd? {first second sum : Word}
    (found : checkedAdd? first second = some sum) :
    sum.toNat = first.toNat + second.toNat := by
  unfold checkedAdd? at found
  split at found
  · cases found
    rw [BitVec.toNat_add]
    omega
  · cases found

/-- The end of an aligned block is found by checked operations exactly if it is an address. -/
theorem alignedBlock_eq {alignment : Word} (power : alignment.toNat.isPowerOfTwo)
    (place bytes : Word) :
    ((alignUp? place alignment).bind fun start =>
      (checkedAdd? start bytes).bind fun stop => some (start, stop)) =
      if roundUp place.toNat alignment.toNat + bytes.toNat < 0x100000000 then
        some (BitVec.ofNat 32 (roundUp place.toNat alignment.toNat),
          BitVec.ofNat 32 (roundUp place.toNat alignment.toNat + bytes.toNat))
      else none := by
  rw [alignUp?_eq power]
  by_cases inside : roundUp place.toNat alignment.toNat < 0x100000000
  · have start : (BitVec.ofNat 32 (roundUp place.toNat alignment.toNat) : Word).toNat =
        roundUp place.toNat alignment.toNat := by
      rw [BitVec.toNat_ofNat, Nat.mod_eq_of_lt inside]
    rw [if_pos inside, Option.bind_some, checkedAdd?, start]
    by_cases ends : roundUp place.toNat alignment.toNat + bytes.toNat < 0x100000000
    · rw [if_pos ends, if_pos ends, Option.bind_some, BitVec.ofNat_add, BitVec.ofNat_toNat,
        BitVec.setWidth_eq]
    · rw [if_neg ends, if_neg ends, Option.bind_none]
  · rw [if_neg inside, if_neg (by omega), Option.bind_none]

end Armv6Kernel
