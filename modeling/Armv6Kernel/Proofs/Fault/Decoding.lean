import Armv6Kernel.Fault.Classify
import Armv6Kernel.Proofs.Bits.Setters

/-!
# What a data abort keeps of the fault registers

The status lies in two places of the fault status register, with bits between and above it that
should be zero and need not be.  An abort is decoded from eleven bits of the register and no others:
five for the status, four for the domain, one for the direction.  The verdict on the abort hangs on
the five status bits alone.
-/

namespace Armv6Kernel

/-- The words have the same bits at the listed places. -/
def AgreeOn (places : List Nat) (first second : Word) : Prop :=
  ∀ place ∈ places, first.getLsbD place = second.getLsbD place

instance (places : List Nat) (first second : Word) : Decidable (AgreeOn places first second) :=
  inferInstanceAs (Decidable (∀ place ∈ places, _))

theorem agreeOn_append (places more : List Nat) (first second : Word) :
    AgreeOn (places ++ more) first second ↔
      AgreeOn places first second ∧ AgreeOn more first second :=
  List.forall_mem_append

theorem agreeOn_perm {places more : List Nat} (permuted : places.Perm more) (first second : Word) :
    AgreeOn places first second ↔ AgreeOn more first second :=
  forall_congr' fun _ => imp_congr_left permuted.mem_iff

/-- A field holds the bits of its run. -/
theorem BitField.get_eq_get_iff {width : Nat} (field : BitField width) {first second : Word} :
    field.get first = field.get second ↔
      AgreeOn (List.range' field.offset width) first second := by
  constructor
  · intro same place member
    obtain ⟨above, below⟩ := List.mem_range'_1.mp member
    have bits := congrArg (·.getLsbD (place - field.offset)) same
    have inside : place - field.offset < width := by omega
    have back : field.offset + (place - field.offset) = place := by omega
    simpa only [get, BitVec.getLsbD_extractLsb', inside, decide_true, Bool.true_and, back]
      using bits
  · intro agree
    apply BitVec.eq_of_getLsbD_eq
    intro index bound
    have member : field.offset + index ∈ List.range' field.offset width :=
      List.mem_range'_1.mpr (by omega)
    simp only [get, BitVec.getLsbD_extractLsb', agree _ member]

namespace DataFaultStatus

variable {first second : Word}

/-! ## The fields of the register -/

theorem toNat_status (word : Word) :
    (DataFaultStatus.mk word).status.toNat =
      (word.toNat &&& 0xF) ||| ((word.toNat >>> 10 &&& 1) <<< 4) := by
  have low : word.toNat &&& 0xF = word.toNat % 16 := Nat.and_two_pow_sub_one_eq_mod _ 4
  have high : word.toNat >>> 10 &&& 1 = word.toNat >>> 10 % 2 :=
    Nat.and_two_pow_sub_one_eq_mod _ 1
  rw [low, high, Nat.or_comm, status, BitVec.toNat_append, BitField.get, BitField.get,
    BitVec.extractLsb'_toNat, BitVec.extractLsb'_toNat]
  rfl

theorem toNat_domain (word : Word) :
    (DataFaultStatus.mk word).domain.toNat = word.toNat >>> 4 &&& 0xF := by
  have low : word.toNat >>> 4 &&& 0xF = word.toNat >>> 4 % 16 :=
    Nat.and_two_pow_sub_one_eq_mod _ 4
  rw [low, domain, BitField.get, BitVec.extractLsb'_toNat]
  rfl

theorem status_eq_iff :
    (DataFaultStatus.mk first).status = (DataFaultStatus.mk second).status ↔
      AgreeOn [0, 1, 2, 3, 10] first second := by
  have split : AgreeOn [0, 1, 2, 3, 10] first second ↔
      statusLow.get first = statusLow.get second ∧
        statusHigh.get first = statusHigh.get second := by
    rw [BitField.get_eq_get_iff, BitField.get_eq_get_iff]
    exact agreeOn_append [0, 1, 2, 3] [10] first second
  rw [split]
  constructor
  · intro same
    have low := congrArg (BitVec.extractLsb' 0 4) same
    have high := congrArg (BitVec.extractLsb' 4 1) same
    rw [status, status, BitVec.extractLsb'_append_eq_right,
      BitVec.extractLsb'_append_eq_right] at low
    rw [status, status, BitVec.extractLsb'_append_eq_left,
      BitVec.extractLsb'_append_eq_left] at high
    exact ⟨low, high⟩
  · rintro ⟨low, high⟩
    rw [status, status, low, high]

theorem domain_eq_iff :
    (DataFaultStatus.mk first).domain = (DataFaultStatus.mk second).domain ↔
      AgreeOn [4, 5, 6, 7] first second :=
  domainField.get_eq_get_iff

theorem isWrite_eq_iff :
    (DataFaultStatus.mk first).isWrite = (DataFaultStatus.mk second).isWrite ↔
      AgreeOn [11] first second := by
  rw [AgreeOn, List.forall_mem_singleton]
  rfl

/-! ## The register made of its parts -/

variable (number domainNumber : Nat) (write : Bool)

/-- Four low bits and a fifth one are a number modulo 32. -/
theorem high_append_low :
    BitVec.ofBool (number.testBit 4) ++ BitVec.ofNat 4 number = BitVec.ofNat 5 number := by
  apply BitVec.eq_of_getLsbD_eq
  intro index bound
  rw [BitVec.getLsbD_append, BitVec.getLsbD_ofNat, BitVec.getLsbD_ofNat]
  split
  · next low => rw [decide_eq_true low, decide_eq_true bound]
  · next high =>
      have fifth : index = 4 := by omega
      subst fifth
      simp

theorem status_ofParts : (ofParts number domainNumber write).status = BitVec.ofNat 5 number := by
  have low : statusLow.get (ofParts number domainNumber write).word = BitVec.ofNat 4 number := by
    simp (disch := decide) only [ofParts, BitField.get_assign_of_apart, BitField.get_put_of_apart,
      BitField.get_put]
  have high : statusHigh.get (ofParts number domainNumber write).word =
      BitVec.ofBool (number.testBit 4) := by
    simp (disch := decide) only [ofParts, BitField.get_assign_of_apart, BitField.get_put_of_apart]
    exact BitField.get_put _ (by decide) _ _
  rw [status, low, high, high_append_low]

theorem domain_ofParts :
    (ofParts number domainNumber write).domain = BitVec.ofNat 4 domainNumber := by
  simp (disch := decide) only [ofParts, domain, BitField.get_assign_of_apart, BitField.get_put]

theorem isWrite_ofParts : (ofParts number domainNumber write).isWrite = write :=
  BitField.test_assign _ (by decide) _ _

end DataFaultStatus

namespace DataAbort

variable {abort other : DataAbort}

/-- Aborts with one status and one address are judged alike. -/
theorem classify_congr (status : abort.status = other.status)
    (address : abort.address = other.address) (heapStart heapEnd stackTop : VirtualAddress) :
    abort.classify heapStart heapEnd stackTop = other.classify heapStart heapEnd stackTop := by
  have trusted : abort.trustedAddress? = other.trustedAddress? := by
    rw [trustedAddress?, trustedAddress?, status, address]
  rw [classify, classify, trusted]

theorem direction_eq_iff (pc : Word) (register : DataFaultStatus) (address : VirtualAddress) :
    (decode pc register address).direction = .write ↔ register.isWrite = true := by
  change (if register.isWrite then AccessDirection.write else .read) = .write ↔ _
  cases register.isWrite with
  | false => decide
  | true => decide

theorem decode_eq_iff (pc first second : Word) (address : VirtualAddress) :
    decode pc ⟨first⟩ address = decode pc ⟨second⟩ address ↔
      AgreeOn [0, 1, 2, 3, 4, 5, 6, 7, 10, 11] first second := by
  have split : AgreeOn [0, 1, 2, 3, 4, 5, 6, 7, 10, 11] first second ↔
      AgreeOn [0, 1, 2, 3, 10] first second ∧ AgreeOn [4, 5, 6, 7] first second ∧
        AgreeOn [11] first second := by
    have parts : List.Perm [0, 1, 2, 3, 4, 5, 6, 7, 10, 11]
        ([0, 1, 2, 3, 10] ++ ([4, 5, 6, 7] ++ [11])) := by decide
    rw [agreeOn_perm parts, agreeOn_append, agreeOn_append]
  rw [split, ← DataFaultStatus.status_eq_iff, ← DataFaultStatus.domain_eq_iff,
    ← DataFaultStatus.isWrite_eq_iff]
  constructor
  · intro same
    have write : (DataFaultStatus.mk first).isWrite = true ↔
        (DataFaultStatus.mk second).isWrite = true := by
      rw [← direction_eq_iff pc _ address, ← direction_eq_iff pc _ address, same]
    exact ⟨congrArg (·.status.bits) same, congrArg domain same, Bool.eq_iff_iff.mpr write⟩
  · rintro ⟨status, domain, write⟩
    rw [decode, decode, status, domain, write]

/-- What decoding promises of the registers that an abort leaves. -/
structure Decodes (pc word : Word) (address : VirtualAddress) : Prop where
  status : (decode pc ⟨word⟩ address).status.bits.toNat =
    (word.toNat &&& 0xF) ||| ((word.toNat >>> 10 &&& 1) <<< 4)
  domain : (decode pc ⟨word⟩ address).domain.toNat = word.toNat >>> 4 &&& 0xF
  direction : (decode pc ⟨word⟩ address).direction = .write ↔ word.getLsbD 11 = true
  unchanged : (decode pc ⟨word⟩ address).address = address ∧ (decode pc ⟨word⟩ address).pc = pc
  /-- All other bits of the register are ignored, and none of these. -/
  same : ∀ other : Word, decode pc ⟨other⟩ address = decode pc ⟨word⟩ address ↔
    AgreeOn [0, 1, 2, 3, 4, 5, 6, 7, 10, 11] other word
  /-- A register made of parts gives the parts back, less what does not fit. -/
  parts : ∀ (status domain : Nat) (write : Bool),
    let decoded := decode pc (.ofParts status domain write) address
    decoded.status.bits.toNat = status &&& 0x1F ∧ decoded.domain.toNat = domain &&& 0xF ∧
      decoded.direction = if write then .write else .read
  verdict : ∀ otherPc other : Word, AgreeOn [0, 1, 2, 3, 10] other word →
    ∀ heapStart heapEnd stackTop,
      (decode otherPc ⟨other⟩ address).classify heapStart heapEnd stackTop =
        (decode pc ⟨word⟩ address).classify heapStart heapEnd stackTop

theorem decodes (pc word : Word) (address : VirtualAddress) : Decodes pc word address where
  status := DataFaultStatus.toNat_status word
  domain := DataFaultStatus.toNat_domain word
  direction := direction_eq_iff pc ⟨word⟩ address
  unchanged := ⟨rfl, rfl⟩
  same other := decode_eq_iff pc other word address
  parts status domain write := by
    intro decoded
    have statusBits : decoded.status.bits = BitVec.ofNat 5 status :=
      DataFaultStatus.status_ofParts status domain write
    have domainBits : decoded.domain = BitVec.ofNat 4 domain :=
      DataFaultStatus.domain_ofParts status domain write
    refine ⟨?_, ?_, ?_⟩
    · rw [statusBits, BitVec.toNat_ofNat]
      exact (Nat.and_two_pow_sub_one_eq_mod status 5).symm
    · rw [domainBits, BitVec.toNat_ofNat]
      exact (Nat.and_two_pow_sub_one_eq_mod domain 4).symm
    · change (if (DataFaultStatus.ofParts status domain write).isWrite then _ else _) = _
      rw [DataFaultStatus.isWrite_ofParts]
  verdict otherPc other agree := by
    have status : (decode otherPc ⟨other⟩ address).status = (decode pc ⟨word⟩ address).status :=
      congrArg FaultStatus.mk (DataFaultStatus.status_eq_iff.mpr agree)
    exact classify_congr status rfl

end DataAbort

end Armv6Kernel
