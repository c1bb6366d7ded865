import Armv6Kernel.Descriptor.Encode
import Armv6Kernel.Proofs.Bits.Setters
import Armv6Kernel.Proofs.Descriptor.Classification

/-!
# Descriptors made for a mapping

A descriptor made for an aligned address can be encoded, is read back from a slot as the same
descriptor, and leads to that address.  Flags and domain go to fields apart from the tag, the
reserved bits and the address, so they cannot spoil any of this.
-/

namespace Armv6Kernel

namespace Descriptor

/-! ## The attributes of a mapping -/

theorem attributed_and_tagMask (granule : Granule) (flags : MapFlags) (word : Word) :
    attributed granule flags word &&& (Shape.mapping granule).tagMask =
      word &&& (Shape.mapping granule).tagMask := by
  cases granule <;>
    simp (disch := decide) only [attributed, BitField.assign, BitField.put_and]

theorem attributed_and_reservedMask (granule : Granule) (flags : MapFlags) (word : Word) :
    attributed granule flags word &&& (Shape.mapping granule).reservedMask =
      word &&& (Shape.mapping granule).reservedMask := by
  cases granule <;>
    simp (disch := decide) only [attributed, BitField.assign, BitField.put_and]

theorem frameField_get_attributed (granule : Granule) (flags : MapFlags) (word : Word) :
    granule.frameField.get (attributed granule flags word) = granule.frameField.get word := by
  cases granule <;>
    simp (disch := decide) only [attributed, BitField.assign, BitField.get_put_of_apart]

theorem frame_shiftLeft {granule : Granule} {base : PhysicalAddress}
    (aligned : base.isAligned granule = true) :
    (base.word.extractLsb' granule.shift (32 - granule.shift)).setWidth 32 <<< granule.shift =
      base.word := by
  rw [Address.isAligned_iff] at aligned
  have bound := base.toNat_lt
  apply BitVec.eq_of_toNat_eq
  simp only [Address.toNat] at aligned bound
  cases granule <;>
    simp only [Granule.shift, Granule.bytes, BitVec.toNat_shiftLeft, BitVec.toNat_setWidth,
      BitVec.extractLsb'_toNat, Nat.shiftLeft_eq, Nat.shiftRight_eq_div_pow] at aligned ⊢ <;>
    omega

/-- The descriptor that a mapping to an aligned address gets. -/
theorem forMapping_of_isAligned {granule : Granule} {base : PhysicalAddress} (flags : MapFlags)
    (aligned : base.isAligned granule = true) :
    ∃ descriptor : Descriptor (.mapping granule),
      forMapping granule base flags = .ok descriptor ∧
      decode? (.mapping granule) descriptor.word = some descriptor ∧ descriptor.base = base := by
  refine ⟨_, if_pos aligned, ?_, ?_⟩
  · rw [decode?_eq_some_iff, attributed_and_tagMask, attributed_and_reservedMask]
    refine ⟨rfl, ?_⟩
    cases granule <;>
      simp (disch := decide) only [BitField.put_and] <;> exact ⟨rfl, rfl⟩
  · have fits : granule.frameField.Fits := by cases granule <;> decide
    simp only [Descriptor.base]
    rw [frameField_get_attributed, BitField.get_put _ fits, frame_shiftLeft aligned]

theorem inDomain_section (descriptor : SectionDescriptor) (domain : Domain)
    (decoded : decode? (.mapping .section1M) descriptor.word = some descriptor) :
    decode? (.mapping .section1M) (descriptor.inDomain domain).word =
        some (descriptor.inDomain domain) ∧
      (descriptor.inDomain domain).base = descriptor.base := by
  obtain ⟨-, tagged, clear⟩ := decode?_eq_some_iff.mp decoded
  rw [decode?_eq_some_iff]
  refine ⟨⟨rfl, ?_, ?_⟩, ?_⟩
  · rw [inDomain, BitField.put_and _ _ _ _ (by decide)]
    exact tagged
  · rw [inDomain, BitField.put_and _ _ _ _ (by decide)]
    exact clear
  · simp only [Descriptor.base, inDomain]
    rw [BitField.get_put_of_apart _ _ (by decide)]

/-- The descriptor that a section mapped to an aligned address gets. -/
theorem forSection_of_isAligned {base : PhysicalAddress} (domain : Domain) (flags : MapFlags)
    (aligned : base.isAligned .section1M = true) :
    ∃ descriptor : SectionDescriptor,
      forSection base domain flags = .ok descriptor ∧
      decode? (.mapping .section1M) descriptor.word = some descriptor ∧
      descriptor.base = base := by
  obtain ⟨descriptor, made, decoded, leads⟩ := forMapping_of_isAligned flags aligned
  obtain ⟨decodedInDomain, sameBase⟩ := inDomain_section descriptor domain decoded
  refine ⟨descriptor.inDomain domain, ?_, decodedInDomain, sameBase.trans leads⟩
  rw [forSection, made]
  rfl

/-- The pointer to an aligned coarse table. -/
theorem forTable_of_aligned {table : PhysicalAddress} (domain : Domain)
    (aligned : table.toNat % TableLevel.coarse.bytes = 0) :
    ∃ pointer : CoarseTableDescriptor,
      forTable table domain = .ok pointer ∧
      decode? .coarse pointer.word = some pointer ∧ pointer.table = table := by
  have masked : table.word &&& 0x3FF = 0 := by
    apply BitVec.eq_of_toNat_eq
    rw [BitVec.toNat_and]
    exact (Nat.and_two_pow_sub_one_eq_mod table.word.toNat 10).trans aligned
  refine ⟨_, if_pos masked, ?_, ?_⟩
  · rw [decode?_eq_some_iff]
    simp (disch := decide) only [inDomain, BitField.put_and]
    exact ⟨trivial, rfl, rfl⟩
  · simp only [Descriptor.table, inDomain]
    rw [BitField.get_put_of_apart _ _ (by decide), BitField.get_put _ (by decide)]
    have bound := table.toNat_lt
    apply Address.eq_of_toNat_eq
    simp only [Address.toNat, TableLevel.bytes, TableLevel.entries, BitVec.toNat_shiftLeft,
      BitVec.toNat_setWidth, BitVec.extractLsb'_toNat, Nat.shiftLeft_eq,
      Nat.shiftRight_eq_div_pow] at aligned bound ⊢
    omega

theorem encode_of_decode? {shape : Shape} {descriptor : Descriptor shape}
    (decoded : decode? shape descriptor.word = some descriptor) :
    descriptor.encode = .ok descriptor.word :=
  (encode_eq_ok_iff descriptor descriptor.word).mpr ⟨decoded, rfl⟩

end Descriptor

end Armv6Kernel
