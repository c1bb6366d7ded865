import Armv6Kernel.Proofs.Descriptor.Attributes

/-!
# One meaning of the flags

The flags of a mapping are copied to other places in each shape of descriptor.  Read back through
the accessors of the shape they mean the same in all of them, and this meaning is all of the flags
that reaches a descriptor.
-/

namespace Armv6Kernel

/-- The attributes that flags stand for, by the numbers of their bits. -/
def MapFlags.meaning (flags : MapFlags) : MappingAttributes where
  permission := if flags.word.getLsbD 2 then .ofBits (flags.word.extractLsb' 0 2) else .fullAccess
  readOnly := flags.word.getLsbD 5
  cacheable := flags.word.getLsbD 3
  bufferable := flags.word.getLsbD 4
  executeNever := flags.word.getLsbD 8
  shared := flags.word.getLsbD 7
  notGlobal := flags.word.getLsbD 6
  typeExtension := 0

theorem MapFlags.asked_eq_meaning (flags : MapFlags) : flags.asked = flags.meaning := rfl

/-- The attributes under the names of their accessors. -/
def MappingAttributes.named (attributes : MappingAttributes) : List (String × FieldValue) := [
  ("ap", .permission attributes.permission),
  ("apx", .flag attributes.readOnly),
  ("c_cacheable", .flag attributes.cacheable),
  ("b_bufferable", .flag attributes.bufferable),
  ("xn_execute_never", .flag attributes.executeNever),
  ("s_shared", .flag attributes.shared),
  ("ng_not_global", .flag attributes.notGlobal),
  ("tex", .number attributes.typeExtension.toNat)]

namespace NamedField

variable {word : Word}

theorem value_flag (name : String) (bits : BitField 1) :
    (flag name bits).value word = .flag (bits.test word) := by
  have set : ∀ bit : BitVec 1, (bit.toNat != 0) = bit.getLsbD 0 := by decide
  simp only [NamedField.value, flag, set, BitField.test_eq_get]

theorem value_permission (name : String) (bits : BitField 2) :
    (permission name bits).value word = .permission (.ofBits (bits.get word)) := by
  simp only [NamedField.value, permission, AccessPermission.masked, BitVec.ofNat_toNat,
    BitVec.setWidth_eq]

end NamedField

namespace Descriptor

variable {granule : Granule} {base : PhysicalAddress} {domain : Domain} {flags other : MapFlags}

/-- The descriptor of a mapping.  Only a section carries its domain itself. -/
def make (granule : Granule) (base : PhysicalAddress) (domain : Domain) (flags : MapFlags) :
    Except Panic (Descriptor (.mapping granule)) :=
  match granule with
  | .section1M => forSection base domain flags
  | .page64K => forMapping .page64K base flags
  | .page4K => forMapping .page4K base flags

/-- A table slot that holds the descriptor is classified as it. -/
def Classified : {granule : Granule} → Descriptor (.mapping granule) → Prop
  | .section1M, descriptor =>
      (⟨descriptor.word⟩ : Slot .first).firstLevelEntry = .section1M descriptor
  | .page64K, descriptor =>
      (⟨descriptor.word⟩ : Slot .coarse).secondLevelEntry = .page64K descriptor
  | .page4K, descriptor => (⟨descriptor.word⟩ : Slot .coarse).secondLevelEntry = .page4K descriptor

/-- What a descriptor of a mapping says, whoever reads it. -/
structure Expresses (descriptor : Descriptor (.mapping granule)) (base : PhysicalAddress)
    (domain : Domain) (attributes : MappingAttributes) : Prop where
  encode : descriptor.encode = .ok descriptor.word
  decode : decode? (.mapping granule) descriptor.word = some descriptor
  base : descriptor.base = base
  domain : granule = .section1M → descriptor.domain = domain
  granted : descriptor.granted = attributes
  accessors : ∀ entry ∈ attributes.named,
    ((Shape.mapping granule).layout.field? entry.1).map (·.value descriptor.word) = some entry.2
  classified : descriptor.Classified

theorem classified_iff (descriptor : Descriptor (.mapping granule)) :
    descriptor.Classified ↔ decode? (.mapping granule) descriptor.word = some descriptor := by
  cases granule with
  | section1M => exact Slot.firstLevelEntry_eq_section1M_iff ⟨descriptor.word⟩ descriptor
  | page64K => exact Slot.secondLevelEntry_eq_page64K_iff ⟨descriptor.word⟩ descriptor
  | page4K => exact Slot.secondLevelEntry_eq_page4K_iff ⟨descriptor.word⟩ descriptor

/-- The accessors of every shape read the attributes. -/
theorem accessors_granted (descriptor : Descriptor (.mapping granule)) :
    ∀ entry ∈ descriptor.granted.named,
      ((Shape.mapping granule).layout.field? entry.1).map (·.value descriptor.word) =
        some entry.2 := by
  have flag : ∀ (name : String) (bits : BitField 1),
      (Shape.mapping granule).layout.field? name = some (.flag name bits) →
        ((Shape.mapping granule).layout.field? name).map (·.value descriptor.word) =
          some (.flag (bits.test descriptor.word)) := by
    intro name bits found
    rw [found, Option.map_some, NamedField.value_flag]
  simp only [granted, MappingAttributes.named, List.forall_mem_cons, List.not_mem_nil]
  refine ⟨?permission, flag _ _ ?readOnly, flag _ _ ?cacheable, flag _ _ ?bufferable,
    flag _ _ ?executeNever, flag _ _ ?shared, flag _ _ ?notGlobal, ?typeExtension, ?none⟩
  case permission =>
    have found : (Shape.mapping granule).layout.field? "ap" =
        some (.permission "ap" granule.attributes.permission) := by cases granule <;> rfl
    rw [found, Option.map_some, NamedField.value_permission]
  case none =>
    intro entry impossible
    exact impossible.elim
  all_goals cases granule <;> rfl

/-! ## Making descriptors from flags -/

/-- Flags that ask for the same attributes are copied alike. -/
theorem attributed_congr (same : flags.asked = other.asked) (word : Word) :
    attributed granule flags word = attributed granule other word := by
  have permission : flags.permission = other.permission :=
    congrArg MappingAttributes.permission same
  simp only [MapFlags.asked, MappingAttributes.mk.injEq] at same
  simp only [attributed, same]

theorem forMapping_congr (same : flags.asked = other.asked) :
    forMapping granule base flags = forMapping granule base other := by
  simp only [forMapping, attributed_congr same]

theorem make_congr (same : flags.asked = other.asked) :
    make granule base domain flags = make granule base domain other := by
  cases granule with
  | section1M => simp only [make, forSection, forMapping_congr same]
  | page64K => exact forMapping_congr same
  | page4K => exact forMapping_congr same

theorem granted_of_make {descriptor : Descriptor (.mapping granule)}
    (made : make granule base domain flags = .ok descriptor) :
    descriptor.granted = flags.asked := by
  cases granule with
  | section1M => exact (forSection_eq_ok made).1
  | page64K => exact granted_of_forMapping made
  | page4K => exact granted_of_forMapping made

theorem make_of_isAligned (domain : Domain) (flags : MapFlags)
    (aligned : base.isAligned granule = true) :
    ∃ descriptor, make granule base domain flags = .ok descriptor ∧
      decode? (.mapping granule) descriptor.word = some descriptor ∧ descriptor.base = base := by
  cases granule with
  | section1M => exact forSection_of_isAligned domain flags aligned
  | page64K => exact forMapping_of_isAligned flags aligned
  | page4K => exact forMapping_of_isAligned flags aligned

/-- A descriptor can be made of any flags, in every shape; it says what the flags mean, and flags
that mean something else make another one. -/
theorem make_expresses_meaning (granule : Granule) (base : PhysicalAddress) (domain : Domain)
    (flags : MapFlags) (aligned : base.toNat % granule.bytes = 0) :
    ∃ descriptor, make granule base domain flags = .ok descriptor ∧
      descriptor.Expresses base domain flags.meaning ∧
      ∀ other : MapFlags, make granule base domain other = .ok descriptor ↔
        other.meaning = flags.meaning := by
  obtain ⟨descriptor, made, decoded, leads⟩ :=
    make_of_isAligned domain flags ((Address.isAligned_iff granule base).mpr aligned)
  have granted : descriptor.granted = flags.meaning :=
    (granted_of_make made).trans flags.asked_eq_meaning
  refine ⟨descriptor, made, ?_, fun other => ⟨fun alike => ?_, fun same => ?_⟩⟩
  · exact {
      encode := encode_of_decode? decoded
      decode := decoded
      base := leads
      domain := by
        rintro rfl
        exact (forSection_eq_ok made).2
      granted
      accessors := granted ▸ accessors_granted descriptor
      classified := (classified_iff descriptor).mpr decoded }
  · exact other.asked_eq_meaning.symm.trans ((granted_of_make alike).symm.trans granted)
  · have asked : other.asked = flags.asked := by
      rw [other.asked_eq_meaning, same, flags.asked_eq_meaning]
    exact (make_congr asked).trans made

/-- Read-only memory that is never executed, at the end of the address space: one flag word, with
bits set in its padding, in the three shapes. -/
theorem make_expresses_meaning_at_the_end :
    ∃ (megabyte : SectionDescriptor) (large : LargePageDescriptor) (small : SmallPageDescriptor),
      make .section1M ⟨0xFFF00000⟩ ⟨5⟩ ⟨0xABCDE125⟩ = .ok megabyte ∧
        megabyte.Expresses ⟨0xFFF00000⟩ ⟨5⟩ (MapFlags.mk 0x125).meaning ∧
        megabyte.word = 0xFFF084B2 ∧
      make .page64K ⟨0xFFFF0000⟩ ⟨5⟩ ⟨0xABCDE125⟩ = .ok large ∧
        large.Expresses ⟨0xFFFF0000⟩ ⟨5⟩ (MapFlags.mk 0x125).meaning ∧
        large.word = 0xFFFF8211 ∧
      make .page4K ⟨0xFFFFF000⟩ ⟨5⟩ ⟨0xABCDE125⟩ = .ok small ∧
        small.Expresses ⟨0xFFFFF000⟩ ⟨5⟩ (MapFlags.mk 0x125).meaning ∧
        small.word = 0xFFFFF213 := by
  have padding : (MapFlags.mk 0xABCDE125).meaning = (MapFlags.mk 0x125).meaning := by decide
  obtain ⟨megabyte, madeMegabyte, expressesMegabyte, -⟩ :=
    make_expresses_meaning .section1M ⟨0xFFF00000⟩ ⟨5⟩ ⟨0xABCDE125⟩ (by decide)
  obtain ⟨large, madeLarge, expressesLarge, -⟩ :=
    make_expresses_meaning .page64K ⟨0xFFFF0000⟩ ⟨5⟩ ⟨0xABCDE125⟩ (by decide)
  obtain ⟨small, madeSmall, expressesSmall, -⟩ :=
    make_expresses_meaning .page4K ⟨0xFFFFF000⟩ ⟨5⟩ ⟨0xABCDE125⟩ (by decide)
  refine ⟨megabyte, large, small, madeMegabyte, padding ▸ expressesMegabyte, ?_,
    madeLarge, padding ▸ expressesLarge, ?_, madeSmall, padding ▸ expressesSmall, ?_⟩
  · cases madeMegabyte
    decide
  · cases madeLarge
    decide
  · cases madeSmall
    decide

end Descriptor

end Armv6Kernel
