import Armv6Kernel.Proofs.Descriptor.Making

/-!
# What a descriptor grants

A descriptor made for a mapping grants exactly what the flags ask for, and the first-level
descriptors carry the domain they were made in.  The fields of a descriptor lie apart, so that each
of them is read back as it was put.
-/

namespace Armv6Kernel

/-- The attributes of a mapping. -/
structure MappingAttributes where
  permission : AccessPermission
  readOnly : Bool
  cacheable : Bool
  bufferable : Bool
  executeNever : Bool
  shared : Bool
  notGlobal : Bool
  typeExtension : BitVec 3
  deriving DecidableEq, Repr

/-- The attributes that a caller asks for.  The type extension cannot be chosen. -/
def MapFlags.asked (flags : MapFlags) : MappingAttributes where
  permission := flags.permission
  readOnly := readOnly.test flags.word
  cacheable := cacheable.test flags.word
  bufferable := bufferable.test flags.word
  executeNever := executeNever.test flags.word
  shared := shared.test flags.word
  notGlobal := notGlobal.test flags.word
  typeExtension := 0

namespace Descriptor

variable {granule : Granule}

/-- The attributes that the processor reads in a descriptor. -/
def granted (descriptor : Descriptor (.mapping granule)) : MappingAttributes where
  permission := .ofBits (granule.attributes.permission.get descriptor.word)
  readOnly := granule.attributes.readOnly.test descriptor.word
  cacheable := granule.attributes.cacheable.test descriptor.word
  bufferable := granule.attributes.bufferable.test descriptor.word
  executeNever := granule.attributes.executeNever.test descriptor.word
  shared := granule.attributes.shared.test descriptor.word
  notGlobal := granule.attributes.notGlobal.test descriptor.word
  typeExtension := granule.attributes.typeExtension.get descriptor.word

theorem granted_attributed (flags : MapFlags) (word : Word) :
    (⟨attributed granule flags word⟩ : Descriptor (.mapping granule)).granted = flags.asked := by
  cases granule <;>
    simp (disch := decide) only [granted, attributed, MapFlags.asked, BitField.test_assign,
      BitField.test_assign_of_apart, BitField.get_assign_of_apart, BitField.test_put_of_apart,
      BitField.get_put, BitField.get_put_of_apart, AccessPermission.ofBits_bits]

theorem granted_of_forMapping {base : PhysicalAddress} {flags : MapFlags}
    {descriptor : Descriptor (.mapping granule)}
    (made : forMapping granule base flags = .ok descriptor) :
    descriptor.granted = flags.asked := by
  unfold forMapping at made
  split at made
  · cases made
    exact granted_attributed flags _
  · cases made

/-- The domain of a section lies apart from its attributes. -/
theorem granted_inDomain (descriptor : SectionDescriptor) (domain : Domain) :
    (descriptor.inDomain domain).granted = descriptor.granted := by
  simp (disch := decide) only [granted, inDomain, BitField.test_put_of_apart,
    BitField.get_put_of_apart]

theorem domain_inDomain {shape : Shape} (descriptor : Descriptor shape) (domain : Domain) :
    (descriptor.inDomain domain).domain = domain := by
  have fits : Shape.domainField.Fits := by decide
  simp only [Descriptor.domain, inDomain, BitField.get_put _ fits]

theorem forSection_eq_ok {base : PhysicalAddress} {domain : Domain} {flags : MapFlags}
    {descriptor : SectionDescriptor} (made : forSection base domain flags = .ok descriptor) :
    descriptor.granted = flags.asked ∧ descriptor.domain = domain := by
  unfold forSection at made
  rcases mapped : forMapping .section1M base flags with cause | plain
  · rw [mapped] at made
    cases made
  · rw [mapped] at made
    cases made
    exact ⟨(granted_inDomain plain domain).trans (granted_of_forMapping mapped),
      domain_inDomain plain domain⟩

theorem domain_of_forTable {table : PhysicalAddress} {domain : Domain}
    {pointer : CoarseTableDescriptor} (made : forTable table domain = .ok pointer) :
    pointer.domain = domain := by
  unfold forTable at made
  split at made
  · cases made
    exact domain_inDomain _ domain
  · cases made

end Descriptor

end Armv6Kernel
