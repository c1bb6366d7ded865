import Armv6Kernel.Effect.Panic
import Armv6Kernel.Mapping.Flags

/-!
# Making descriptors

Descriptors are built from the address they lead to, the domain they belong to and the flags of the
mapping.  `encode` gives the word for the table and panics if the descriptor was put together
wrongly; it accepts exactly the words that `decode?` accepts.
-/

namespace Armv6Kernel

namespace Descriptor

/-- The word that the processor reads; panics if the tag or a reserved bit is wrong. -/
def encode {shape : Shape} (descriptor : Descriptor shape) : Except Panic Word :=
  if descriptor.tagMatches then
    if descriptor.reservedClear then
      .ok descriptor.word
    else
      .error (.reservedBits shape descriptor.word)
  else
    .error (.wrongTag shape descriptor.word)

def inDomain {shape : Shape} (descriptor : Descriptor shape) (domain : Domain) :
    Descriptor shape :=
  ⟨Shape.domainField.put domain.bits descriptor.word⟩

/-- The pointer to a coarse table; panics if the table is not aligned to 1 KiB. -/
def forTable (table : PhysicalAddress) (domain : Domain) : Except Panic CoarseTableDescriptor :=
  if table.word &&& 0x3FF = 0 then
    let pointer : CoarseTableDescriptor :=
      ⟨Shape.tableField.put (table.word.extractLsb' 10 22) (fresh .coarse).word⟩
    .ok (pointer.inDomain domain)
  else
    .error (.descriptorMisaligned .coarse)

/-- The word of a mapping with the attributes that the flags ask for. -/
def attributed (granule : Granule) (flags : MapFlags) (word : Word) : Word :=
  let places := granule.attributes
  places.notGlobal.assign (MapFlags.notGlobal.test flags.word) <|
  places.shared.assign (MapFlags.shared.test flags.word) <|
  places.executeNever.assign (MapFlags.executeNever.test flags.word) <|
  places.bufferable.assign (MapFlags.bufferable.test flags.word) <|
  places.cacheable.assign (MapFlags.cacheable.test flags.word) <|
  places.typeExtension.put 0 <|
  places.readOnly.assign (MapFlags.readOnly.test flags.word) <|
  places.permission.put flags.permission.bits word

def forMapping (granule : Granule) (base : PhysicalAddress) (flags : MapFlags) :
    Except Panic (Descriptor (.mapping granule)) :=
  if base.isAligned granule then
    let frame := base.word.extractLsb' granule.shift (32 - granule.shift)
    .ok ⟨attributed granule flags (granule.frameField.put frame (fresh (.mapping granule)).word)⟩
  else
    .error (.descriptorMisaligned (.mapping granule))

def forSection (base : PhysicalAddress) (domain : Domain) (flags : MapFlags) :
    Except Panic SectionDescriptor :=
  (forMapping .section1M base flags).map (·.inDomain domain)

/-- Encoding succeeds exactly on the descriptors that decoding their own word gives back. -/
theorem encode_eq_ok_iff {shape : Shape} (descriptor : Descriptor shape) (word : Word) :
    descriptor.encode = .ok word ↔
      decode? shape descriptor.word = some descriptor ∧ word = descriptor.word := by
  unfold encode decode?
  cases tagHolds : descriptor.tagMatches <;> cases reservedHolds : descriptor.reservedClear <;>
    simp [isWellFormed, tagHolds, reservedHolds, eq_comm]

end Descriptor

/-- The word that the meaning stands for; an empty slot stands for zero. -/
def FirstLevelEntry.encode : FirstLevelEntry → Except Panic Word
  | fault => .ok 0
  | coarse descriptor => descriptor.encode
  | section1M descriptor => descriptor.encode
  | unsupported word => .ok word

/-- The word that the meaning stands for; an empty slot stands for zero. -/
def SecondLevelEntry.encode : SecondLevelEntry → Except Panic Word
  | fault => .ok 0
  | page64K descriptor => descriptor.encode
  | page4K descriptor => descriptor.encode
  | unsupported word => .ok word

end Armv6Kernel
