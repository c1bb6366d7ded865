import Armv6Kernel.Address.Basic
import Armv6Kernel.Descriptor.Shape

/-!
# Descriptors

A descriptor is a word together with the shape it is read as.  `decode?` accepts exactly the words
whose tag is that of the shape and whose reserved bits are zero.
-/

namespace Armv6Kernel

/-- A translation-table entry of a given shape. -/
structure Descriptor (shape : Shape) where
  /-- The entry as the processor reads it. -/
  word : Word
  deriving DecidableEq, Repr

abbrev SmallPageDescriptor := Descriptor (.mapping .page4K)

abbrev LargePageDescriptor := Descriptor (.mapping .page64K)

abbrev SectionDescriptor := Descriptor (.mapping .section1M)

abbrev CoarseTableDescriptor := Descriptor .coarse

namespace Descriptor

def fresh (shape : Shape) : Descriptor shape :=
  ⟨shape.layout.initial⟩

/-- Whether the tag bits are those of the shape. -/
def tagMatches {shape : Shape} (descriptor : Descriptor shape) : Bool :=
  descriptor.word &&& shape.tagMask == shape.tag

/-- Whether the reserved bits are zero. -/
def reservedClear {shape : Shape} (descriptor : Descriptor shape) : Bool :=
  descriptor.word &&& shape.reservedMask == 0

/-- Whether the word is one of the given shape. -/
def isWellFormed {shape : Shape} (descriptor : Descriptor shape) : Bool :=
  descriptor.tagMatches && descriptor.reservedClear

/-- The word read as a descriptor of the given shape, if it is one. -/
def decode? (shape : Shape) (word : Word) : Option (Descriptor shape) :=
  if (⟨word⟩ : Descriptor shape).isWellFormed then some ⟨word⟩ else none

def base {granule : Granule} (descriptor : Descriptor (.mapping granule)) : PhysicalAddress :=
  ⟨(granule.frameField.get descriptor.word).setWidth 32 <<< granule.shift⟩

def table (descriptor : CoarseTableDescriptor) : PhysicalAddress :=
  ⟨(Shape.tableField.get descriptor.word).setWidth 32 <<< 10⟩

def domain {shape : Shape} (descriptor : Descriptor shape) : Domain :=
  ⟨Shape.domainField.get descriptor.word⟩

def inspect {shape : Shape} (descriptor : Descriptor shape) : String :=
  shape.layout.inspect descriptor.word

theorem word_of_decode? {shape : Shape} {word : Word} {descriptor : Descriptor shape}
    (decoded : decode? shape word = some descriptor) :
    descriptor.word = word := by
  unfold decode? at decoded
  split at decoded
  · cases decoded
    rfl
  · cases decoded

end Descriptor

end Armv6Kernel
