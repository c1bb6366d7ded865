import Armv6Kernel.Address.Granule
import Armv6Kernel.Bits.Layout

/-!
# Descriptor shapes

A translation-table entry maps one granule or points to a coarse second-level table.  Each of the
four shapes has a tag in its low bits, reserved bits that must be zero, and its own places for the
attributes of a mapping; this module is the table of those places.
-/

namespace Armv6Kernel

/-- The shape of a translation-table entry. -/
inductive Shape where
  | mapping (granule : Granule)
  /-- The entry points to a coarse second-level table. -/
  | coarse
  deriving DecidableEq, Repr

/-- Where the attributes of a mapping lie in its descriptor. -/
structure AttributeFields where
  bufferable : BitField 1
  cacheable : BitField 1
  executeNever : BitField 1
  permission : BitField 2
  typeExtension : BitField 3
  readOnly : BitField 1
  shared : BitField 1
  /-- The bit that tags translations with the address space identifier. -/
  notGlobal : BitField 1

namespace Granule

/-- Where the attributes of a mapping of this size lie. -/
def attributes : Granule → AttributeFields
  | page4K => ⟨⟨2⟩, ⟨3⟩, ⟨0⟩, ⟨4⟩, ⟨6⟩, ⟨9⟩, ⟨10⟩, ⟨11⟩⟩
  | page64K => ⟨⟨2⟩, ⟨3⟩, ⟨15⟩, ⟨4⟩, ⟨12⟩, ⟨9⟩, ⟨10⟩, ⟨11⟩⟩
  | section1M => ⟨⟨2⟩, ⟨3⟩, ⟨4⟩, ⟨10⟩, ⟨12⟩, ⟨15⟩, ⟨16⟩, ⟨17⟩⟩

/-- The bits above the offset, which hold the frame number of a mapping. -/
def frameField (granule : Granule) : BitField (32 - granule.shift) :=
  ⟨granule.shift⟩

end Granule

namespace Shape

/-- The domain of a first-level descriptor. -/
def domainField : BitField 4 := ⟨5⟩

/-- The bits of a coarse pointer that hold the number of the table, which is aligned to 1 KiB. -/
def tableField : BitField 22 := ⟨10⟩

def noun : Shape → String
  | mapping granule => granule.noun
  | coarse => "coarse"

/-- The bits that hold the tag. -/
def tagMask : Shape → Word
  | mapping .page4K => 0b10
  | mapping .page64K => 0b11
  | mapping .section1M => 0b11
  | coarse => 0b11

def tag : Shape → Word
  | mapping .page4K => 0b10
  | mapping .page64K => 0b01
  | mapping .section1M => 0b10
  | coarse => 0b01

/-- The bits that must be zero. -/
def reservedMask : Shape → Word
  | mapping .page4K => 0
  | mapping .page64K => 0b111 <<< 6
  | mapping .section1M => 1 <<< 9 ||| 1 <<< 18 ||| 1 <<< 19
  | coarse => 0b111 <<< 2 ||| 1 <<< 9

/-- The fields of an entry of this shape.  A fresh entry holds the tag and nothing else. -/
def layout : Shape → Layout
  | mapping .page4K =>
      let places := Granule.page4K.attributes
      { name := "SmallPageDescriptor"
        initial := (mapping .page4K).tag
        fields := [
          .flag "xn_execute_never" places.executeNever,
          .flag "b_bufferable" places.bufferable,
          .flag "c_cacheable" places.cacheable,
          .permission "ap" places.permission,
          .number "tex" places.typeExtension 8,
          .flag "apx" places.readOnly,
          .flag "s_shared" places.shared,
          .flag "ng_not_global" places.notGlobal,
          .number "base_4k" Granule.page4K.frameField 32] }
  | mapping .page64K =>
      let places := Granule.page64K.attributes
      { name := "LargePageDescriptor"
        initial := (mapping .page64K).tag
        fields := [
          .flag "b_bufferable" places.bufferable,
          .flag "c_cacheable" places.cacheable,
          .permission "ap" places.permission,
          .flag "apx" places.readOnly,
          .flag "s_shared" places.shared,
          .flag "ng_not_global" places.notGlobal,
          .number "tex" places.typeExtension 8,
          .flag "xn_execute_never" places.executeNever,
          .number "base_64k" Granule.page64K.frameField 16] }
  | mapping .section1M =>
      let places := Granule.section1M.attributes
      { name := "SectionDescriptor"
        initial := (mapping .section1M).tag
        fields := [
          .flag "b_bufferable" places.bufferable,
          .flag "c_cacheable" places.cacheable,
          .flag "xn_execute_never" places.executeNever,
          .domain "domain" domainField,
          .permission "ap" places.permission,
          .number "tex" places.typeExtension 8,
          .flag "apx" places.readOnly,
          .flag "s_shared" places.shared,
          .flag "ng_not_global" places.notGlobal,
          .number "base_1m" Granule.section1M.frameField 16] }
  | coarse =>
      { name := "CoarseTableDescriptor"
        initial := coarse.tag
        fields := [
          .domain "domain" domainField,
          .number "base_1k" tableField 32] }

end Shape

end Armv6Kernel
