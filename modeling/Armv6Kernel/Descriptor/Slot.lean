import Armv6Kernel.AddressSpace.MapError
import Armv6Kernel.Descriptor.Basic

/-!
# Table slots

A slot of a translation table holds a raw word.  The two low bits select the shape it is read as; a
word that the kernel never writes is kept as unsupported.
-/

namespace Armv6Kernel

/-- A raw slot of a translation table. -/
structure Slot (level : TableLevel) where
  word : Word
  deriving DecidableEq, Repr, Inhabited

namespace Slot

/-- The two low bits of the slot. -/
def tag {level : TableLevel} (slot : Slot level) : BitVec 2 :=
  slot.word.extractLsb' 0 2

/-- Whether the slot maps nothing. -/
def isFault {level : TableLevel} (slot : Slot level) : Bool :=
  slot.tag == 0b00

end Slot

/-- What a slot of a first-level table means. -/
inductive FirstLevelEntry where
  | fault
  | coarse (descriptor : CoarseTableDescriptor)
  | section1M (descriptor : SectionDescriptor)
  /-- The slot holds a word that is never written: the unused tag, or reserved bits set. -/
  | unsupported (word : Word)
  deriving DecidableEq, Repr

/-- What a slot of a coarse table means. -/
inductive SecondLevelEntry where
  | fault
  | page64K (descriptor : LargePageDescriptor)
  | page4K (descriptor : SmallPageDescriptor)
  /-- The slot holds a large-page tag with reserved bits set. -/
  | unsupported (word : Word)
  deriving DecidableEq, Repr

def Slot.firstLevelEntry (slot : Slot .first) : FirstLevelEntry :=
  if slot.tag = 0b00 then
    .fault
  else if slot.tag = 0b01 then
    match Descriptor.decode? .coarse slot.word with
    | some descriptor => .coarse descriptor
    | none => .unsupported slot.word
  else if slot.tag = 0b10 then
    match Descriptor.decode? (.mapping .section1M) slot.word with
    | some descriptor => .section1M descriptor
    | none => .unsupported slot.word
  else
    .unsupported slot.word

def Slot.secondLevelEntry (slot : Slot .coarse) : SecondLevelEntry :=
  if slot.tag = 0b00 then
    .fault
  else if slot.tag = 0b01 then
    match Descriptor.decode? (.mapping .page64K) slot.word with
    | some descriptor => .page64K descriptor
    | none => .unsupported slot.word
  else
    .page4K ⟨slot.word⟩

def FirstLevelEntry.inspect : FirstLevelEntry → String
  | fault => "Fault"
  | coarse descriptor => Record.tagged "Coarse" descriptor.inspect
  | section1M descriptor => Record.tagged "Section" descriptor.inspect
  | unsupported word => Record.tagged "Unsupported" (toString word.toNat)

def SecondLevelEntry.inspect : SecondLevelEntry → String
  | fault => "Fault"
  | page64K descriptor => Record.tagged "Large" descriptor.inspect
  | page4K descriptor => Record.tagged "Small" descriptor.inspect
  | unsupported word => Record.tagged "Unsupported" (toString word.toNat)

def Slot.inspectFirstLevel (slot : Slot .first) : String :=
  Record.tagged "FLD" <|
    match slot.firstLevelEntry with
    | .fault => "fault"
    | .coarse descriptor => descriptor.inspect
    | .section1M descriptor => descriptor.inspect
    | .unsupported word => "unsupported " ++ Numeral.binary 32 word.toNat

def Slot.inspectSecondLevel (slot : Slot .coarse) : String :=
  Record.tagged "SLD" <|
    match slot.secondLevelEntry with
    | .fault => "fault"
    | .page64K descriptor => descriptor.inspect
    | .page4K descriptor => descriptor.inspect
    | .unsupported word => "unsupported " ++ Numeral.binary 32 word.toNat

end Armv6Kernel
