import Armv6Kernel.Address.Report
import Armv6Kernel.AddressSpace.Walk
import Armv6Kernel.Descriptor.Encode

/-!
# Reports of table slots

A slot is reported with its raw word and with what the word means.  The meaning is encoded again, so
that the report shows whether it stands for the same word.
-/

namespace Armv6Kernel

instance {shape : Shape} : Reported (Descriptor shape) := ⟨fun descriptor => report descriptor.word⟩

namespace FirstLevelEntry

def name : FirstLevelEntry → String
  | fault => "fault"
  | coarse _ => "coarse"
  | section1M _ => "section"
  | unsupported _ => "unsupported"

end FirstLevelEntry

namespace SecondLevelEntry

def name : SecondLevelEntry → String
  | fault => "fault"
  | page64K _ => "large"
  | page4K _ => "small"
  | unsupported _ => "unsupported"

end SecondLevelEntry

instance : Reported (Slot .first) := ⟨fun slot => .parts [
  part "raw" slot.word,
  part "tag" slot.tag,
  part "is_fault" slot.isFault,
  part "kind" slot.firstLevelEntry.name,
  part "kind_raw" slot.firstLevelEntry.encode,
  part "debug" slot.inspectFirstLevel,
  part "kind_debug" slot.firstLevelEntry.inspect]⟩

instance : Reported (Slot .coarse) := ⟨fun slot => .parts [
  part "raw" slot.word,
  part "is_fault" slot.isFault,
  part "kind" slot.secondLevelEntry.name,
  part "kind_raw" slot.secondLevelEntry.encode,
  part "debug" slot.inspectSecondLevel,
  part "kind_debug" slot.secondLevelEntry.inspect]⟩

instance : Reported WalkedSlots := ⟨fun slots =>
  .parts (part "first" slots.first :: slots.second.toList.map (part "second"))⟩

instance : Reported AddressSpace := ⟨fun space => report space.root⟩

end Armv6Kernel
