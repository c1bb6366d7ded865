import Armv6Kernel.Bits.Assignment
import Armv6Kernel.Effect.Report
import Armv6Kernel.Table.Index

/-!
# Reports of addresses

An address is reported as a number.  A split shows what a granule makes of an address, and a
comparison how it relates to another one.
-/

namespace Armv6Kernel

instance {kind : AddressKind} : Reported (Address kind) := ⟨fun address => report address.word⟩

namespace Address

variable {kind : AddressKind}

def splitParts (granule : Granule) (address : Address kind) : List (String × Report) := [
  part "u32" address,
  part "aligned" (address.isAligned granule),
  part "align_down" (address.alignDown granule),
  part "offset" (address.offset granule),
  part "frame" (address.frame granule),
  part "display" address.display,
  part "debug" address.inspect,
  part "size" [granule.bytes, granule.shift],
  part "size_text" [granule.label, granule.label, granule.label],
  part "is_default" (decide (address = ⟨0⟩))]

/-- The parts that only an address of a definite kind has. -/
def kindParts (address : Address kind) : List (String × Report) :=
  if kind = .memory then []
  else [part "bits" address, part "is_zero" (decide (address = ⟨0⟩))]

/-- How the first number relates to the second. -/
def orderName (first second : Nat) : String :=
  match compare first second with
  | .lt => "Less"
  | .eq => "Equal"
  | .gt => "Greater"

/-- The parts of an address beside another one. -/
def comparisonParts (first second : Address kind) : List (String × Report) :=
  let sum := first.add second.word
  [part "add" sum, part "add_assign" sum,
    part "cmp" (orderName first.toNat second.toNat)]

end Address

/-- The indices of the slots that cover an address.  They are the number of its section and that of
its page inside the section. -/
def VirtualAddress.indexReport (address : VirtualAddress) : Report :=
  let first := FirstLevelIndex.ofAddress address
  let second := SecondLevelIndex.ofAddress address
  let same := first.toNat = (address.frame .section1M).toNat ∧
    second.toNat = (address.frame .page4K).toNat % TableLevel.coarse.entries
  .parts [
    part "first" first.bits,
    part "second" second.bits,
    part "debug" [first.inspect, second.inspect],
    part "same" (decide same)]

end Armv6Kernel
