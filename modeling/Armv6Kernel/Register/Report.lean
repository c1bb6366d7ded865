import Armv6Kernel.Address.Report
import Armv6Kernel.Mmu.Registers

/-!
# Reports of packed words and system registers

A packed word is reported with the value of every field that can be read from outside.
-/

namespace Armv6Kernel

instance : Reported AccessPermission := ⟨fun permission =>
  .list [report permission.bits, report permission.inspect]⟩

instance : Reported DomainAccess := ⟨fun access =>
  .list [report access.bits, report access.inspect]⟩

instance : Reported Domain := ⟨fun domain =>
  .list [report domain.bits, report (toString domain.number), report domain.inspect]⟩

instance : Reported FieldValue := ⟨fun
  | .flag value => report value
  | .number value => report value
  | .permission value => report value
  | .domain value => report value⟩

def Layout.parts (layout : Layout) (word : Word) : List (String × Report) :=
  let fields := layout.accessibleFields.map fun field => (field.name, report (field.value word))
  [part "bits" word, ("fields", .parts fields), part "debug" (layout.inspect word)]

def DomainAccessControl.parts (register : DomainAccessControl) : List (String × Report) := [
  part "bits" register.word,
  part "get" ((List.range Domain.count).map fun number =>
    register.access (Domain.masked number)),
  part "debug" register.inspect]

instance : Reported RegisterEvent := ⟨fun
  | .control value => .list [.text "control", report value.word]
  | .domainAccess value => .list [.text "dacr", report value.word]
  | .tableBase value => .list [.text "ttbr0", report value.word]
  | .contextId value => .list [.text "context_id", report value.word]
  | .barrier => .text "barrier"
  | .invalidateTlb => .text "invalidate_tlb"
  | .cleanInvalidateDataCache => .text "clean_invalidate_dcache"
  | .invalidateInstructionCache => .text "invalidate_icache"
  | .flushBranchTargets => .text "flush_branch_targets"⟩

/-- The values of the registers: those that control translation, then those that describe the last
fault. -/
def SystemRegisters.words (registers : SystemRegisters) : List Word := [
  registers.control.word, registers.domainAccess.word, registers.tableBase.word,
  registers.contextId.word, registers.faultStatus.word, registers.faultAddress.word]

end Armv6Kernel
