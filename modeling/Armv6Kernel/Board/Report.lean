import Armv6Kernel.Board.BringUp
import Armv6Kernel.Irq.Mask
import Armv6Kernel.Text.Report

/-!
# Report of the constants of the board

The addresses and limits that other programs for the board rely on.
-/

namespace Armv6Kernel

def boardReport : Report :=
  let config := VirtualMemoryConfig.standard
  .parts [
    part "memory" [
      MemoryMap.sectionBytes, MemoryMap.kernelBase, MemoryMap.userProgramBase,
      MemoryMap.callStackTop, MemoryMap.interruptStackTop, MemoryMap.systemStackTop,
      MemoryMap.heapStart, MemoryMap.userSpaceStart, MemoryMap.heapLimit,
      MemoryMap.stackWindowTop, MemoryMap.peripheralBase, MemoryMap.gpioBase,
      MemoryMap.interruptDisableLow, MemoryMap.interruptDisableHigh, MemoryMap.uartData,
      MemoryMap.uartLineStatus],
    part "vm" [
      Capacity.domains, Capacity.reservedDomains, Capacity.asids, Capacity.reservedAsids,
      Capacity.environments, TableLevel.first.entries, TableLevel.coarse.entries],
    part "config" [
      config.domains, config.reservedDomains, config.asids, config.reservedAsids,
      config.maxEnvironments, config.stackTop.toNat],
    part "tables" [
      TableLevel.first.bytes, TableLevel.first.bytes, TableLevel.coarse.bytes,
      TableLevel.coarse.bytes],
    part "flags" [MapFlags.kernel.word, MapFlags.device.word],
    part "misc" [
      Domain.count, ContextId.maxProcess, ContextId.reserved.word.toNat,
      IdentifierPool.maxCapacity, BumpHeap.minAlignment.toNat, AddressSpace.largePageCopies,
      AddressSpace.largePageLimit, VirtualMemory.initialStackPages,
      (ProgramStatus.masked 0).toNat],
    part "sections" (VirtualMemory.identitySections.map fun region =>
      [report region.base, report region.flags.word, report region.name])]

end Armv6Kernel
