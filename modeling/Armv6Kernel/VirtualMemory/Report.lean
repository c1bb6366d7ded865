import Armv6Kernel.Address.Report
import Armv6Kernel.Register.Report
import Armv6Kernel.VirtualMemory.Basic

/-!
# Reports of virtual memory
-/

namespace Armv6Kernel

instance : Reported EnvironmentId := ⟨fun id => report id.slot⟩

instance : Reported Environment := ⟨fun environment => .parts [
  part "slot" environment.id,
  part "pid" environment.process,
  part "domain" environment.domain.bits,
  part "asid" environment.asid,
  part "dacr" environment.domainAccess.word,
  part "root" environment.root,
  part "debug" environment.inspect]⟩

instance : Reported AllocationError := ⟨fun error =>
  let kind :=
    match error with
    | .noSlot _ => "NoEnvironmentSlot"
    | .noDomain _ => "NoDomain"
    | .noAsid _ => "NoAsid"
    | .noProcess _ => "NoProcessId"
    | .map _ => "Map"
  .parts (errorParts kind error.display error.inspect
    (error.cause?.map IdentifierError.display))⟩

instance : Reported VirtualMemory := ⟨fun state => .parts [
  part "on" state.mmuIsOn,
  part "active" state.active,
  part "heap" [state.heap.heapStart, state.heap.heapEnd],
  part "cp15" state.registers.history]⟩

end Armv6Kernel
