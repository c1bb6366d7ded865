import Armv6Kernel.Address.Report
import Armv6Kernel.Fault.Handler

/-!
# Reports of faults

Aborts, verdicts, and what was done about them.  The recorded address and domain are shown twice: as
recorded, and only where the status makes them meaningful.
-/

namespace Armv6Kernel

instance : Reported FaultStatus := ⟨fun status => .parts [
  part "bits" status.bits,
  part "description" status.description,
  part "domain" status.recordsDomain,
  part "address" status.recordsAddress,
  part "display" status.display,
  part "debug" status.inspect]⟩

instance : Reported DataAbort := ⟨fun abort => .parts [
  part "pc" abort.pc,
  part "access" abort.direction.display,
  part "status" abort.status.bits,
  part "domain" abort.domain,
  part "address" abort.address,
  part "trusted_address" abort.trustedAddress?,
  part "trusted_domain" (abort.trustedDomain?.map Domain.number),
  part "display" abort.display,
  part "debug" abort.inspect]⟩

instance : Reported FatalReason := ⟨fun reason => .parts [
  part "display" reason.display,
  part "debug" reason.inspect,
  part "source" (reason.cause?.map MapError.display)]⟩

instance : Reported FatalFault := ⟨fun fault =>
  .parts (errorParts "FatalFault" fault.display fault.inspect none ++ [
    part "reason" fault.reason, part "abort" fault.abort, part "source" ()])⟩

instance : Reported FaultClass := ⟨fun
  | .stackGrowth page => .parts [part "grow" page]
  | .fatal reason => .parts [part "fatal" reason]⟩

instance : Reported FaultResolution := ⟨fun
  | .stackGrown page descriptor => .parts [
      part "page" page,
      part "descriptor" descriptor.word,
      part "debug" (FaultResolution.stackGrown page descriptor).inspect]⟩

end Armv6Kernel
