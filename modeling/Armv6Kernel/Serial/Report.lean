import Armv6Kernel.Address.Report
import Armv6Kernel.Serial.MiniUart

/-!
# Reports of the serial line
-/

namespace Armv6Kernel

instance : Reported Stalled := ⟨fun _ => .text "stalled"⟩

instance : Reported BusEvent := ⟨fun
  | .read address value => .list [.text "r", report address, report value]
  | .write address value => .list [.text "w", report address, report value]
  | .barrier => .text "barrier"⟩

end Armv6Kernel
