/-!
# Exceptions without a handler

Every exception except the data abort ends the run.
-/

namespace Armv6Kernel

/-- An exception that the kernel has no handler for. -/
inductive Exception where
  | reset
  | undefinedInstruction
  /-- A supervisor call was made. -/
  | softwareInterrupt
  /-- An instruction could not be fetched. -/
  | prefetchAbort
  | interrupt
  /-- A device asked for attention on the fast line. -/
  | fastInterrupt
  deriving DecidableEq, Repr

namespace Exception

def name : Exception → String
  | reset => "reset vector"
  | undefinedInstruction => "undefined instruction"
  | softwareInterrupt => "soft interrupt"
  | prefetchAbort => "prefetch abort"
  | interrupt => "general interrupt"
  | fastInterrupt => "fast"

def inspect : Exception → String
  | reset => "Reset"
  | undefinedInstruction => "UndefinedInstruction"
  | softwareInterrupt => "SoftwareInterrupt"
  | prefetchAbort => "PrefetchAbort"
  | interrupt => "Interrupt"
  | fastInterrupt => "FastInterrupt"

end Exception

end Armv6Kernel
