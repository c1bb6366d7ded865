import Armv6Kernel.Address.Basic
import Armv6Kernel.AddressSpace.MapError
import Armv6Kernel.Fault.Status
import Armv6Kernel.Register.DataFaultStatus

/-!
# Data aborts and their verdicts

A `DataAbort` is decoded from the two fault registers.  It is either resolved by growing the stack
or fatal for one of the listed reasons.
-/

namespace Armv6Kernel

/-- The direction of a memory access. -/
inductive AccessDirection where
  | read
  /-- The access was a store. -/
  | write
  deriving DecidableEq, Repr

namespace AccessDirection

def display : AccessDirection → String
  | read => "read"
  | write => "write"

def inspect : AccessDirection → String
  | read => "Read"
  | write => "Write"

end AccessDirection

/-- One decoded data abort. -/
structure DataAbort where
  pc : Word
  direction : AccessDirection
  status : FaultStatus
  domain : BitVec 4
  /-- The recorded address, whether or not the status makes it meaningful. -/
  address : VirtualAddress
  deriving DecidableEq, Repr

namespace DataAbort

/-- The abort that the fault registers describe. -/
def decode (pc : Word) (status : DataFaultStatus) (address : VirtualAddress) : DataAbort where
  pc := pc
  direction := if status.isWrite then .write else .read
  status := ⟨status.status⟩
  domain := status.domain
  address := address

/-- The faulting address, if the status makes the recorded one meaningful. -/
def trustedAddress? (abort : DataAbort) : Option VirtualAddress :=
  if abort.status.recordsAddress then some abort.address else none

/-- The faulting domain, if the status makes the recorded one meaningful. -/
def trustedDomain? (abort : DataAbort) : Option Domain :=
  if abort.status.recordsDomain then some ⟨abort.domain⟩ else none

def display (abort : DataAbort) : String :=
  let doubt := fun (trusted : Bool) => if trusted then "" else " (invalid!)"
  "data abort at pc=" ++ Numeral.hexWord abort.pc.toNat ++ ": " ++ abort.direction.display ++
    " access, address " ++ abort.address.display ++ doubt abort.status.recordsAddress ++
    ", domain " ++ toString abort.domain.toNat ++ doubt abort.status.recordsDomain ++
    ", status " ++ abort.status.display

def inspect (abort : DataAbort) : String :=
  Record.named "DataAbort" [
    ("pc", toString abort.pc.toNat),
    ("access", abort.direction.inspect),
    ("status", abort.status.inspect),
    ("domain", toString abort.domain.toNat),
    ("address", abort.address.inspect)]

end DataAbort

/-- Why an abort cannot be resolved. -/
inductive FatalReason where
  /-- The status does not record the address. -/
  | untrustedAddress
  | nullDereference
  | heapAccess (heapStart heapEnd : VirtualAddress)
  /-- The access was neither in the heap nor in the stack window. -/
  | outOfRange (heapStart heapEnd stackTop : VirtualAddress)
  | noActiveEnvironment
  /-- The page is mapped, so that growing the stack would not help. -/
  | alreadyMapped (page : VirtualAddress)
  /-- There is no memory for the tables of a new stack page. -/
  | outOfMemory (cause : MapError)
  deriving DecidableEq, Repr

namespace FatalReason

def display : FatalReason → String
  | untrustedAddress => "fault address is not valid for this status"
  | nullDereference => "illegal access of the null address"
  | heapAccess heapStart heapEnd =>
      "access inside the live heap <" ++ heapStart.display ++ ", " ++ heapEnd.display ++ ">"
  | outOfRange heapStart heapEnd stackTop =>
      "outside of heap <" ++ heapStart.display ++ ", " ++ heapEnd.display ++
        "> and stack window (below " ++ stackTop.display ++ ")"
  | noActiveEnvironment => "no active environment to grow the stack in"
  | alreadyMapped page => "page " ++ page.display ++ " is already mapped"
  | outOfMemory cause => "stack growth failed: " ++ cause.display

def inspect : FatalReason → String
  | untrustedAddress => "UntrustedAddress"
  | nullDereference => "NullDereference"
  | heapAccess heapStart heapEnd =>
      Record.named "HeapAccess" [("start", heapStart.inspect), ("end", heapEnd.inspect)]
  | outOfRange heapStart heapEnd stackTop =>
      Record.named "OutOfRange" [
        ("heap_start", heapStart.inspect),
        ("heap_end", heapEnd.inspect),
        ("stack_top", stackTop.inspect)]
  | noActiveEnvironment => "NoActiveEnvironment"
  | alreadyMapped page => Record.tagged "AlreadyMapped" page.inspect
  | outOfMemory cause => Record.tagged "OutOfMemory" cause.inspect

def cause? : FatalReason → Option MapError
  | outOfMemory cause => some cause
  | _ => none

end FatalReason

/-- A data abort that cannot be resolved. -/
structure FatalFault where
  abort : DataAbort
  /-- Why it cannot be resolved. -/
  reason : FatalReason
  deriving DecidableEq, Repr

namespace FatalFault

def display (fault : FatalFault) : String :=
  fault.reason.display ++ "; " ++ fault.abort.display

def inspect (fault : FatalFault) : String :=
  Record.named "FatalFault" [("abort", fault.abort.inspect), ("reason", fault.reason.inspect)]

end FatalFault

end Armv6Kernel
