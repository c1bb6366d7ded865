import Armv6Kernel.Fault.Abort

/-!
# Sorting data aborts

An abort is sorted by its address alone, given the bounds of the heap and the top of the stack
window.  Between the end of the heap and the top of the window, both ends excluded, the stack may
grow.
-/

namespace Armv6Kernel

/-- What kind of abort it is. -/
inductive FaultClass where
  /-- The page should be mapped as part of the stack. -/
  | stackGrowth (page : VirtualAddress)
  /-- Nothing can be done. -/
  | fatal (reason : FatalReason)
  deriving DecidableEq, Repr

def FaultClass.inspect : FaultClass → String
  | stackGrowth page => Record.named "StackGrowth" [("page", page.inspect)]
  | fatal reason => Record.tagged "Fatal" reason.inspect

def DataAbort.classify (abort : DataAbort) (heapStart heapEnd stackTop : VirtualAddress) :
    FaultClass :=
  match abort.trustedAddress? with
  | none => .fatal .untrustedAddress
  | some address =>
      if address.word = 0 then
        .fatal .nullDereference
      else if heapEnd.toNat < address.toNat ∧ address.toNat < stackTop.toNat then
        .stackGrowth (address.alignDown .page4K)
      else if heapStart.toNat ≤ address.toNat ∧ address.toNat ≤ heapEnd.toNat then
        .fatal (.heapAccess heapStart heapEnd)
      else
        .fatal (.outOfRange heapStart heapEnd stackTop)

end Armv6Kernel
