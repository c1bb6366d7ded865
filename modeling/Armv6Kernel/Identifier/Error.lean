import Armv6Kernel.Text.Record

/-!
# Failures of handing out identifiers
-/

namespace Armv6Kernel

/-- Why an identifier could not be handed out or taken back. -/
inductive IdentifierError where
  | exhausted (capacity : Nat)
  | notAllocated (identifier : Nat)
  | outOfRange (identifier capacity : Nat)
  deriving DecidableEq, Repr

namespace IdentifierError

def display : IdentifierError → String
  | exhausted capacity => "all " ++ toString capacity ++ " ids are allocated"
  | notAllocated identifier => "id " ++ toString identifier ++ " is not allocated"
  | outOfRange identifier capacity =>
      "id " ++ toString identifier ++ " is out of range (capacity " ++ toString capacity ++ ")"

def inspect : IdentifierError → String
  | exhausted capacity => Record.named "Exhausted" [("capacity", toString capacity)]
  | notAllocated identifier => Record.tagged "NotAllocated" (toString identifier)
  | outOfRange identifier capacity =>
      Record.named "OutOfRange" [("id", toString identifier), ("capacity", toString capacity)]

end IdentifierError

end Armv6Kernel
