import Armv6Kernel.Text.Record

/-!
# Protection domains

Every mapping belongs to one of sixteen domains, and a register holds for each domain how its
mappings may be used.
-/

namespace Armv6Kernel

/-- A protection domain. -/
structure Domain where
  /-- The number of the domain as it appears in descriptors. -/
  bits : BitVec 4
  deriving DecidableEq, Repr, Inhabited

namespace Domain

/-- The number of domains that the descriptor format can address. -/
def count : Nat := 16

def number (domain : Domain) : Nat :=
  domain.bits.toNat

def ofNat? (number : Nat) : Option Domain :=
  if number < count then some ⟨BitVec.ofNat 4 number⟩ else none

/-- The domain in the four low bits of a number. -/
def masked (number : Nat) : Domain :=
  ⟨BitVec.ofNat 4 number⟩

def inspect (domain : Domain) : String :=
  Record.tagged "Domain" (toString domain.number)

end Domain

/-- How the mappings of a domain may be used. -/
inductive DomainAccess where
  | noAccess
  /-- Accesses are checked against the permission bits of the mapping. -/
  | client
  /-- An encoding without a meaning of its own; every access faults. -/
  | reserved
  | manager
  deriving DecidableEq, Repr

namespace DomainAccess

/-- The two bits that encode the access. -/
def bits : DomainAccess → BitVec 2
  | noAccess => 0b00
  | client => 0b01
  | reserved => 0b10
  | manager => 0b11

/-- The access that two bits encode. -/
def ofBits (bits : BitVec 2) : DomainAccess :=
  if bits = 0b00 then noAccess
  else if bits = 0b01 then client
  else if bits = 0b10 then reserved
  else manager

/-- The access in the two low bits of a number. -/
def masked (number : Nat) : DomainAccess :=
  ofBits (BitVec.ofNat 2 number)

def inspect : DomainAccess → String
  | noAccess => "NoAccess"
  | client => "Client"
  | reserved => "Reserved"
  | manager => "Manager"

@[simp]
theorem ofBits_bits (access : DomainAccess) : ofBits access.bits = access := by
  cases access <;> rfl

@[simp]
theorem bits_ofBits (value : BitVec 2) : (ofBits value).bits = value := by
  revert value
  decide

end DomainAccess

end Armv6Kernel
