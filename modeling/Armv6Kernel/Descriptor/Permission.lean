/-!
# Access permissions

The two permission bits of a mapping and what each of their values allows.
-/

namespace Armv6Kernel

/-- Who may read and write a mapped address while the mapping is not marked read-only. -/
inductive AccessPermission where
  | noAccess
  | privilegedOnly
  | userReadOnly
  /-- Everybody may read and write. -/
  | fullAccess
  deriving DecidableEq, Repr

namespace AccessPermission

def bits : AccessPermission → BitVec 2
  | noAccess => 0b00
  | privilegedOnly => 0b01
  | userReadOnly => 0b10
  | fullAccess => 0b11

def ofBits (bits : BitVec 2) : AccessPermission :=
  if bits = 0b00 then noAccess
  else if bits = 0b01 then privilegedOnly
  else if bits = 0b10 then userReadOnly
  else fullAccess

/-- The permission in the two low bits of a number. -/
def masked (number : Nat) : AccessPermission :=
  ofBits (BitVec.ofNat 2 number)

def inspect : AccessPermission → String
  | noAccess => "NoAccess"
  | privilegedOnly => "PrivilegedOnly"
  | userReadOnly => "UserReadOnly"
  | fullAccess => "FullAccess"

@[simp]
theorem ofBits_bits (permission : AccessPermission) : ofBits permission.bits = permission := by
  cases permission <;> rfl

@[simp]
theorem bits_ofBits (value : BitVec 2) : (ofBits value).bits = value := by
  revert value
  decide

end AccessPermission

end Armv6Kernel
