import Armv6Kernel.Bits.Layout
import Armv6Kernel.Effect.Panic

/-!
# Assigning fields

Unchecked assignment to a field of a packed word.  Where the checked form refuses a value that is
too wide, this one panics and names the largest value the field holds.
-/

namespace Armv6Kernel

/-- The word with the field changed; panics if the value is too wide for the field. -/
def NamedField.assign (field : NamedField) (value : FieldValue) (word : Word) :
    Except Panic Word :=
  match field.assign? value word with
  | some changed => .ok changed
  | none => .error (.valueOutOfBounds field.maximum)

theorem NamedField.assign_eq_ok_iff (field : NamedField) (value : FieldValue)
    (word changed : Word) :
    field.assign value word = .ok changed ↔ field.assign? value word = some changed := by
  unfold NamedField.assign
  split <;> simp [*]

/-- The domain with the given number; panics if there is none. -/
def Domain.ofNat (number : Nat) : Except Panic Domain :=
  match Domain.ofNat? number with
  | some domain => .ok domain
  | none => .error .domainOutOfRange

/-- The address `count` bytes further on; panics if it lies outside the address space. -/
def Address.add {kind : AddressKind} (address : Address kind) (count : Word) :
    Except Panic (Address kind) :=
  match address.add? count with
  | some sum => .ok sum
  | none => .error .additionOverflow

end Armv6Kernel
