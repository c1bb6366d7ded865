import Armv6Kernel.Bits.Word
import Armv6Kernel.Descriptor.Permission
import Armv6Kernel.Register.Domain
import Armv6Kernel.Text.Record

/-!
# Layouts of packed words

A `Layout` lists the named fields of a register or descriptor together with the word that a fresh
value holds.  From the list follow the inspection form, the value of every field, and the two ways
to change one: `assign?` refuses a value that is too wide for its field.
-/

namespace Armv6Kernel

/-- How the bits of a field are read. -/
inductive FieldKind where
  | flag
  /-- A number, exchanged through an integer of `accessorBits` bits. -/
  | number (accessorBits : Nat)
  | permission
  | domain
  deriving DecidableEq, Repr

/-- The value of a field. -/
inductive FieldValue where
  | flag (value : Bool)
  | number (value : Nat)
  | permission (value : AccessPermission)
  | domain (value : Domain)
  deriving DecidableEq, Repr

namespace FieldValue

/-- The value as the number that its bits spell. -/
def toNat : FieldValue → Nat
  | flag value => value.toNat
  | number value => value
  | permission value => value.bits.toNat
  | domain value => value.number

def inspect : FieldValue → String
  | flag value => Record.flag value
  | number value => toString value
  | permission value => value.inspect
  | domain value => value.inspect

end FieldValue

/-- A named field of a packed word. -/
structure NamedField where
  name : String
  width : Nat
  bits : BitField width
  kind : FieldKind
  /-- Whether the field may be read and changed from outside its type. -/
  accessible : Bool
  deriving Repr

namespace NamedField

def flag (name : String) (bits : BitField 1) : NamedField :=
  ⟨name, 1, bits, .flag, true⟩

def number {width : Nat} (name : String) (bits : BitField width) (accessorBits : Nat) :
    NamedField :=
  ⟨name, width, bits, .number accessorBits, true⟩

/-- A field that only its own type may change. -/
def internal {width : Nat} (name : String) (bits : BitField width) : NamedField :=
  ⟨name, width, bits, .number 32, false⟩

def permission (name : String) (bits : BitField 2) : NamedField :=
  ⟨name, 2, bits, .permission, true⟩

def domain (name : String) (bits : BitField 4) : NamedField :=
  ⟨name, 4, bits, .domain, true⟩

def maximum (field : NamedField) : Nat :=
  (BitVec.allOnes field.width).toNat

def value (field : NamedField) (word : Word) : FieldValue :=
  let raw := (field.bits.get word).toNat
  match field.kind with
  | .flag => .flag (raw != 0)
  | .number _ => .number raw
  | .permission => .permission (AccessPermission.masked raw)
  | .domain => .domain (Domain.masked raw)

/-- The word with the field changed, unless the value is too wide for the field. -/
def assign? (field : NamedField) (value : FieldValue) (word : Word) : Option Word :=
  if value.toNat ≤ field.maximum then
    some (field.bits.put (BitVec.ofNat field.width value.toNat) word)
  else
    none

end NamedField

/-- The named fields of a packed word and the word a fresh value holds. -/
structure Layout where
  name : String
  /-- The word of a fresh value, with all should-be-one bits set. -/
  initial : Word
  /-- The fields in declaration order, padding left out. -/
  fields : List NamedField

namespace Layout

def accessibleFields (layout : Layout) : List NamedField :=
  layout.fields.filter (·.accessible)

def field? (layout : Layout) (name : String) : Option NamedField :=
  layout.accessibleFields.find? (·.name == name)

def inspect (layout : Layout) (word : Word) : String :=
  Record.named layout.name (layout.fields.map fun field => (field.name, (field.value word).inspect))

end Layout

end Armv6Kernel
