import Armv6Kernel.Bits.Layout

/-!
# Mapping flags

The attributes that a caller asks for when it maps memory, independent of the shape of the
descriptor that will carry them.  A permission counts only if it is marked as explicit; otherwise
everybody may read and write.
-/

namespace Armv6Kernel

/-- The attributes asked for in a mapping. -/
structure MapFlags where
  word : Word
  deriving DecidableEq, Repr

namespace MapFlags

/-- The access permission, meaningful only if marked as explicit. -/
def permissionField : BitField 2 := ⟨0⟩

/-- The mark that the access permission counts. -/
def explicitPermission : BitField 1 := ⟨2⟩

def cacheable : BitField 1 := ⟨3⟩

def bufferable : BitField 1 := ⟨4⟩

def readOnly : BitField 1 := ⟨5⟩

/-- The attribute that tags translations with the address space identifier. -/
def notGlobal : BitField 1 := ⟨6⟩

def shared : BitField 1 := ⟨7⟩

def executeNever : BitField 1 := ⟨8⟩

def layout : Layout where
  name := "MapFlags"
  initial := 0
  fields := [
    .permission "ap" permissionField,
    .flag "explicit_ap" explicitPermission,
    .flag "cacheable" cacheable,
    .flag "bufferable" bufferable,
    .flag "apx" readOnly,
    .flag "not_global" notGlobal,
    .flag "shared" shared,
    .flag "execute_never" executeNever]

def none : MapFlags :=
  ⟨layout.initial⟩

def kernel : MapFlags :=
  ⟨bufferable.assign true (cacheable.assign true none.word)⟩

/-- Device registers: strongly ordered and never executed. -/
def device : MapFlags :=
  ⟨executeNever.assign true none.word⟩

def withPermission (flags : MapFlags) (permission : AccessPermission) : MapFlags :=
  ⟨explicitPermission.assign true (permissionField.put permission.bits flags.word)⟩

def permission (flags : MapFlags) : AccessPermission :=
  if explicitPermission.test flags.word then
    .ofBits (permissionField.get flags.word)
  else
    .fullAccess

def inspect (flags : MapFlags) : String :=
  layout.inspect flags.word

@[simp]
theorem permission_withPermission (flags : MapFlags) (permission : AccessPermission) :
    (flags.withPermission permission).permission = permission := by
  have fits : explicitPermission.Fits := by decide
  have apart : permissionField.Apart explicitPermission := by decide
  have permissionFits : permissionField.Fits := by decide
  simp only [MapFlags.permission, withPermission, BitField.test_assign _ fits, ↓reduceIte]
  rw [BitField.assign, BitField.get_put_of_apart _ _ apart, BitField.get_put _ permissionFits]
  exact AccessPermission.ofBits_bits permission

end MapFlags

end Armv6Kernel
