import Armv6Kernel.Bits.Word
import Armv6Kernel.Register.Domain
import Armv6Kernel.Text.Numeral

/-!
# The domain access register

Sixteen two-bit cells, one for each domain.  Granting access to a domain changes its own cell and no
other.
-/

namespace Armv6Kernel

structure DomainAccessControl where
  word : Word
  deriving DecidableEq, Repr

namespace DomainAccessControl

def fresh : DomainAccessControl :=
  ⟨0⟩

def cell (domain : Domain) : BitField 2 :=
  ⟨2 * domain.number⟩

def access (register : DomainAccessControl) (domain : Domain) : DomainAccess :=
  .ofBits ((cell domain).get register.word)

def grant (register : DomainAccessControl) (domain : Domain) (access : DomainAccess) :
    DomainAccessControl :=
  ⟨(cell domain).put access.bits register.word⟩

/-- The value that gives access to one domain and forbids all others. -/
def only (domain : Domain) (access : DomainAccess) : DomainAccessControl :=
  fresh.grant domain access

def inspect (register : DomainAccessControl) : String :=
  Record.tagged "DomainAccessControl" (Numeral.binary 32 register.word.toNat)

theorem cell_fits (domain : Domain) : (cell domain).Fits := by
  have bound := domain.bits.isLt
  simp only [BitField.Fits, cell, Domain.number]
  omega

theorem cell_apart {first second : Domain} (different : first ≠ second) :
    (cell first).Apart (cell second) := by
  have numbersDiffer : first.number ≠ second.number := fun equal => by
    apply different
    cases first
    cases second
    congr
    exact BitVec.eq_of_toNat_eq equal
  simp only [BitField.Apart, cell]
  omega

@[simp]
theorem access_grant (register : DomainAccessControl) (domain : Domain) (access : DomainAccess) :
    (register.grant domain access).access domain = access := by
  simp [DomainAccessControl.access, grant, cell_fits]

theorem access_grant_of_ne (register : DomainAccessControl) {first second : Domain}
    (different : first ≠ second) (access : DomainAccess) :
    (register.grant second access).access first = register.access first := by
  simp only [DomainAccessControl.access, grant]
  rw [BitField.get_put_of_apart _ _ (cell_apart different)]

end DomainAccessControl

end Armv6Kernel
