import Mathlib.Algebra.BigOperators.Fin
import Armv6Kernel.Register.DomainAccessControl

/-!
# The domain access register as sixteen cells

Reading a cell gives the access that was last granted to its domain, whatever was granted to others
before or after.  The word is the sum of the sixteen cells, each in its place, so there is exactly
one word for every choice of sixteen accesses.
-/

namespace Armv6Kernel

/-- A domain is its number below sixteen. -/
def Domain.equivFin : Domain ≃ Fin Domain.count where
  toFun domain := domain.bits.toFin
  invFun number := ⟨.ofFin number⟩
  left_inv _ := rfl
  right_inv _ := rfl

instance : Fintype Domain :=
  .ofEquiv _ Domain.equivFin.symm

/-- Access given to a domain. -/
structure DomainGrant where
  domain : Domain
  access : DomainAccess
  deriving DecidableEq, Repr

namespace DomainAccessControl

/-- The register after grants one after the other. -/
def grantAll (register : DomainAccessControl) (grants : List DomainGrant) : DomainAccessControl :=
  grants.foldl (fun register made => register.grant made.domain made.access) register

/-- The access that a domain was last granted, or else the one that it had at first. -/
def lastGranted (domain : Domain) (grants : List DomainGrant) (initial : DomainAccess) :
    DomainAccess :=
  grants.foldl (fun access made => if made.domain = domain then made.access else access) initial

variable (register : DomainAccessControl) {first second : Domain}

/-! ## Reading what was granted -/

theorem access_only (domain : Domain) (access : DomainAccess) :
    (only domain access).access domain = access :=
  access_grant fresh domain access

theorem access_only_of_ne (different : first ≠ second) (access : DomainAccess) :
    (only second access).access first = .noAccess := by
  have cleared : (cell first).get 0 = 0 := by
    simp [BitField.get]
  rw [only, access_grant_of_ne fresh different, DomainAccessControl.access, fresh, cleared]
  rfl

theorem access_grantAll (grants : List DomainGrant) (domain : Domain) :
    (register.grantAll grants).access domain =
      lastGranted domain grants (register.access domain) := by
  induction grants generalizing register with
  | nil => rfl
  | cons made grants ih =>
      have now : (register.grant made.domain made.access).access domain =
          if made.domain = domain then made.access else register.access domain := by
        split
        · next same => rw [← same, access_grant]
        · next other => exact register.access_grant_of_ne (Ne.symm other) made.access
      calc ((register.grant made.domain made.access).grantAll grants).access domain
          = lastGranted domain grants ((register.grant made.domain made.access).access domain) :=
            ih _
        _ = lastGranted domain (made :: grants) (register.access domain) := by
            rw [now, lastGranted, lastGranted, List.foldl_cons]

theorem grant_comm (different : first ≠ second) (access other : DomainAccess) :
    (register.grant first access).grant second other =
      (register.grant second other).grant first access :=
  congrArg DomainAccessControl.mk
    (BitField.put_comm _ _ (cell_apart different.symm) other.bits access.bits register.word)

/-! ## The word as a sum -/

/-- The low digits of a number to the base four, each in its place, add up to the number that they
spell. -/
theorem sum_digits (value count : Nat) :
    ∑ place ∈ Finset.range count, value / 4 ^ place % 4 * 4 ^ place = value % 4 ^ count := by
  induction count with
  | zero => rw [Finset.sum_range_zero, pow_zero, Nat.mod_one]
  | succ count ih => rw [Finset.sum_range_succ, ih, Nat.mod_pow_succ, Nat.mul_comm (4 ^ count)]

/-- The weight of the lower bit of a cell. -/
theorem two_pow_double (place : Nat) : 2 ^ (2 * place) = 4 ^ place :=
  pow_mul 2 2 place

theorem toNat_bits_access (domain : Domain) :
    (register.access domain).bits.toNat = register.word.toNat / 4 ^ domain.number % 4 := by
  rw [DomainAccessControl.access, DomainAccess.bits_ofBits, BitField.get,
    BitVec.extractLsb'_toNat, Nat.shiftRight_eq_div_pow, cell, two_pow_double]

theorem toNat_word :
    register.word.toNat =
      ∑ domain : Domain, (register.access domain).bits.toNat <<< (2 * domain.number) := by
  have shifted : ∀ domain : Domain,
      (register.access domain).bits.toNat <<< (2 * domain.number) =
        register.word.toNat / 4 ^ domain.number % 4 * 4 ^ domain.number := by
    intro domain
    rw [Nat.shiftLeft_eq, two_pow_double, toNat_bits_access]
  calc register.word.toNat
      = register.word.toNat % 4 ^ 16 := (Nat.mod_eq_of_lt register.word.isLt).symm
    _ = ∑ place ∈ Finset.range 16, register.word.toNat / 4 ^ place % 4 * 4 ^ place :=
        (sum_digits _ _).symm
    _ = ∑ place : Fin 16, register.word.toNat / 4 ^ place.val % 4 * 4 ^ place.val :=
        Finset.sum_range _
    _ = ∑ domain : Domain, (register.access domain).bits.toNat <<< (2 * domain.number) :=
        (Fintype.sum_equiv Domain.equivFin _ _ shifted).symm

variable {register} in
/-- Two registers that give every domain the same access are the same. -/
theorem eq_of_access_eq {other : DomainAccessControl}
    (same : ∀ domain, register.access domain = other.access domain) : register = other := by
  have words : register.word.toNat = other.word.toNat := by
    rw [toNat_word, toNat_word]
    exact Finset.sum_congr rfl fun domain _ => by rw [same]
  exact congrArg DomainAccessControl.mk (BitVec.eq_of_toNat_eq words)

theorem eq_only_iff (domain : Domain) (access : DomainAccess) :
    register = only domain access ↔
      register.access domain = access ∧
        ∀ other, other ≠ domain → register.access other = .noAccess := by
  constructor
  · rintro rfl
    exact ⟨access_only domain access, fun other different => access_only_of_ne different access⟩
  · rintro ⟨own, others⟩
    apply eq_of_access_eq
    intro tested
    by_cases here : tested = domain
    · rw [here, own, access_only]
    · rw [others tested here, access_only_of_ne here]

/-- What sixteen cells promise of a register and the grants made to it. -/
structure ActsAsCells (initial : DomainAccessControl) (grants : List DomainGrant) : Prop where
  /-- A domain that was never granted anything keeps its own two bits of the first word. -/
  access : ∀ domain, (initial.grantAll grants).access domain =
    lastGranted domain grants (.ofBits ((initial.word >>> (2 * domain.number)).setWidth 2))
  commute : ∀ {first second : Domain}, first ≠ second → ∀ access other,
    ((initial.grantAll grants).grant first access).grant second other =
      ((initial.grantAll grants).grant second other).grant first access
  sum : (initial.grantAll grants).word.toNat =
    ∑ domain, ((initial.grantAll grants).access domain).bits.toNat <<< (2 * domain.number)
  determined : ∀ other : DomainAccessControl,
    other = initial.grantAll grants ↔
      ∀ domain, other.access domain = (initial.grantAll grants).access domain
  only : ∀ domain access, initial.grantAll grants = .only domain access ↔
    (initial.grantAll grants).access domain = access ∧
      ∀ other, other ≠ domain → (initial.grantAll grants).access other = .noAccess

/-- From any word, after any grants. -/
theorem actsAsCells_grantAll (initial : DomainAccessControl) (grants : List DomainGrant) :
    initial.ActsAsCells grants where
  access domain := by
    rw [access_grantAll, DomainAccessControl.access, BitField.get, cell]
    rfl
  commute different access other := grant_comm _ different access other
  sum := toNat_word _
  determined other := ⟨fun same domain => by rw [same], eq_of_access_eq⟩
  only domain access := eq_only_iff _ domain access

/-- The cell at the top of the word. -/
example : (grantAll ⟨0xFFFFFFFF⟩ [⟨⟨15⟩, .noAccess⟩]).word = 0x3FFFFFFF := by decide

end DomainAccessControl

end Armv6Kernel
