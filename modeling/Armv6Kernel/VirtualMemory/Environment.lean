import Armv6Kernel.AddressSpace.MapError
import Armv6Kernel.Address.Basic
import Armv6Kernel.Board.Capacity
import Armv6Kernel.Board.MemoryMap
import Armv6Kernel.Identifier.Error
import Armv6Kernel.Register.DomainAccessControl

/-!
# Environments

An environment is one isolated address space with a protection domain, an address space identifier
and a process number of its own.
-/

namespace Armv6Kernel

/-- The handle of an environment: the slot it lives in. -/
structure EnvironmentId where
  slot : Nat
  deriving DecidableEq, Repr

def EnvironmentId.inspect (id : EnvironmentId) : String :=
  Record.tagged "EnvId" (toString id.slot)

structure Environment where
  id : EnvironmentId
  /-- The process number, never used twice. -/
  process : Word
  /-- The protection domain of everything mapped in the environment. -/
  domain : Domain
  /-- The address space identifier. -/
  asid : BitVec 8
  /-- What the domain access register holds while the environment is active. -/
  domainAccess : DomainAccessControl
  /-- The address of the first-level table. -/
  root : PhysicalAddress
  deriving DecidableEq, Repr

def Environment.inspect (environment : Environment) : String :=
  Record.named "Environment" [
    ("id", environment.id.inspect),
    ("pid", toString environment.process.toNat),
    ("domain", environment.domain.inspect),
    ("asid", toString environment.asid.toNat),
    ("domain_access", environment.domainAccess.inspect),
    ("root", environment.root.inspect)]

/-- How many environments and identifiers there are. -/
structure VirtualMemoryConfig where
  domains : Nat
  reservedDomains : Nat
  asids : Nat
  /-- The number of address space identifiers that no environment gets. -/
  reservedAsids : Nat
  maxEnvironments : Nat
  /-- The end of the window in which the stack may grow. -/
  stackTop : VirtualAddress
  deriving DecidableEq, Repr

namespace VirtualMemoryConfig

def standard : VirtualMemoryConfig where
  domains := Capacity.domains
  reservedDomains := Capacity.reservedDomains
  asids := Capacity.asids
  reservedAsids := Capacity.reservedAsids
  maxEnvironments := Capacity.environments
  stackTop := .ofNat MemoryMap.stackWindowTop

def inspect (config : VirtualMemoryConfig) : String :=
  Record.named "VmConfig" [
    ("domains", toString config.domains),
    ("reserved_domains", toString config.reservedDomains),
    ("asids", toString config.asids),
    ("reserved_asids", toString config.reservedAsids),
    ("max_environments", toString config.maxEnvironments),
    ("stack_top", config.stackTop.inspect)]

end VirtualMemoryConfig

inductive AllocationError where
  | noSlot (cause : IdentifierError)
  | noDomain (cause : IdentifierError)
  /-- No address space identifier is free. -/
  | noAsid (cause : IdentifierError)
  /-- Every process number has been used. -/
  | noProcess (last : Word)
  | map (cause : MapError)
  deriving DecidableEq, Repr

namespace AllocationError

def display : AllocationError → String
  | noSlot cause => "no free environment slot: " ++ cause.display
  | noDomain cause => "no free protection domain: " ++ cause.display
  | noAsid cause => "no free ASID: " ++ cause.display
  | noProcess last => "process ids exhausted after pid " ++ toString last.toNat
  | map cause => cause.display

def inspect : AllocationError → String
  | noSlot cause => Record.tagged "NoEnvironmentSlot" cause.inspect
  | noDomain cause => Record.tagged "NoDomain" cause.inspect
  | noAsid cause => Record.tagged "NoAsid" cause.inspect
  | noProcess last => Record.named "NoProcessId" [("last", toString last.toNat)]
  | map cause => Record.tagged "Map" cause.inspect

def cause? : AllocationError → Option IdentifierError
  | noSlot cause => some cause
  | noDomain cause => some cause
  | noAsid cause => some cause
  | noProcess _ => none
  | map _ => none

end AllocationError

end Armv6Kernel
