import Armv6Kernel.Text.Numeral
import Armv6Kernel.Text.Record

/-!
# Fault statuses

The five-bit code that the processor records for a data abort, what it means, and which of the other
fault registers it makes meaningful.
-/

namespace Armv6Kernel

/-- The five-bit status of a data abort. -/
structure FaultStatus where
  bits : BitVec 5
  deriving DecidableEq, Repr

namespace FaultStatus

/-- The status in the five low bits of a number. -/
def masked (number : Nat) : FaultStatus :=
  ⟨BitVec.ofNat 5 number⟩

/-- The translation buffer of a memory protection unit missed. -/
def protectionUnitMiss : FaultStatus := ⟨0b00000⟩

/-- The address was not aligned. -/
def alignment : FaultStatus := ⟨0b00001⟩

/-- A debug event stopped the access. -/
def debugEvent : FaultStatus := ⟨0b00010⟩

def instructionCacheMaintenance : FaultStatus := ⟨0b00100⟩

/-- The first-level entry does not map the address. -/
def sectionTranslation : FaultStatus := ⟨0b00101⟩

/-- The second-level entry does not map the address. -/
def pageTranslation : FaultStatus := ⟨0b00111⟩

/-- Memory answered the access with an error. -/
def preciseExternal : FaultStatus := ⟨0b01000⟩

/-- The domain of a section forbids the access. -/
def sectionDomain : FaultStatus := ⟨0b01001⟩

/-- The domain of a page forbids the access. -/
def pageDomain : FaultStatus := ⟨0b01011⟩

/-- Reading the first-level entry failed. -/
def firstLevelExternal : FaultStatus := ⟨0b01100⟩

/-- The permission of a section forbids the access. -/
def sectionPermission : FaultStatus := ⟨0b01101⟩

/-- Reading the second-level entry failed. -/
def secondLevelExternal : FaultStatus := ⟨0b01110⟩

/-- The permission of a page forbids the access. -/
def pagePermission : FaultStatus := ⟨0b01111⟩

def bufferLock : FaultStatus := ⟨0b10100⟩

/-- Memory reported an error after the access. -/
def impreciseExternal : FaultStatus := ⟨0b10110⟩

/-- A parity check failed. -/
def parityError : FaultStatus := ⟨0b11000⟩

/-- A coprocessor stopped the access. -/
def coprocessorAbort : FaultStatus := ⟨0b11010⟩

/-- The known statuses with their descriptions. -/
def descriptions : List (FaultStatus × String) := [
  (alignment, "Alignment issue"),
  (protectionUnitMiss, "PMSA - TLB miss (MPU)"),
  (instructionCacheMaintenance, "Instruction cache maintenance operation fault"),
  (firstLevelExternal, "1st level external abort on translation"),
  (secondLevelExternal, "2nd level external abort on translation"),
  (sectionTranslation, "Section translation"),
  (pageTranslation, "Page translation"),
  (sectionDomain, "Section domain fault"),
  (pageDomain, "Page domain fault"),
  (sectionPermission, "Section permission fault"),
  (pagePermission, "Page permission fault"),
  (preciseExternal, "Precise external abort"),
  (bufferLock, "TLB lock"),
  (coprocessorAbort, "Coprocessor data abort"),
  (impreciseExternal, "Imprecise data abort"),
  (parityError, "Parity error exception"),
  (debugEvent, "Debug event")]

def description (status : FaultStatus) : String :=
  (descriptions.lookup status).getD "Unknown status"

/-- Whether the domain field of the fault status register means anything. -/
def recordsDomain (status : FaultStatus) : Bool :=
  status ∈ [secondLevelExternal, pageTranslation, sectionDomain, pageDomain, sectionPermission,
    pagePermission, debugEvent]

/-- Whether the fault address register holds the address of the access.  Unknown statuses are
trusted to record it. -/
def recordsAddress (status : FaultStatus) : Bool :=
  status ∉ [bufferLock, coprocessorAbort, impreciseExternal, parityError, debugEvent]

def display (status : FaultStatus) : String :=
  Numeral.binary 5 status.bits.toNat ++ " [" ++ status.description ++ "]"

def inspect (status : FaultStatus) : String :=
  Record.tagged "FaultStatus" status.display

end FaultStatus

end Armv6Kernel
