import Armv6Kernel.Register.ContextId
import Armv6Kernel.Register.DomainAccessControl
import Armv6Kernel.Register.SystemControl
import Armv6Kernel.Register.TranslationTableBase

/-!
# The system registers

The registers that control translation, together with the history of everything that was done to
them.  The history records register writes and maintenance operations in order.
-/

namespace Armv6Kernel

/-- Something that was done to the system registers. -/
inductive RegisterEvent where
  | control (value : SystemControl)
  | domainAccess (value : DomainAccessControl)
  | tableBase (value : TranslationTableBase)
  | contextId (value : ContextId)
  /-- Earlier accesses were completed and prefetched instructions dropped. -/
  | barrier
  /-- All entries of the translation buffer were dropped. -/
  | invalidateTlb
  | cleanInvalidateDataCache
  | invalidateInstructionCache
  /-- The branch predictions were dropped. -/
  | flushBranchTargets
  deriving DecidableEq, Repr

def RegisterEvent.inspect : RegisterEvent → String
  | control value => Record.tagged "SetControl" value.inspect
  | domainAccess value => Record.tagged "SetDomainAccess" value.inspect
  | tableBase value => Record.tagged "SetTableBase" value.inspect
  | contextId value => Record.tagged "SetContextId" value.inspect
  | barrier => "Barrier"
  | invalidateTlb => "InvalidateTlb"
  | cleanInvalidateDataCache => "CleanInvalidateDcache"
  | invalidateInstructionCache => "InvalidateIcache"
  | flushBranchTargets => "FlushBranchTargets"

/-- The system registers and their history. -/
structure SystemRegisters where
  control : SystemControl
  domainAccess : DomainAccessControl
  tableBase : TranslationTableBase
  contextId : ContextId
  faultStatus : DataFaultStatus
  faultAddress : VirtualAddress
  /-- What was done to the registers, oldest first. -/
  history : List RegisterEvent
  deriving DecidableEq, Repr

namespace SystemRegisters

/-- The registers after a reset, with a given value of the control register. -/
def reset (control : SystemControl) : SystemRegisters where
  control := control
  domainAccess := .fresh
  tableBase := .fresh
  contextId := .reserved
  faultStatus := .fresh
  faultAddress := ⟨0⟩
  history := []

def record (registers : SystemRegisters) (event : RegisterEvent) : SystemRegisters :=
  { registers with history := registers.history ++ [event] }

def setControl (registers : SystemRegisters) (value : SystemControl) : SystemRegisters :=
  { registers with control := value }.record (.control value)

def setDomainAccess (registers : SystemRegisters) (value : DomainAccessControl) :
    SystemRegisters :=
  { registers with domainAccess := value }.record (.domainAccess value)

def setTableBase (registers : SystemRegisters) (value : TranslationTableBase) : SystemRegisters :=
  { registers with tableBase := value }.record (.tableBase value)

def setContextId (registers : SystemRegisters) (value : ContextId) : SystemRegisters :=
  { registers with contextId := value }.record (.contextId value)

/-- Records a data abort as the processor does before it traps. -/
def raiseAbort (registers : SystemRegisters) (status domain : Nat) (write : Bool)
    (address : VirtualAddress) : SystemRegisters :=
  { registers with
    faultStatus := .ofParts status domain write
    faultAddress := address }

def forget (registers : SystemRegisters) : SystemRegisters :=
  { registers with history := [] }

def inspect (registers : SystemRegisters) : String :=
  Record.named "MockCp15" [
    ("control", registers.control.inspect),
    ("domain_access", registers.domainAccess.inspect),
    ("table_base", registers.tableBase.inspect),
    ("context_id", registers.contextId.inspect),
    ("fault_status", registers.faultStatus.inspect),
    ("fault_address", Record.tagged "FaultAddress" registers.faultAddress.inspect),
    ("ops", Record.list (registers.history.map RegisterEvent.inspect))]

end SystemRegisters

end Armv6Kernel
