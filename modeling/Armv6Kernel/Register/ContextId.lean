import Armv6Kernel.Effect.Panic

/-!
# The context register

Names the running process: its address space identifier tags the entries of the translation buffer,
its process number is for tracing only.
-/

namespace Armv6Kernel

structure ContextId where
  word : Word
  deriving DecidableEq, Repr

namespace ContextId

def asidField : BitField 8 := ⟨0⟩

def processField : BitField 24 := ⟨8⟩

def layout : Layout where
  name := "ContextId"
  initial := 0
  fields := [
    .number "asid" asidField 8,
    .number "process_id" processField 32]

/-- The value that is installed while the table changes.  Its address space identifier, zero,
belongs to no environment. -/
def reserved : ContextId :=
  ⟨layout.initial⟩

def maxProcess : Nat := 0xFFFFFF

/-- The value for a process; panics if the process number is too wide. -/
def forProcess (process : Word) (asid : BitVec 8) : Except Panic ContextId :=
  if process.toNat ≤ maxProcess then
    .ok ⟨asidField.put asid (processField.put (process.setWidth 24) reserved.word)⟩
  else
    .error (.valueOutOfBounds maxProcess)

/-- The address space identifier of the value. -/
def asid (register : ContextId) : BitVec 8 :=
  asidField.get register.word

def process (register : ContextId) : BitVec 24 :=
  processField.get register.word

def inspect (register : ContextId) : String :=
  layout.inspect register.word

end ContextId

end Armv6Kernel
