import Armv6Kernel.Bits.Layout

/-!
# The data fault status register

After a data abort this register tells what went wrong.  The five status bits lie in two places:
the low four in bits 0 to 3, the high one in bit 10.
-/

namespace Armv6Kernel

structure DataFaultStatus where
  word : Word
  deriving DecidableEq, Repr

namespace DataFaultStatus

def statusLow : BitField 4 := ⟨0⟩

def domainField : BitField 4 := ⟨4⟩

def statusHigh : BitField 1 := ⟨10⟩

def writeAccess : BitField 1 := ⟨11⟩

def layout : Layout where
  name := "DataFaultStatus"
  initial := 0
  fields := [
    .number "fs_low" statusLow 8,
    .number "domain" domainField 8,
    .flag "fs_high" statusHigh,
    .flag "wnr_write" writeAccess,
    .flag "sd_slave_error" ⟨12⟩]

def fresh : DataFaultStatus :=
  ⟨layout.initial⟩

def status (register : DataFaultStatus) : BitVec 5 :=
  statusHigh.get register.word ++ statusLow.get register.word

def domain (register : DataFaultStatus) : BitVec 4 :=
  domainField.get register.word

def isWrite (register : DataFaultStatus) : Bool :=
  writeAccess.test register.word

/-- The register after a fault with the given status and domain numbers, which are taken modulo the
widths of their fields. -/
def ofParts (status domain : Nat) (write : Bool) : DataFaultStatus :=
  ⟨writeAccess.assign write <|
    domainField.put (BitVec.ofNat 4 domain) <|
    statusHigh.assign (status.testBit 4) <|
    statusLow.put (BitVec.ofNat 4 status) fresh.word⟩

def inspect (register : DataFaultStatus) : String :=
  layout.inspect register.word

end DataFaultStatus

end Armv6Kernel
