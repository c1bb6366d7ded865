import Armv6Kernel.Descriptor.Slot
import Armv6Kernel.Fault.Abort
import Armv6Kernel.Identifier.Error
import Armv6Kernel.Trap.Exception

/-!
# Panics

A panic ends the running operation: a caller broke a rule, or nothing can be done.  Each cause is a
constructor that carries what the message needs; the wording is in `message` alone.
-/

namespace Armv6Kernel

/-- The resources that an environment holds. -/
inductive EnvironmentResource where
  | slot
  | domain
  /-- Its address space identifier. -/
  | asid
  deriving DecidableEq, Repr

def EnvironmentResource.noun : EnvironmentResource → String
  | slot => "slot"
  | domain => "domain"
  | asid => "asid"

/-- Why an operation panicked. -/
inductive Panic where
  /-- A sum does not fit its width. -/
  | additionOverflow
  /-- A difference is below zero. -/
  | subtractionOverflow
  /-- A number is too large for its field. -/
  | valueOutOfBounds (maximum : Nat)
  | domainOutOfRange
  | firstLevelIndexOutOfRange
  /-- A run of coarse slots goes past the end of the table. -/
  | slotRangeTooLong (stop : Nat)
  /-- More identifiers were asked for than can be tracked. -/
  | capacityTooLarge
  /-- More identifiers are reserved than exist. -/
  | tooManyReserved
  /-- The heap starts at an address that is not a multiple of eight. -/
  | heapStartMisaligned
  | heapLimitBelowStart
  /-- The heap was moved past its limit. -/
  | heapStartBeyondLimit (start limit : PhysicalAddress)
  | alignmentNotPowerOfTwo (alignment : Word)
  /-- Simulated memory starts `excess` bytes after a multiple of 16 KiB. -/
  | memoryBaseMisaligned (excess : Nat)
  | outsideMemory (address : PhysicalAddress)
  /-- A value of `bytes` bytes reaches past the end of simulated memory. -/
  | exceedsMemory (bytes : Nat) (address : PhysicalAddress)
  | firstLevelTableMisaligned
  | descriptorMisaligned (shape : Shape)
  | wrongTag (shape : Shape) (word : Word)
  | reservedBits (shape : Shape) (word : Word)
  | virtualMisaligned (granule : Granule) (address : VirtualAddress)
  | physicalMisaligned (granule : Granule) (address : PhysicalAddress)
  | sectionOccupied (address : VirtualAddress) (slot : Slot .first)
  | smallPageOccupied (address : VirtualAddress) (slot : Slot .coarse)
  /-- One of the second-level slots of a new large page is taken. -/
  | largePageOccupied (address : VirtualAddress) (index : Nat) (slot : Slot .coarse)
  /-- A large page starts at a slot too near to the end of its table. -/
  | largePageTooHigh (address : VirtualAddress) (index limit : Nat)
  /-- A page lies under a first-level slot that cannot hold a coarse table. -/
  | noCoarseTable (address : VirtualAddress) (entry : FirstLevelEntry)
  | mmuAlreadyOn
  | mmuAlreadyOff
  /-- An environment was installed while the MMU was on. -/
  | switchWithMmuOn
  | tooManyEnvironments (limit : Nat)
  | tooManyDomains
  /-- More address space identifiers were configured than are supported. -/
  | tooManyAsids (limit : Nat)
  | environmentNotAllocated (slot : Nat)
  | environmentActive (slot : Nat)
  /-- A resource of an environment was not marked as in use. -/
  | bookkeepingCorrupted (resource : EnvironmentResource) (cause : IdentifierError)
  | processReadback (read expected : Nat)
  /-- The context register does not hold the address space identifier written to it. -/
  | asidReadback (read expected : Nat)
  /-- A lock was taken while it was held. -/
  | lockReentered
  /-- A data abort came before virtual memory was set up. -/
  | abortBeforeSetup (pc : Word)
  /-- A data abort could not be resolved. -/
  | fatalAbort (fault : FatalFault)
  /-- An exception without a handler was raised. -/
  | unhandledException (exception : Exception) (pc : Word)
  deriving DecidableEq, Repr

namespace Panic

/-- The text of a failed comparison that should have held (`relation` is `==` or `!=`). -/
private def comparison (relation text left right : String) : String :=
  "assertion \x60left " ++ relation ++ " right\x60 failed: " ++ text ++
    "\n  left: " ++ left ++ "\n right: " ++ right

private def activeSlot (slot : Nat) : String :=
  Record.tagged "Some" (Record.tagged "EnvId" (toString slot))

def message : Panic → String
  | additionOverflow => "attempt to add with overflow"
  | subtractionOverflow => "attempt to subtract with overflow"
  | valueOutOfBounds maximum => "value out of bounds [0, " ++ toString maximum ++ "]"
  | domainOutOfRange => "domain id out of range"
  | firstLevelIndexOutOfRange => "assertion failed: (v as usize) < FIRST_LEVEL_ENTRIES"
  | slotRangeTooLong stop =>
      "range end index " ++ toString stop ++ " out of range for slice of length " ++
        toString TableLevel.coarse.entries
  | capacityTooLarge => "bit vector capacity too large"
  | tooManyReserved => "more reserved ids than capacity"
  | heapStartMisaligned => "heap start must be 8-byte aligned"
  | heapLimitBelowStart => "heap limit below start"
  | heapStartBeyondLimit start limit =>
      "heap start " ++ start.display ++ " beyond limit " ++ limit.display
  | alignmentNotPowerOfTwo alignment =>
      "alignment " ++ toString alignment.toNat ++ " is not a power of two"
  | memoryBaseMisaligned excess =>
      comparison "==" "simulated RAM base must be 16K-aligned" (toString excess) "0"
  | outsideMemory address => "physical address " ++ address.display ++ " outside simulated RAM"
  | exceedsMemory bytes address =>
      toString bytes ++ " bytes at " ++ address.display ++ " exceed simulated RAM"
  | firstLevelTableMisaligned => "first-level table must be 16K-aligned"
  | descriptorMisaligned (.mapping granule) =>
      granule.noun ++ " base must be " ++ granule.label ++ "-aligned"
  | descriptorMisaligned .coarse => "coarse table must be 1K-aligned"
  | wrongTag shape word =>
      let relation := if shape = .mapping .page4K then "!=" else "=="
      let expected := if shape = .mapping .page4K then 0 else shape.tag.toNat
      comparison relation
        (shape.noun ++ " descriptor has wrong tag: " ++ Numeral.binary 32 word.toNat)
        (toString (word &&& shape.tagMask).toNat) (toString expected)
  | reservedBits shape word =>
      comparison "=="
        (shape.noun ++ " descriptor has reserved bits set: " ++ Numeral.binary 32 word.toNat)
        (toString (word &&& shape.reservedMask).toNat) "0"
  | virtualMisaligned granule address =>
      granule.noun ++ " va " ++ address.display ++ " is not " ++ granule.label ++ "-aligned"
  | physicalMisaligned granule address =>
      granule.noun ++ " pa " ++ address.display ++ " is not " ++ granule.label ++ "-aligned"
  | sectionOccupied address slot =>
      "section " ++ address.display ++ " already mapped: " ++ slot.inspectFirstLevel
  | smallPageOccupied address slot =>
      "small page " ++ address.display ++ " already mapped: " ++ slot.inspectSecondLevel
  | largePageOccupied address index slot =>
      "large page " ++ address.display ++ " overlaps mapped slot " ++ toString index ++ ": " ++
        slot.inspectSecondLevel
  | largePageTooHigh address index limit =>
      "large page " ++ address.display ++ " starts at coarse slot " ++ toString index ++
        " (limit " ++ toString limit ++ ")"
  | noCoarseTable address entry =>
      "cannot map pages under " ++ address.display ++ ": first-level slot is " ++ entry.inspect
  | mmuAlreadyOn => "mmu_enable: MMU is already on"
  | mmuAlreadyOff => "mmu_disable: MMU is already off"
  | switchWithMmuOn => "switch_to requires the MMU to be off"
  | tooManyEnvironments limit => "at most " ++ toString limit ++ " environments supported"
  | tooManyDomains => "at most 16 domains exist"
  | tooManyAsids limit => "at most " ++ toString limit ++ " ASIDs supported"
  | environmentNotAllocated slot =>
      "environment " ++ Record.tagged "EnvId" (toString slot) ++ " is not allocated"
  | environmentActive slot =>
      comparison "!="
        ("cannot free the active environment " ++ Record.tagged "EnvId" (toString slot))
        (activeSlot slot) (activeSlot slot)
  | bookkeepingCorrupted resource cause =>
      "environment " ++ resource.noun ++ " bookkeeping corrupted: " ++ cause.display
  | processReadback read expected =>
      comparison "==" "process id readback" (toString read) (toString expected)
  | asidReadback read expected =>
      comparison "==" "asid readback" (toString read) (toString expected)
  | lockReentered => "IrqLock acquired re-entrantly"
  | abortBeforeSetup pc =>
      "data abort at PC=" ++ Numeral.hex pc.toNat ++ " before virtual memory is initialized"
  | fatalAbort fault => "fatal data abort: " ++ fault.display
  | unhandledException exception pc =>
      "unhandled exception <" ++ exception.name ++ "> at PC=" ++ Numeral.hex pc.toNat

end Panic

end Armv6Kernel
