import Armv6Kernel.Address.Basic
import Armv6Kernel.Address.Granule
import Armv6Kernel.Address.Report
import Armv6Kernel.AddressSpace.Map
import Armv6Kernel.AddressSpace.MapError
import Armv6Kernel.AddressSpace.Session
import Armv6Kernel.AddressSpace.Walk
import Armv6Kernel.Bits.Assignment
import Armv6Kernel.Bits.Layout
import Armv6Kernel.Bits.Word
import Armv6Kernel.Board.BringUp
import Armv6Kernel.Board.Capacity
import Armv6Kernel.Board.MemoryMap
import Armv6Kernel.Board.Report
import Armv6Kernel.Console.Log
import Armv6Kernel.Descriptor.Basic
import Armv6Kernel.Descriptor.Encode
import Armv6Kernel.Descriptor.Permission
import Armv6Kernel.Descriptor.Shape
import Armv6Kernel.Descriptor.Slot
import Armv6Kernel.Effect.Action
import Armv6Kernel.Effect.Panic
import Armv6Kernel.Effect.Report
import Armv6Kernel.Fault.Abort
import Armv6Kernel.Fault.Classify
import Armv6Kernel.Fault.Handler
import Armv6Kernel.Fault.Report
import Armv6Kernel.Fault.Status
import Armv6Kernel.Heap.Arena
import Armv6Kernel.Heap.Bump
import Armv6Kernel.Heap.TableSource
import Armv6Kernel.Identifier.Error
import Armv6Kernel.Identifier.Pool
import Armv6Kernel.Identifier.Words
import Armv6Kernel.Irq.Lock
import Armv6Kernel.Irq.Mask
import Armv6Kernel.Irq.Session
import Armv6Kernel.Mapping.Flags
import Armv6Kernel.Memory.Physical
import Armv6Kernel.Mmu.Control
import Armv6Kernel.Mmu.Registers
import Armv6Kernel.Proofs.AddressSpace.Acceptance
import Armv6Kernel.Proofs.AddressSpace.Accounting
import Armv6Kernel.Proofs.AddressSpace.BitLayout
import Armv6Kernel.Proofs.AddressSpace.EmptySlots
import Armv6Kernel.Proofs.AddressSpace.Extent
import Armv6Kernel.Proofs.AddressSpace.Filling
import Armv6Kernel.Proofs.AddressSpace.Forest
import Armv6Kernel.Proofs.AddressSpace.Growth
import Armv6Kernel.Proofs.AddressSpace.History
import Armv6Kernel.Proofs.AddressSpace.Installing
import Armv6Kernel.Proofs.AddressSpace.Mapping
import Armv6Kernel.Proofs.AddressSpace.Ownership
import Armv6Kernel.Proofs.AddressSpace.Paging
import Armv6Kernel.Proofs.AddressSpace.Persistence
import Armv6Kernel.Proofs.AddressSpace.Soundness
import Armv6Kernel.Proofs.AddressSpace.Target
import Armv6Kernel.Proofs.AddressSpace.Transcript
import Armv6Kernel.Proofs.AddressSpace.WellFormed
import Armv6Kernel.Proofs.Bits.Setters
import Armv6Kernel.Proofs.Board.BringUp
import Armv6Kernel.Proofs.Board.FailedBringUp
import Armv6Kernel.Proofs.Board.KernelMap
import Armv6Kernel.Proofs.Descriptor.Attributes
import Armv6Kernel.Proofs.Descriptor.Classification
import Armv6Kernel.Proofs.Descriptor.Codec
import Armv6Kernel.Proofs.Descriptor.Flags
import Armv6Kernel.Proofs.Descriptor.Making
import Armv6Kernel.Proofs.Effect.Ending
import Armv6Kernel.Proofs.Fault.Decoding
import Armv6Kernel.Proofs.Fault.Growth
import Armv6Kernel.Proofs.Fault.GrowthOnce
import Armv6Kernel.Proofs.Fault.HeapOverlap
import Armv6Kernel.Proofs.Fault.Pipeline
import Armv6Kernel.Proofs.Fault.StackWindow
import Armv6Kernel.Proofs.Heap.Allotment
import Armv6Kernel.Proofs.Heap.Cursor
import Armv6Kernel.Proofs.Heap.Restart
import Armv6Kernel.Proofs.Heap.Rounding
import Armv6Kernel.Proofs.Identifier.Occupancy
import Armv6Kernel.Proofs.Identifier.Refinement
import Armv6Kernel.Proofs.Identifier.WordSearch
import Armv6Kernel.Proofs.Irq.Exclusion
import Armv6Kernel.Proofs.Irq.Guards
import Armv6Kernel.Proofs.Irq.Masking
import Armv6Kernel.Proofs.Irq.Nesting
import Armv6Kernel.Proofs.Irq.Ownership
import Armv6Kernel.Proofs.Irq.Program
import Armv6Kernel.Proofs.Memory.Coverage
import Armv6Kernel.Proofs.Mmu.Control
import Armv6Kernel.Proofs.Mmu.ControlRegister
import Armv6Kernel.Proofs.Mmu.Discipline
import Armv6Kernel.Proofs.Register.DomainCells
import Armv6Kernel.Proofs.Serial.Accesses
import Armv6Kernel.Proofs.Serial.Setup
import Armv6Kernel.Proofs.Serial.Transmission
import Armv6Kernel.Proofs.Trap.Servicing
import Armv6Kernel.Proofs.VirtualMemory.Activity
import Armv6Kernel.Proofs.VirtualMemory.Allocation
import Armv6Kernel.Proofs.VirtualMemory.Atomicity
import Armv6Kernel.Proofs.VirtualMemory.Bookkeeping
import Armv6Kernel.Proofs.VirtualMemory.DomainConfinement
import Armv6Kernel.Proofs.VirtualMemory.Isolation
import Armv6Kernel.Proofs.VirtualMemory.Layout
import Armv6Kernel.Proofs.VirtualMemory.Lifecycle
import Armv6Kernel.Proofs.VirtualMemory.Orderly
import Armv6Kernel.Proofs.VirtualMemory.Permanence
import Armv6Kernel.Proofs.VirtualMemory.ProcessNumbers
import Armv6Kernel.Proofs.VirtualMemory.Reachable
import Armv6Kernel.Proofs.VirtualMemory.ReservedNumbers
import Armv6Kernel.Proofs.VirtualMemory.Retention
import Armv6Kernel.Proofs.VirtualMemory.Serving
import Armv6Kernel.Proofs.VirtualMemory.TableVisibility
import Armv6Kernel.Proofs.VirtualMemory.WriteOrder
import Armv6Kernel.Register.ContextId
import Armv6Kernel.Register.DataFaultStatus
import Armv6Kernel.Register.Domain
import Armv6Kernel.Register.DomainAccessControl
import Armv6Kernel.Register.Report
import Armv6Kernel.Register.SystemControl
import Armv6Kernel.Register.TranslationTableBase
import Armv6Kernel.Serial.Bus
import Armv6Kernel.Serial.MiniUart
import Armv6Kernel.Serial.Report
import Armv6Kernel.Table.Basic
import Armv6Kernel.Table.Index
import Armv6Kernel.Table.Report
import Armv6Kernel.Text.Numeral
import Armv6Kernel.Text.Record
import Armv6Kernel.Text.Report
import Armv6Kernel.Trap.DataAbort
import Armv6Kernel.Trap.Exception
import Armv6Kernel.VirtualMemory.Basic
import Armv6Kernel.VirtualMemory.Environment
import Armv6Kernel.VirtualMemory.Lifecycle
import Armv6Kernel.VirtualMemory.Report
import Armv6Kernel.VirtualMemory.Setup
