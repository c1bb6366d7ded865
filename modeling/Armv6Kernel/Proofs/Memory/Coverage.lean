import Armv6Kernel.Memory.Physical

/-!
# Ranges that lie in memory

A range lies in memory if every block of it passes the bounds check of an access.  Whether it does
depends on the extent of the memory alone, so stores and fills do not matter.
-/

namespace Armv6Kernel.PhysicalMemory

/-- Every block of the range from `low` to `high` can be reached. -/
def Covers (memory : PhysicalMemory) (low high : Nat) : Prop :=
  ∀ (address : PhysicalAddress) (bytes : Nat), 0 < bytes → low ≤ address.toNat →
    address.toNat + bytes ≤ high → memory.checkRange bytes address = .ok ()

theorem checkStart_eq_of_extent {memory other : PhysicalMemory}
    (sameExtent : other.extent = memory.extent) (address : PhysicalAddress) :
    other.checkStart address = memory.checkStart address := by
  simp only [checkStart, sameExtent]

theorem checkRange_eq_of_extent {memory other : PhysicalMemory}
    (sameExtent : other.extent = memory.extent) (bytes : Nat) (address : PhysicalAddress) :
    other.checkRange bytes address = memory.checkRange bytes address := by
  simp only [checkRange, sameExtent, checkStart_eq_of_extent sameExtent]

theorem Covers.of_extent {memory other : PhysicalMemory} {low high : Nat}
    (covers : memory.Covers low high) (sameExtent : other.extent = memory.extent) :
    other.Covers low high := by
  intro address bytes positive above below
  rw [checkRange_eq_of_extent sameExtent]
  exact covers address bytes positive above below

theorem extent_of_simulated {base length : Word} {memory : PhysicalMemory}
    (simulated : PhysicalMemory.simulated base length = .ok memory) :
    memory.extent = .window base length := by
  unfold PhysicalMemory.simulated at simulated
  split at simulated
  · cases simulated
    rfl
  · cases simulated

theorem windowEnd_eq_ok {base length : Word} {stop : PhysicalAddress}
    (ends : windowEnd base length = .ok stop) :
    stop.toNat = base.toNat + length.toNat ∧ base.toNat + length.toNat < 0x100000000 := by
  unfold windowEnd at ends
  split at ends
  · next below =>
      cases ends
      exact ⟨by simp only [Address.toNat, BitVec.toNat_add]; omega, below⟩
  · cases ends

/-- The bytes from `low` up to `high` belong to memory. -/
def Spans (memory : PhysicalMemory) (low high : Nat) : Prop :=
  match memory.extent with
  | .window base length => base.toNat ≤ low ∧ high ≤ base.toNat + length.toNat
  | .everywhere => True

/-- A range between the base of a window and its end lies in memory. -/
theorem covers_of_window {base length : Word} {memory : PhysicalMemory} {stop : PhysicalAddress}
    {low high : Nat} (extent : memory.extent = .window base length)
    (ends : windowEnd base length = .ok stop) (above : base.toNat ≤ low)
    (below : high ≤ stop.toNat) :
    memory.Covers low high := by
  intro address bytes positive lowest highest
  have bounds := windowEnd_eq_ok ends
  have inAddressSpace : address.toNat + bytes < 0x100000000 := by omega
  have stopsInside : address.toNat + bytes ≤ stop.toNat := by omega
  have startsAbove : base.toNat ≤ address.toNat := by omega
  have startsBelow : address.toNat < stop.toNat := by omega
  simp only [checkRange, checkStart, extent, ends, bind, Except.bind,
    inAddressSpace, stopsInside, startsAbove, startsBelow, if_true]

/-- A range between the base of simulated memory and its end lies in it. -/
theorem covers_of_simulated {base length : Word} {memory : PhysicalMemory} {stop : PhysicalAddress}
    {low high : Nat} (simulated : PhysicalMemory.simulated base length = .ok memory)
    (ends : windowEnd base length = .ok stop) (above : base.toNat ≤ low)
    (below : high ≤ stop.toNat) :
    memory.Covers low high :=
  covers_of_window (extent_of_simulated simulated) ends above below

theorem spans_of_simulated {base length : Word} {memory : PhysicalMemory} {low high : Nat}
    (simulated : PhysicalMemory.simulated base length = .ok memory) (above : base.toNat ≤ low)
    (below : high ≤ base.toNat + length.toNat) : memory.Spans low high := by
  unfold Spans
  rw [extent_of_simulated simulated]
  exact ⟨above, below⟩

/-- If the end of a window is not an address, every access panics. -/
theorem checkRange_ne_ok_of_window {base length : Word} {memory : PhysicalMemory}
    (extent : memory.extent = .window base length)
    (beyond : ¬ base.toNat + length.toNat < 0x100000000) (bytes : Nat)
    (address : PhysicalAddress) :
    memory.checkRange bytes address ≠ .ok () := by
  have ends : windowEnd base length = .error .additionOverflow := if_neg beyond
  simp only [checkRange, extent, ends, bind, Except.bind]
  intro passed
  split at passed
  · cases passed
  · cases passed

/-- A range that belongs to memory can be reached, unless no access to memory passes its check. -/
theorem Spans.covers_or_unreachable {memory : PhysicalMemory} {low high : Nat}
    (spans : memory.Spans low high) :
    memory.Covers low high ∨ ∀ bytes address, memory.checkRange bytes address ≠ .ok () := by
  unfold Spans at spans
  rcases extent : memory.extent with ⟨base, length⟩ | _
  · rw [extent] at spans
    by_cases inside : base.toNat + length.toNat < 0x100000000
    · have ends : windowEnd base length = .ok ⟨base + length⟩ := if_pos inside
      have bounds := windowEnd_eq_ok ends
      exact .inl (covers_of_window extent ends spans.1 (by omega))
    · exact .inr (checkRange_ne_ok_of_window extent inside)
  · left
    intro address bytes positive above below
    simp only [checkRange, extent]

end Armv6Kernel.PhysicalMemory
