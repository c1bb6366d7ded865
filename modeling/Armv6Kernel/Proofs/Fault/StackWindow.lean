import Armv6Kernel.Proofs.Board.BringUp
import Armv6Kernel.Proofs.Fault.HeapOverlap
import Armv6Kernel.Proofs.VirtualMemory.Atomicity

/-!
# The stack window of the kernel

Bring-up maps everything below the limit of the heap and the top of the stack, and with the latter
makes the one coarse table that the whole window needs.  So while the environment of the kernel
runs, its stack can grow by every page of the window that is left, even if the heap is full, and
never into the heap.
-/

namespace Armv6Kernel.VirtualMemory

/-- Every address of a range is translated in an environment. -/
def TranslatesRange (state : VirtualMemory) (id : EnvironmentId) (low high : Nat) : Prop :=
  ∀ address : VirtualAddress, low ≤ address.toNat → address.toNat < high →
    ∃ target, state.translate id address = .ok (some target)

/-- The first address of the stack that bring-up maps. -/
def initialStackBottom : Nat :=
  MemoryMap.systemStackTop - initialStackPages * Granule.page4K.bytes

/-- What bring-up maps in the low four megabytes. -/
structure KernelMapped (state : VirtualMemory) (id : EnvironmentId) : Prop where
  image : state.TranslatesRange id 0 MemoryMap.heapLimit
  stack : state.TranslatesRange id initialStackBottom MemoryMap.systemStackTop

/-- What the handling of an abort promises while the environment of the kernel is active. -/
structure GrowsSafely (state : VirtualMemory) (id : EnvironmentId) (pc : Word) : Prop where
  placed : ∀ page descriptor,
    ((handleDataAbort pc).run state).outcome = .value (.stackGrown page descriptor) →
      MemoryMap.heapLimit ≤ page.toNat ∧
        page.toNat + Granule.page4K.bytes ≤ initialStackBottom
  untouched : ∀ page descriptor,
    ((handleDataAbort pc).run state).outcome = .value (.stackGrown page descriptor) →
      ((handleDataAbort pc).run state).state.heap = state.heap ∧
        state.heap.limit.toNat ≤ page.toNat ∧
        ((handleDataAbort pc).run state).state.OutsideTables page
  neverFull : ∀ abort cause,
    ((handleDataAbort pc).run state).outcome ≠ .error ⟨abort, .outOfMemory cause⟩
  answered : state.Trusted pc → MemoryMap.heapLimit ≤ state.registers.faultAddress.toNat →
    state.registers.faultAddress.toNat < MemoryMap.systemStackTop →
    state.heap.heapEnd.toNat < state.registers.faultAddress.toNat →
      (state.PageTranslates id state.faultPage → ((handleDataAbort pc).run state).outcome =
        .error ⟨state.latchedAbort pc, .alreadyMapped state.faultPage⟩) ∧
      (¬ state.PageTranslates id state.faultPage →
        ∃ descriptor, ((handleDataAbort pc).run state).outcome =
          .value (.stackGrown state.faultPage descriptor))

variable {state after : VirtualMemory} {id : EnvironmentId} {page : VirtualAddress} {low high : Nat}
  {requests : List VirtualMemoryRequest}

/-! ## What bring-up maps -/

theorem TranslatesRange.serveAll (translates : state.TranslatesRange id low high)
    (consistent : state.Consistent) (spares : state.Spares id requests) :
    (state.serveAll requests).TranslatesRange id low high := by
  intro address above below
  obtain ⟨target, translated⟩ := translates address above below
  exact ⟨target, consistent.translate_serveAll spares translated⟩

theorem not_mem_bringUpRequests (id : EnvironmentId) : .free id ∉ bringUpRequests id := by
  simp [bringUpRequests, sectionRequest, stackPageRequest]

theorem Carries.translatesRange (carries : Carries state (bringUpRequests id) after)
    (consistent : state.Consistent) {granule : Granule} {base : Nat} {flags : MapFlags}
    (asked : .map granule id (.ofNat base) (.ofNat base) flags ∈ bringUpRequests id)
    (inside : base < 0x100000000) : after.TranslatesRange id base (base + granule.bytes) := by
  intro address above below
  have covers : granule.Covers (.ofNat base) address := by
    rw [Granule.Covers, Address.toNat_ofNat, Nat.mod_eq_of_lt inside]
    exact ⟨above, below⟩
  rw [carries.final]
  exact consistent.translate_of_mapped carries.succeed (not_mem_bringUpRequests id) asked covers

theorem Carries.kernelMapped (carries : Carries state (bringUpRequests id) after)
    (consistent : state.Consistent) : after.KernelMapped id := by
  constructor
  · intro address _ below
    -- The first three sections cover everything below the limit of the heap.
    obtain ⟨region, listed, inside, above, ends⟩ : ∃ region ∈ identitySections,
        region.base < 0x100000000 ∧ region.base ≤ address.toNat ∧
          address.toNat < region.base + Granule.section1M.bytes := by
      simp only [MemoryMap.heapLimit] at below
      simp only [identitySections, List.exists_mem_cons_iff, Granule.bytes]
      omega
    have asked : sectionRequest id region ∈ bringUpRequests id :=
      List.mem_append_right _ (List.mem_append_left _ (List.mem_map_of_mem listed))
    exact carries.translatesRange consistent asked inside address above ends
  · intro address above below
    -- Counted from the top of the stack, the page of the address is one of the first four.
    obtain ⟨page, listed, inside, above, ends⟩ : ∃ page ∈ initialStack,
        page < 0x100000000 ∧ page ≤ address.toNat ∧
          address.toNat < page + Granule.page4K.bytes := by
      simp only [initialStackBottom, MemoryMap.systemStackTop, initialStackPages,
        Granule.bytes] at above below
      have fromTop : (0x3FFFFF - address.toNat) / 0x1000 < initialStackPages := by
        simp only [initialStackPages]
        omega
      refine ⟨_, List.mem_map_of_mem (List.mem_range.mpr fromTop), ?_⟩
      simp only [MemoryMap.systemStackTop, Granule.bytes]
      omega
    have asked : stackPageRequest id page ∈ bringUpRequests id :=
      List.mem_append_right _ (List.mem_append_right _
        (List.mem_append_left _ (List.mem_map_of_mem listed)))
    exact carries.translatesRange consistent asked inside address above ends

/-! ## The rest of the window -/

/-- A page of the window that is not translated lies between the heap and the initial stack. -/
theorem KernelMapped.bounds_of_free (mapped : state.KernelMapped id)
    (below : state.registers.faultAddress.toNat < MemoryMap.systemStackTop)
    (free : ¬ state.PageTranslates id state.faultPage) :
    MemoryMap.heapLimit ≤ state.faultPage.toNat ∧
      state.faultPage.toNat + Granule.page4K.bytes ≤ initialStackBottom := by
  have start : state.faultPage.toNat = state.registers.faultAddress.toNat -
      state.registers.faultAddress.toNat % Granule.page4K.bytes :=
    Address.toNat_alignDown .page4K _
  have covers : Granule.page4K.Covers state.faultPage state.faultPage :=
    Granule.page4K.covers_self state.faultPage
  have aboveHeap : MemoryMap.heapLimit ≤ state.faultPage.toNat := by
    apply Nat.le_of_not_lt
    intro inImage
    obtain ⟨target, translated⟩ := mapped.image state.faultPage (Nat.zero_le _) inImage
    exact free ⟨state.faultPage, target, covers, translated⟩
  have belowStack : state.faultPage.toNat < initialStackBottom := by
    apply Nat.lt_of_not_le
    intro inStack
    obtain ⟨target, translated⟩ := mapped.stack state.faultPage inStack
      (Nat.lt_of_le_of_lt (start.trans_le (Nat.sub_le _ _)) below)
    exact free ⟨state.faultPage, target, covers, translated⟩
  refine ⟨aboveHeap, ?_⟩
  simp only [initialStackBottom, MemoryMap.systemStackTop, initialStackPages,
    Granule.bytes] at start belowStack ⊢
  omega

/-- The whole window lies below the coarse table of the initial stack. -/
theorem KernelMapped.not_slotEmpty (mapped : state.KernelMapped id) (consistent : state.Consistent)
    (above : MemoryMap.heapLimit ≤ page.toNat)
    (below : page.toNat + Granule.page4K.bytes ≤ initialStackBottom) :
    ¬ state.SlotEmpty id page := by
  rintro ⟨environment, found, empty⟩
  have bottom : (⟨0x3FC000⟩ : VirtualAddress).toNat = initialStackBottom := rfl
  have sameSlot : FirstLevelIndex.ofAddress ⟨0x3FC000⟩ = .ofAddress page := by
    rw [FirstLevelIndex.ofAddress_eq_iff, bottom]
    simp only [initialStackBottom, MemoryMap.heapLimit, MemoryMap.systemStackTop,
      initialStackPages, Granule.bytes] at above below ⊢
    omega
  obtain ⟨target, translated⟩ := mapped.stack ⟨0x3FC000⟩ bottom.ge (by decide)
  rw [consistent.translate_eq found, AddressSpace.target, sameSlot, empty] at translated
  cases translated

theorem stackTop_standard (standard : state.config = .standard) :
    state.config.stackTop.toNat = MemoryMap.systemStackTop := by
  rw [standard]
  rfl

theorem KernelMapped.bounds_of_window (mapped : state.KernelMapped id)
    (standard : state.config = .standard) (window : state.InWindow)
    (free : ¬ state.PageTranslates id state.faultPage) :
    MemoryMap.heapLimit ≤ state.faultPage.toNat ∧
      state.faultPage.toNat + Granule.page4K.bytes ≤ initialStackBottom := by
  have below := window.2
  rw [stackTop_standard standard] at below
  exact mapped.bounds_of_free below free

/-! ## Aborts in the window -/

/-- In the window only the page decides, unless growth would need a coarse table. -/
theorem AbortAnswer.in_window {pc : Word} {outcome : Outcome FatalFault FaultResolution}
    (answer : AbortAnswer state pc outcome) (trusted : state.Trusted pc)
    (nonzero : state.registers.faultAddress.word ≠ 0) (window : state.InWindow)
    (active : state.active = some id)
    (linked : ¬ state.PageTranslates id state.faultPage → ¬ state.SlotEmpty id state.faultPage) :
    (state.PageTranslates id state.faultPage →
      outcome = .error ⟨state.latchedAbort pc, .alreadyMapped state.faultPage⟩) ∧
    (¬ state.PageTranslates id state.faultPage →
      ∃ descriptor, outcome = .value (.stackGrown state.faultPage descriptor)) := by
  cases answer with
  | untrusted doubtful => exact absurd trusted doubtful
  | null _ zero => exact absurd zero nonzero
  | heap _ _ outside inside => exact absurd window outside
  | outOfRange _ _ outside apart => exact absurd window outside
  | idle _ _ _ inactive =>
      rw [active] at inactive
      cases inactive
  | mapped _ _ _ running taken =>
      rw [active] at running
      cases running
      exact ⟨fun _ => rfl, fun free => absurd taken free⟩
  | outOfMemory _ _ _ running free needed full =>
      rw [active] at running
      cases running
      exact absurd needed (linked free)
  | grown _ _ _ running free room =>
      rw [active] at running
      cases running
      exact ⟨fun taken => absurd taken free, fun _ => ⟨_, rfl⟩⟩

/-- A page that has been grown was in the window, and it was not translated. -/
theorem AbortAnswer.of_grown {pc : Word} {descriptor : SmallPageDescriptor}
    (answer : AbortAnswer state pc (.value (.stackGrown page descriptor)))
    (active : state.active = some id) :
    page = state.faultPage ∧ state.InWindow ∧ ¬ state.PageTranslates id state.faultPage := by
  cases answer with
  | grown trusted nonzero window running free room =>
      rw [active] at running
      cases running
      exact ⟨rfl, window, free⟩

theorem KernelMapped.growsSafely (mapped : state.KernelMapped id) (consistent : state.Consistent)
    (standard : state.config = .standard)
    (low : state.heap.limit.toNat ≤ MemoryMap.heapLimit) (active : state.active = some id)
    (pc : Word) : state.GrowsSafely id pc := by
  have handled : HandlesAbort state pc ((handleDataAbort pc).run state).outcome
      ((handleDataAbort pc).run state).state := consistent.handlesAbort pc
  have linked : state.InWindow → ¬ state.PageTranslates id state.faultPage →
      ¬ state.SlotEmpty id state.faultPage := by
    intro window free
    obtain ⟨above, below⟩ := mapped.bounds_of_window standard window free
    exact mapped.not_slotEmpty consistent above below
  have placed : ∀ page descriptor,
      ((handleDataAbort pc).run state).outcome = .value (.stackGrown page descriptor) →
        MemoryMap.heapLimit ≤ page.toNat ∧
          page.toNat + Granule.page4K.bytes ≤ initialStackBottom := by
    intro page descriptor grown
    have answer := handled.answer
    rw [grown] at answer
    obtain ⟨rfl, window, free⟩ := answer.of_grown active
    exact mapped.bounds_of_window standard window free
  constructor
  · exact placed
  · intro page descriptor grown
    obtain ⟨above, below⟩ := placed page descriptor grown
    obtain ⟨other, running, grew⟩ := handled.grown page descriptor grown
    rw [active] at running
    cases running
    have sameHeap : ((handleDataAbort pc).run state).state.heap = state.heap := by
      rcases grew.heap with ⟨needed, -⟩ | ⟨-, same⟩
      · exact absurd needed (mapped.not_slotEmpty consistent above below)
      · exact same
    have afterwards : ((handleDataAbort pc).run state).state.Consistent :=
      consistent.after_serve (.handleDataAbort pc)
    refine ⟨sameHeap, Nat.le_trans low above, afterwards.outsideTables ?_⟩
    intro address covers shared
    have ends : state.heap.next.toNat ≤ state.heap.limit.toNat := consistent.sound.below
    have inHeap : address.toNat < state.heap.next.toNat := by
      rw [sameHeap] at shared
      exact shared.2
    have behind := covers.1
    omega
  · intro abort cause ended
    have answer := handled.answer
    rw [ended] at answer
    cases answer with
    | outOfMemory trusted nonzero window running free needed full =>
        rw [active] at running
        cases running
        exact linked window free needed
  · intro trusted above below behind
    have window : state.InWindow := ⟨behind, below.trans_eq (stackTop_standard standard).symm⟩
    have nonzero : state.registers.faultAddress.word ≠ 0 := by
      intro zero
      rw [Address.toNat, zero] at above
      exact absurd above (by decide)
    exact handled.answer.in_window trusted nonzero window active (linked window)

/-- After bring-up, over any requests that do not free the environment of the kernel, its stack
grows safely whenever it is active. -/
theorem Reachable.growsSafely_bringUp (reachable : Reachable state)
    (standard : state.config = .standard)
    (low : state.heap.limit.toNat ≤ MemoryMap.heapLimit)
    (brought : (bringUp.run state).outcome = .value id) (requests : List VirtualMemoryRequest)
    (spares : (bringUp.run state).state.Spares id requests)
    (active : ((bringUp.run state).state.serveAll requests).active = some id) (pc : Word) :
    ((bringUp.run state).state.serveAll requests).GrowsSafely id pc := by
  have consistent := reachable.consistent
  have ended : bringUp.effect state = (.value id, (bringUp.run state).state) :=
    Prod.ext brought rfl
  have carries := consistent.carries_bringUp ended
  have consistentAfter := carries.consistent consistent
  have mapped := carries.kernelMapped consistent
  obtain ⟨config, limit⟩ := consistent.bounds_serveAll (bringUpRequests id)
  obtain ⟨configLater, limitLater⟩ := consistentAfter.bounds_serveAll requests
  have mappedLater : ((bringUp.run state).state.serveAll requests).KernelMapped id :=
    ⟨mapped.image.serveAll consistentAfter spares, mapped.stack.serveAll consistentAfter spares⟩
  refine mappedLater.growsSafely (consistentAfter.after_serveAll requests) ?_ ?_ active pc
  · rw [configLater, carries.final, config, standard]
  · rw [limitLater, carries.final, limit]
    exact low

/-- Bring-up has left no memory for tables.  The kernel cannot be freed while it runs, another
environment cannot be made, and the kernel is switched off and on again; then it grows by the lowest
page of the window. -/
theorem growsSafely_bringUp_tightMachine :
    let requests : List VirtualMemoryRequest :=
      [.free ⟨0⟩, .allocate, .mmuDisable, .switchTo ⟨0⟩,
        .recordAbort (.ofParts 0b00111 0 true) ⟨0x300004⟩]
    let state := (bringUp.run tightMachine).state.serveAll requests
    (bringUp.run tightMachine).outcome = .value ⟨0⟩ ∧ state.heap.next = state.heap.limit ∧
      ((handleDataAbort 0x8040).run state).outcome =
        .value (.stackGrown ⟨0x300000⟩ ⟨0x30003e⟩) ∧
      state.GrowsSafely ⟨0⟩ 0x8040 := by
  intro requests state
  have brought : (bringUp.run tightMachine).outcome = .value ⟨0⟩ := by decide +kernel
  have spares : (bringUp.run tightMachine).state.Spares ⟨0⟩ requests := by decide +kernel
  have active : state.active = some ⟨0⟩ := by decide +kernel
  exact ⟨brought, by decide +kernel, by decide +kernel,
    reachable_tightMachine.growsSafely_bringUp rfl (by decide) brought requests spares active
      0x8040⟩

end Armv6Kernel.VirtualMemory
