import Armv6Kernel.Proofs.Fault.Pipeline

/-!
# Stack pages and the heap

The window test compares the recorded address with the end of the heap, but the whole page is
mapped, and mapping it may take one more coarse table from the heap.  A grown page therefore stays
outside the heap, and outside every table that lives there, exactly if the heap ends before the page
and still does so once that table has been taken.
-/

namespace Armv6Kernel.VirtualMemory

/-- No address of a page lies in the part of the heap that has been handed out. -/
def OutsideHeap (state : VirtualMemory) (page : VirtualAddress) : Prop :=
  ∀ address, Granule.page4K.Covers page address →
    ¬ (state.heap.heapStart.toNat ≤ address.toNat ∧ address.toNat < state.heap.heapEnd.toNat)

/-- No table of an environment that lives shares a byte with a page. -/
def OutsideTables (state : VirtualMemory) (page : VirtualAddress) : Prop :=
  ∀ space ∈ state.liveSpaces, ∀ address, Granule.page4K.Covers page address →
    ¬ (space.root.toNat ≤ address.toNat ∧
      address.toNat < space.root.toNat + TableLevel.first.bytes) ∧
    ∀ index pointer, space.entry state.memory index = .coarse pointer →
      ¬ (pointer.table.toNat ≤ address.toNat ∧
        address.toNat < pointer.table.toNat + TableLevel.coarse.bytes)

/-- The heap ends before a page, and still does after growth by the page has taken the coarse table
that it needs. -/
def HeapEndsBefore (state : VirtualMemory) (id : EnvironmentId) (page : VirtualAddress) : Prop :=
  state.heap.heapEnd.toNat ≤ page.toNat ∧
    (state.SlotEmpty id page →
      roundUp state.heap.heapEnd.toNat TableLevel.coarse.bytes + TableLevel.coarse.bytes ≤
        page.toNat)

variable {state after : VirtualMemory} {id : EnvironmentId} {page : VirtualAddress}

/-- All live tables lie in the part of the heap that has been handed out. -/
theorem Consistent.outsideTables (consistent : state.Consistent)
    (outside : state.OutsideHeap page) :
    state.OutsideTables page := by
  intro space member address covers
  have apart := outside address covers
  change ¬ (state.heap.start.toNat ≤ _ ∧ _ < state.heap.next.toNat) at apart
  constructor
  · intro shared
    have inside := consistent.sound.forest.rootInside member
    change state.heap.start.toNat ≤ _ ∧ _ ≤ state.heap.next.toNat at inside
    omega
  · intro index pointer linked shared
    have inside := consistent.sound.forest.tableInside ⟨member, linked⟩
    change state.heap.start.toNat ≤ _ ∧ _ ≤ state.heap.next.toNat at inside
    omega

/-- The page of an address behind the end of the heap begins behind the start of the heap, since the
tree of the environment lies in between. -/
theorem Consistent.heapStart_le_faultPage (consistent : state.Consistent)
    {environment : Environment}
    (found : state.environments id = some environment) (window : state.InWindow) :
    state.heap.heapStart.toNat ≤ state.faultPage.toNat := by
  have inside := consistent.sound.forest.rootInside (mem_liveSpaces found)
  change state.heap.start.toNat ≤ _ ∧ _ ≤ state.heap.next.toNat at inside
  have behind := window.1
  change state.heap.next.toNat < _ at behind
  change state.heap.start.toNat ≤ _
  rw [faultPage, Address.toNat_alignDown]
  rw [TableLevel.bytes_first] at inside
  simp only [Granule.bytes]
  omega

/-- Where the heap ends after growth. -/
theorem GrewBy.heapEndsBefore_iff (grew : GrewBy after state id page)
    (room : state.SlotEmpty id page → state.CoarseRoom) :
    state.HeapEndsBefore id page ↔ after.heap.heapEnd.toNat ≤ page.toNat := by
  have rises := TableLevel.coarse.le_roundUp state.heap.heapEnd.toNat
  rcases grew.heap with ⟨needed, taken⟩ | ⟨unneeded, same⟩
  · have fits : roundUp state.heap.heapEnd.toNat TableLevel.coarse.bytes +
        TableLevel.coarse.bytes ≤ state.heap.limit.toNat := coarseRoom_iff.mp (room needed)
    have bound := state.heap.limit.toNat_lt
    have ends : after.heap.heapEnd.toNat =
        roundUp state.heap.heapEnd.toNat TableLevel.coarse.bytes + TableLevel.coarse.bytes := by
      rw [taken]
      change (Address.ofNat _ : PhysicalAddress).toNat = _
      rw [Address.toNat_ofNat]
      exact Nat.mod_eq_of_lt (Nat.lt_of_le_of_lt fits bound)
    rw [ends]
    constructor
    · intro before
      exact before.2 needed
    · intro below
      exact ⟨by omega, fun _ => below⟩
  · rw [same]
    constructor
    · intro before
      exact before.1
    · intro below
      exact ⟨below, fun needed => absurd needed unneeded⟩

theorem GrewBy.outsideHeap_iff (grew : GrewBy after state id page)
    (begins : state.heap.heapStart.toNat ≤ page.toNat) :
    after.OutsideHeap page ↔ after.heap.heapEnd.toNat ≤ page.toNat := by
  have sameStart : after.heap.heapStart = state.heap.heapStart := by
    rcases grew.heap with ⟨-, taken⟩ | ⟨-, same⟩
    · simp only [taken, BumpHeap.heapStart]
    · rw [same]
  constructor
  · intro outside
    have covers : Granule.page4K.Covers page page := Granule.page4K.covers_self page
    have apart := outside page covers
    rw [sameStart] at apart
    exact Nat.le_of_not_lt fun below => apart ⟨begins, below⟩
  · intro ends address covers shared
    exact Nat.not_lt_of_le (Nat.le_trans ends covers.1) shared.2

/-- A page that has been grown lies outside the heap exactly if the heap ends before it, the table
for the growth included.  Then no table that lives shares a byte with the page. -/
theorem Reachable.outsideHeap_grown_iff (reachable : Reachable state) {pc : Word}
    {descriptor : SmallPageDescriptor}
    (grown : ((handleDataAbort pc).run state).outcome = .value (.stackGrown page descriptor)) :
    ∃ id, state.active = some id ∧
      (((handleDataAbort pc).run state).state.OutsideHeap page ↔ state.HeapEndsBefore id page) ∧
      (state.HeapEndsBefore id page →
        ((handleDataAbort pc).run state).state.OutsideTables page) := by
  have consistent := reachable.consistent
  have afterConsistent := (reachable.serve (.handleDataAbort pc)).consistent
  have handled := consistent.handlesAbort pc
  obtain ⟨id, active, grew⟩ := handled.grown page descriptor grown
  obtain ⟨environment, found⟩ := consistent.activeLive active
  have answer := handled.answer
  rw [Action.effect_fst, grown] at answer
  rw [Action.effect_snd] at grew
  cases answer with
  | @grown other _ trusted nonzero window otherActive free room =>
      have same : other = id := by
        rw [active] at otherActive
        exact (Option.some.inj otherActive).symm
      rw [same] at room
      have outside_iff : ((handleDataAbort pc).run state).state.OutsideHeap state.faultPage ↔
          state.HeapEndsBefore id state.faultPage := by
        rw [grew.outsideHeap_iff (consistent.heapStart_le_faultPage found window)]
        exact (grew.heapEndsBefore_iff room).symm
      refine ⟨id, active, outside_iff, fun before => ?_⟩
      exact afterConsistent.outsideTables (outside_iff.mpr before)

/-- A running environment with one small page, and a store just behind the coarse table of that
page. -/
def storeBehindHeap : VirtualMemory :=
  (((smallMachine.serve .allocate).serve
    (.map .page4K ⟨0⟩ ⟨0x100000⟩ ⟨0x100000⟩ .kernel)).serve (.switchTo ⟨0⟩)).serve
      (.recordAbort (.ofParts 0b00111 0 true) ⟨0x144404⟩)

theorem reachable_storeBehindHeap : Reachable storeBehindHeap :=
  (((reachable_smallMachine.serve _).serve _).serve _).serve _

/-- The store makes a stack page of the coarse table that maps it. -/
theorem outsideHeap_grown_iff_storeBehindHeap :
    let ended := (handleDataAbort 0x8040).run storeBehindHeap
    ended.outcome = .value (.stackGrown ⟨0x144000⟩ ⟨0x14403e⟩) ∧
      ¬ ended.state.OutsideHeap ⟨0x144000⟩ ∧ ¬ ended.state.OutsideTables ⟨0x144000⟩ := by
  have grown : ((handleDataAbort 0x8040).run storeBehindHeap).outcome =
      .value (.stackGrown ⟨0x144000⟩ ⟨0x14403e⟩) := by
    decide +kernel
  obtain ⟨id, -, outside_iff, -⟩ := reachable_storeBehindHeap.outsideHeap_grown_iff grown
  refine ⟨grown, fun outside => ?_, fun outside => ?_⟩
  · have ends : storeBehindHeap.heap.heapEnd = ⟨0x144400⟩ := by decide +kernel
    have before := (outside_iff.mp outside).1
    rw [ends] at before
    exact absurd before (by decide)
  · have live : ((handleDataAbort 0x8040).run storeBehindHeap).state.environments ⟨0⟩ =
        some ⟨⟨0⟩, 1, ⟨1⟩, 1, ⟨4⟩, ⟨0x140000⟩⟩ := by
      decide +kernel
    have linked : (⟨⟨0x140000⟩⟩ : AddressSpace).entry
        ((handleDataAbort 0x8040).run storeBehindHeap).state.memory (.ofAddress ⟨0x144000⟩) =
          .coarse ⟨0x144021⟩ := by
      decide +kernel
    have covers : Granule.page4K.Covers ⟨0x144000⟩ ⟨0x144000⟩ := by decide
    have apart := (outside _ ⟨⟨0⟩, _, live, rfl⟩ _ covers).2 _ _ linked
    exact apart (by decide)

end Armv6Kernel.VirtualMemory
