import Mathlib.Data.List.Induction
import Armv6Kernel.Proofs.AddressSpace.Accounting
import Armv6Kernel.Proofs.VirtualMemory.Isolation

/-!
# Tables that are not used any more

The tree of an environment that has been retired keeps its tables.  Nothing gives their memory back,
and no table of a later environment ever overlaps them.  With the sessions, in which trees are not
retired, this settles who owns the memory that the source of tables has handed out.
-/

namespace Armv6Kernel

namespace VirtualMemory

/-- The state that a list of requests leads to. -/
def serveAll (state : VirtualMemory) (requests : List VirtualMemoryRequest) : VirtualMemory :=
  requests.foldl serve state

/-- The trees of all environments that live at some time of a run. -/
def everLive (state : VirtualMemory) (requests : List VirtualMemoryRequest) : Set AddressSpace :=
  {space | ∃ earlier, earlier <+: requests ∧ space ∈ (state.serveAll earlier).liveSpaces}

/-- The tables of all environments that have ever lived lie apart in the heap, and each of them
stays where it is. -/
structure RetainsTables (state : VirtualMemory) (requests : List VirtualMemoryRequest) : Prop where
  owned : OwnsBlocks (state.serveAll requests).memory state.heap.start.toNat
    (state.serveAll requests).heap.next.toNat (state.everLive requests)
  kept : ∀ earlier, earlier <+: requests → ∀ (seat : TableSeat) (block : Block),
    seat.space ∈ (state.serveAll earlier).liveSpaces →
      seat.block? (state.serveAll earlier).memory = some block →
        seat.block? (state.serveAll requests).memory = some block

variable {state after : VirtualMemory} {request : VirtualMemoryRequest} {low : Nat}
  {spaces : Set AddressSpace}

/-! ## One request -/

/-- A request keeps the tables of any trees that lie side by side with those of the environments
that live, and its own new tables lie side by side with them as well. -/
theorem ServeEffect.retains (effect : ServeEffect state request after)
    (sound : state.tables.Sound low spaces) (live : state.liveSpaces ⊆ spaces) :
    after.tables.Sound low (spaces ∪ after.liveSpaces) ∧
      Keeps after.memory state.memory spaces := by
  have same : after.tables = state.tables → after.liveSpaces ⊆ state.liveSpaces →
      after.tables.Sound low (spaces ∪ after.liveSpaces) ∧
        Keeps after.memory state.memory spaces := by
    intro tables fewer
    have memories : after.memory = state.memory := congrArg TableMemory.memory tables
    rw [tables, memories]
    exact ⟨sound.restrict (Set.union_subset subset_rfl (fewer.trans live)), .refl _ _⟩
  have sameRecords : after.environments = state.environments →
      after.liveSpaces = state.liveSpaces := by
    intro records
    rw [liveSpaces, records, liveSpaces]
  cases effect with
  | idle records tables => exact same tables (sameRecords records).subset
  | recorded named others fewer tables => exact same tables fewer
  | allocated grants made =>
      subst made
      refine ⟨(sound.afterRoot grants.room).restrict ?_, ?_⟩
      · apply Set.union_subset (Set.subset_insert _ _)
        exact (liveSpaces_afterAllocate state _ _ _).trans (Set.insert_subset_insert live)
      · apply keeps_of_untouched
        intro space member
        exact sound.forest.untouched_of_agree (TableMemory.agree_afterRoot grants.room) member
  | @mapped id environment granule start physical flags _ concerns found records ended =>
      have member := live (Consistent.mem_liveSpaces found)
      have installs := installs_mapGranule sound member ended
      have ending := mapEffect_mapGranule sound member granule start physical environment.domain
        flags
      rw [ended] at ending
      rw [sameRecords records, Set.union_eq_self_of_subset_right live]
      cases ending with
      | installed accepts room source soundAfter maps =>
          exact ⟨soundAfter, (installs.fillsOnly sound member).keeps⟩

/-! ## Runs -/

theorem serveAll_append (state : VirtualMemory) (requests : List VirtualMemoryRequest)
    (request : VirtualMemoryRequest) :
    state.serveAll (requests ++ [request]) = (state.serveAll requests).serve request := by
  rw [serveAll, List.foldl_append]
  rfl

theorem everLive_append (state : VirtualMemory) (requests : List VirtualMemoryRequest)
    (request : VirtualMemoryRequest) :
    state.everLive (requests ++ [request]) =
      state.everLive requests ∪ (state.serveAll (requests ++ [request])).liveSpaces := by
  ext space
  constructor
  · rintro ⟨earlier, before, live⟩
    rcases List.prefix_concat_iff.mp before with rfl | shorter
    · exact .inr live
    · exact .inl ⟨earlier, shorter, live⟩
  · rintro (⟨earlier, shorter, live⟩ | live)
    · exact ⟨earlier, List.prefix_concat_iff.mpr (.inr shorter), live⟩
    · exact ⟨requests ++ [request], List.prefix_rfl, live⟩

theorem liveSpaces_subset_everLive {earlier requests : List VirtualMemoryRequest}
    (before : earlier <+: requests) :
    (state.serveAll earlier).liveSpaces ⊆ state.everLive requests :=
  fun _ live => ⟨earlier, before, live⟩

theorem Consistent.after_serveAll (consistent : state.Consistent)
    (requests : List VirtualMemoryRequest) : (state.serveAll requests).Consistent := by
  induction requests using List.reverseRecOn with
  | nil => exact consistent
  | append_singleton requests request ih =>
      rw [serveAll_append]
      exact ih.after_serve request

theorem Consistent.retains_serveAll (consistent : state.Consistent)
    (requests : List VirtualMemoryRequest) :
    (state.serveAll requests).tables.Sound state.heap.start.toNat (state.everLive requests) ∧
      ∀ earlier, earlier <+: requests → ∀ (seat : TableSeat) (block : Block),
        seat.space ∈ (state.serveAll earlier).liveSpaces →
          seat.block? (state.serveAll earlier).memory = some block →
            seat.block? (state.serveAll requests).memory = some block := by
  induction requests using List.reverseRecOn with
  | nil =>
      refine ⟨consistent.sound.restrict ?_, ?_⟩
      · rintro space ⟨earlier, before, live⟩
        rw [List.prefix_nil.mp before] at live
        exact live
      · intro earlier before seat block live found
        rw [List.prefix_nil.mp before] at found
        exact found
  | append_singleton requests request ih =>
      obtain ⟨sound, kept⟩ := ih
      have effect := serveEffect (consistent.after_serveAll requests) request
      rw [← serveAll_append] at effect
      obtain ⟨soundAfter, keeps⟩ :=
        effect.retains sound (liveSpaces_subset_everLive List.prefix_rfl)
      rw [everLive_append]
      refine ⟨soundAfter, fun earlier before seat block live found => ?_⟩
      rcases List.prefix_concat_iff.mp before with rfl | shorter
      · exact found
      · exact keeps.block?_eq (liveSpaces_subset_everLive shorter live)
          (kept earlier shorter seat block live found)

theorem Reachable.retainsTables (reachable : Reachable state)
    (requests : List VirtualMemoryRequest) : state.RetainsTables requests := by
  obtain ⟨sound, kept⟩ := reachable.consistent.retains_serveAll requests
  exact ⟨sound.forest.ownsBlocks, kept⟩

end VirtualMemory

/-! ## Sessions and environments -/

open SpaceSession VirtualMemory

/-- In every session over zeroed memory the tables own their memory, wherever in this memory they
come from.  In every run of virtual memory the tables of all environments, those that have been
retired included, own theirs. -/
theorem ownsTables_and_retainsTables :
    (∀ base length memory, PhysicalMemory.simulated base length = .ok memory →
      (∀ arena, Arena.ofRange base length = .ok arena → ∀ requests,
        ((start memory arena).transcript requests).OwnsTables base.toNat) ∧
      ∀ first last heap, BumpHeap.create first last = .ok heap → base.toNat ≤ first.toNat →
        last.toNat ≤ base.toNat + length.toNat → ∀ requests,
          ((start memory heap).transcript requests).OwnsTables first.toNat) ∧
    ∀ state, Reachable state → ∀ requests, state.RetainsTables requests :=
  ⟨fun _ _ _ => Transcript.ownsTables_transcript, fun _ => Reachable.retainsTables⟩

/-- A session in which a caller takes memory between two pages and some requests fail, and an
environment that is retired before another one is made. -/
theorem ownsTables_and_retainsTables_refusals :
    let memory : PhysicalMemory := ⟨.window 0x8000 0x10000, fun _ => 0⟩
    let arena : Arena := ⟨⟨0x8000⟩, 0x8000, 0x18000⟩
    let heap : BumpHeap := ⟨⟨0x9008⟩, ⟨0x9008⟩, ⟨0x9008⟩, ⟨0x18000⟩⟩
    let page (start : VirtualAddress) : SpaceRequest := .map .page4K 0 start ⟨0x1000⟩ ⟨0⟩ .none
    let requests : List SpaceRequest :=
      [.takeBlock 24 8, .makeSpace, page ⟨0x101000⟩, .takeBlock 100 4, page ⟨0x101000⟩,
        page ⟨0x102000⟩, page ⟨0x203000⟩, .makeSpace, page ⟨0x304000⟩]
    let table : TableSeat := .below ⟨⟨0x140000⟩⟩ (.ofAddress ⟨0x200000⟩)
    let mapped : List VirtualMemoryRequest :=
      [.allocate, .map .page4K ⟨0⟩ ⟨0x200000⟩ ⟨0x500000⟩ .kernel]
    let retired : List VirtualMemoryRequest := mapped ++ [.free ⟨0⟩, .allocate]
    ((start memory arena).transcript requests).tablesTaken = [⟨0x10000⟩, ⟨0x10800⟩] ∧
      ((start memory arena).transcript requests).OwnsTables 0x8000 ∧
      ((start memory heap).transcript requests).OwnsTables 0x9008 ∧
      table.block? (smallMachine.serveAll mapped).memory = some ⟨0x144000, 1024⟩ ∧
      ((smallMachine.serveAll retired).environments ⟨0⟩).map Environment.root =
        some ⟨0x148000⟩ ∧
      table.block? (smallMachine.serveAll retired).memory = some ⟨0x144000, 1024⟩ ∧
      smallMachine.RetainsTables retired := by
  intro memory arena heap page requests table mapped retired
  obtain ⟨owns, retains⟩ := ownsTables_and_retainsTables
  have zeroed : PhysicalMemory.simulated 0x8000 0x10000 = .ok memory := rfl
  obtain ⟨inArena, inHeap⟩ := owns _ _ _ zeroed
  exact ⟨by decide +kernel, inArena arena rfl requests,
    inHeap ⟨0x9008⟩ ⟨0x18000⟩ heap rfl (by decide) (by decide) requests, by decide +kernel,
    by decide +kernel, by decide +kernel, retains _ reachable_smallMachine retired⟩

end Armv6Kernel
