import Armv6Kernel.Proofs.VirtualMemory.Serving

/-!
# What lasts

Nothing is ever unmapped: an address that is translated in an environment keeps its target until the
environment is freed, whatever is asked in between.  The configuration and the limit of the heap
never change.
-/

namespace Armv6Kernel.VirtualMemory

/-- No request of a run frees an environment.  One that tries to may fail. -/
def Spares (state : VirtualMemory) (id : EnvironmentId) : List VirtualMemoryRequest → Prop
  | [] => True
  | request :: later => (request = .free id → state.succeeds request = false) ∧
      (state.serve request).Spares id later

instance decidableSpares (state : VirtualMemory) (id : EnvironmentId) :
    (requests : List VirtualMemoryRequest) → Decidable (state.Spares id requests)
  | [] => .isTrue trivial
  | request :: later =>
      have := decidableSpares (state.serve request) id later
      inferInstanceAs (Decidable (_ ∧ _))

/-- Every request of a run succeeds. -/
def AllSucceed (state : VirtualMemory) : List VirtualMemoryRequest → Prop
  | [] => True
  | request :: later => state.succeeds request = true ∧ (state.serve request).AllSucceed later

variable {state : VirtualMemory} {request : VirtualMemoryRequest}
  {requests : List VirtualMemoryRequest} {id : EnvironmentId} {environment : Environment}
  {address : VirtualAddress} {target : PhysicalAddress}

/-! ## One request -/

theorem Consistent.filed (consistent : state.Consistent) : state.Filed where
  fits := consistent.poolFits
  identified found := consistent.identified found
  occupied found := by
    have occupied := consistent.slots.occupied found
    rw [consistent.identified found] at occupied
    exact occupied

theorem Consistent.translate_serve (consistent : state.Consistent)
    (spared : request = .free id → state.succeeds request = false)
    (translated : state.translate id address = .ok (some target)) :
    (state.serve request).translate id address = .ok (some target) := by
  rcases found : state.environments id with _ | environment
  · rw [translate_of_none found] at translated
    cases translated
  · have member := mem_liveSpaces found
    have steps := serveSteps consistent.filed request
    obtain ⟨-, keeps⟩ :=
      (serveEffect consistent request).retains consistent.sound Set.Subset.rfl
    rw [consistent.translate_eq found] at translated
    rcases steps.record consistent.filed found with ⟨access, recorded⟩ | ⟨asked, freed, -⟩
    · rw [(consistent.after_serve request).translate_eq recorded]
      exact congrArg Except.ok (keeps.target_eq member (Except.ok.inj translated))
    · rw [spared asked] at freed
      cases freed

theorem limit_of_source {tables : TableMemory BumpHeap} {needed : Prop}
    (source : (needed ∧ tables.source = (state.tables.afterTable .coarse).source) ∨
      (¬ needed ∧ tables.source = state.tables.source)) :
    tables.source.limit = state.heap.limit := by
  rcases source with ⟨-, taken⟩ | ⟨-, same⟩
  · rw [taken]
    exact BumpHeap.limit_moveTo _ state.heap
  · rw [same]
    rfl

theorem Consistent.limit_serve (consistent : state.Consistent) (request : VirtualMemoryRequest) :
    (state.serve request).heap.limit = state.heap.limit := by
  have effect := serveEffect consistent request
  cases effect with
  | idle records tables => rw [heap, tables, heap]
  | recorded named others fewer tables => rw [heap, tables, heap]
  | allocated grants made =>
      rw [made]
      exact BumpHeap.limit_moveTo _ state.heap
  | @mapped id environment granule start physical flags _ concerns found records ended =>
      have ending := mapEffect_mapGranule consistent.sound (mem_liveSpaces found) granule start
        physical environment.domain flags
      rw [ended] at ending
      cases ending with
      | installed accepts room source sound maps => exact limit_of_source source

/-- A mapping that has been accepted translates the addresses that it covers. -/
theorem Consistent.translate_map (consistent : state.Consistent) {granule : Granule}
    {start : VirtualAddress} {physical : PhysicalAddress} {flags : MapFlags}
    (mapped : state.succeeds (.map granule id start physical flags) = true)
    (covers : granule.Covers start address) :
    ∃ target, (state.serve (.map granule id start physical flags)).translate id address =
      .ok (some target) := by
  have afterwards := consistent.after_serve (.map granule id start physical flags)
  have final : state.serve (.map granule id start physical flags) =
      ((mapGranule id granule start physical flags).effect state).2 := rfl
  have succeeds : ((mapGranule id granule start physical flags).effect state).1.isValue = true :=
    mapped
  rw [final] at afterwards ⊢
  rcases found : state.environments id with _ | environment
  · rw [effect_mapGranule_of_none found] at succeeds
    cases succeeds
  · have member := mem_liveSpaces found
    have ending := mapEffect_mapGranule consistent.sound member granule start physical
      environment.domain flags
    rw [effect_mapGranule consistent found] at succeeds afterwards ⊢
    rcases ended : (environment.space.mapGranule granule start physical environment.domain
      flags).effect state.tables with ⟨outcome, tables⟩
    rw [ended] at ending succeeds afterwards
    cases ending with
    | installed accepts room source sound maps =>
        obtain ⟨target, leads, -⟩ := maps.inside address covers
        refine ⟨target, ?_⟩
        rw [afterwards.translate_eq found]
        exact congrArg Except.ok leads
    | outOfMemory accepts needed full => cases succeeds
    | refused rejects => cases succeeds

/-! ## Runs -/

theorem spares_of_not_mem (unfreed : .free id ∉ requests) : state.Spares id requests := by
  induction requests generalizing state with
  | nil => trivial
  | cons request later ih =>
      refine ⟨?_, ih fun freed => unfreed (.tail _ freed)⟩
      rintro rfl
      exact absurd (.head _) unfreed

theorem Consistent.translate_serveAll (consistent : state.Consistent)
    (spares : state.Spares id requests)
    (translated : state.translate id address = .ok (some target)) :
    (state.serveAll requests).translate id address = .ok (some target) := by
  induction requests generalizing state with
  | nil => exact translated
  | cons request later ih =>
      exact ih (consistent.after_serve request) spares.2
        (consistent.translate_serve spares.1 translated)

theorem Consistent.bounds_serveAll (consistent : state.Consistent)
    (requests : List VirtualMemoryRequest) :
    (state.serveAll requests).config = state.config ∧
      (state.serveAll requests).heap.limit = state.heap.limit := by
  induction requests generalizing state with
  | nil => exact ⟨rfl, rfl⟩
  | cons request later ih =>
      have config := (serveSteps consistent.filed request).config
      have limit := consistent.limit_serve request
      rw [← config, ← limit]
      exact ih (consistent.after_serve request)

/-- Where everything succeeds and nothing is freed, all mappings that were asked for are there in
the end. -/
theorem Consistent.translate_of_mapped (consistent : state.Consistent)
    (succeed : state.AllSucceed requests) (unfreed : .free id ∉ requests) {granule : Granule}
    {start : VirtualAddress} {physical : PhysicalAddress} {flags : MapFlags}
    (asked : .map granule id start physical flags ∈ requests)
    (covers : granule.Covers start address) :
    ∃ target, (state.serveAll requests).translate id address = .ok (some target) := by
  induction requests generalizing state with
  | nil => exact absurd asked List.not_mem_nil
  | cons request later ih =>
      obtain ⟨first, rest⟩ := succeed
      have unfreedLater : .free id ∉ later := fun freed => unfreed (.tail _ freed)
      rcases List.mem_cons.mp asked with rfl | askedLater
      · obtain ⟨target, translated⟩ := consistent.translate_map first covers
        exact ⟨target, (consistent.after_serve _).translate_serveAll
          (spares_of_not_mem unfreedLater) translated⟩
      · exact ih (consistent.after_serve request) rest unfreedLater askedLater

end Armv6Kernel.VirtualMemory
