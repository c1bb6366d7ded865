import Armv6Kernel.Proofs.AddressSpace.Acceptance
import Armv6Kernel.Proofs.AddressSpace.Persistence
import Armv6Kernel.Proofs.VirtualMemory.DomainConfinement

/-!
# Laying out a tree

A plan lists mappings that lie apart from each other.  Carried out in an empty tree, one after the
other, each of them is accepted, and in the end the tree translates what the plan covers and nothing
else.  The only thing that can go wrong on the way is that a page finds no room for its coarse
table.
-/

namespace Armv6Kernel

/-- A mapping that is to be made. -/
structure PlannedMapping where
  granule : Granule
  start : VirtualAddress
  physical : PhysicalAddress
  flags : MapFlags
  deriving DecidableEq, Repr

namespace PlannedMapping

def Covers (planned : PlannedMapping) (address : VirtualAddress) : Prop :=
  planned.granule.Covers planned.start address

/-- The mapping sends an address that it covers to `target`. -/
def Leads (planned : PlannedMapping) (address : VirtualAddress) (target : PhysicalAddress) :
    Prop :=
  target.toNat = planned.physical.toNat + (address.toNat - planned.start.toNat)

/-- One mapping ends before the other one starts. -/
def Apart (first second : PlannedMapping) : Prop :=
  first.start.toNat + first.granule.bytes ≤ second.start.toNat ∨
    second.start.toNat + second.granule.bytes ≤ first.start.toNat

instance (first second : PlannedMapping) : Decidable (first.Apart second) :=
  inferInstanceAs (Decidable (_ ∨ _))

theorem Apart.not_covers {first second : PlannedMapping} (apart : first.Apart second)
    {address : VirtualAddress} (covers : second.Covers address) : ¬ first.Covers address := by
  simp only [Covers, Granule.Covers, Apart] at *
  omega

end PlannedMapping

/-- The mappings of a plan can be asked for, and no two of them overlap. -/
structure Feasible (plan : List PlannedMapping) : Prop where
  placed : ∀ planned ∈ plan, ¬ Misplaced planned.granule planned.start planned.physical
  apart : plan.Pairwise PlannedMapping.Apart

/-- A tree translates what a plan covers, each part with the attributes that are asked for it, and
nothing else. -/
structure AddressSpace.LaidOut (space : AddressSpace) (memory : PhysicalMemory) (domain : Domain)
    (plan : List PlannedMapping) : Prop where
  furnished : Furnished memory {space}
  covered : ∀ planned ∈ plan, ∀ address, planned.Covers address →
    ∃ target, space.target memory address = some target ∧ planned.Leads address target
  uncovered : ∀ address, (∀ planned ∈ plan, ¬ planned.Covers address) →
    space.target memory address = none
  held : ∀ planned ∈ plan, ∀ address, planned.Covers address →
    ∃ descriptor : Descriptor (.mapping planned.granule),
      space.Holds memory address descriptor ∧ descriptor.granted = planned.flags.asked
  confined : space.ConfinedTo memory domain

section Plans

variable {A : Type} [TableSource A] [CursorSource A] {tables after : TableMemory A} {low : Nat}
  {spaces : Set AddressSpace} {space : AddressSpace} {domain : Domain} {memory : PhysicalMemory}
  {plan first rest : List PlannedMapping} {planned : PlannedMapping}

theorem Feasible.append_left (feasible : Feasible (first ++ rest)) : Feasible first where
  placed planned listed := feasible.placed planned (List.mem_append_left _ listed)
  apart := (List.pairwise_append.mp feasible.apart).1

theorem Feasible.apart_of_mem (feasible : Feasible (plan ++ planned :: rest))
    {other : PlannedMapping} (listed : other ∈ plan) : other.Apart planned :=
  (List.pairwise_append.mp feasible.apart).2.2 other listed planned (List.mem_cons_self ..)

namespace AddressSpace.LaidOut

/-- A tree whose slots are empty follows the empty plan. -/
theorem of_empty (empty : ∀ index, (space.firstLevel.slot memory index).word = 0)
    (domain : Domain) : space.LaidOut memory domain [] where
  furnished := by
    intro owner index pointer linked
    obtain rfl : owner = space := linked.member
    have blank := linked.entry
    rw [Forest.entry_of_empty (empty index)] at blank
    cases blank
  covered := nofun
  uncovered address _ := Forest.target_of_empty empty address
  held := nofun
  confined index found named := by
    rw [Forest.entry_of_empty (empty index)] at named
    cases named

/-- The next mapping of a plan is accepted. -/
theorem accepts (laidOut : space.LaidOut tables.memory domain plan)
    (sound : tables.Sound low spaces) (member : space ∈ spaces)
    (feasible : Feasible (plan ++ planned :: rest)) :
    space.Accepts tables.memory planned.granule planned.start planned.physical := by
  have alone := sound.restrict (Set.singleton_subset_iff.mpr member)
  rw [AddressSpace.accepts_iff alone laidOut.furnished rfl]
  rintro (misplaced | overlaps)
  · exact feasible.placed planned (List.mem_append_right _ (List.mem_cons_self ..)) misplaced
  · refine (overlaps_iff alone rfl).mpr (fun address covers => ?_) overlaps
    exact laidOut.uncovered address fun other listed =>
      (feasible.apart_of_mem listed).not_covers covers

/-- A mapping that is made goes on to the plan. -/
theorem add (laidOut : space.LaidOut tables.memory domain plan)
    (sound : tables.Sound low spaces) (member : space ∈ spaces)
    {descriptor : Descriptor (.mapping planned.granule)}
    (installs : Installs tables space planned.start planned.physical domain planned.flags
      descriptor after)
    (maps : after.Maps tables spaces space planned.granule planned.start planned.physical) :
    space.LaidOut after.memory domain (plan ++ [planned]) := by
  have alone := sound.restrict (Set.singleton_subset_iff.mpr member)
  have keeps := (installs.fillsOnly sound member).keeps
  constructor
  · exact Furnished.of_installs laidOut.furnished alone rfl installs
  · intro other listed address covers
    rcases List.mem_append.mp listed with old | new
    · obtain ⟨target, leads, place⟩ := laidOut.covered other old address covers
      exact ⟨target, keeps.target_eq member leads, place⟩
    · cases List.mem_singleton.mp new
      exact maps.inside address covers
  · intro address outside
    have elsewhere : ¬ planned.Covers address :=
      outside planned (List.mem_append_right _ (List.mem_singleton_self _))
    rw [maps.outside space member address fun both => elsewhere both.2]
    exact laidOut.uncovered address fun other listed =>
      outside other (List.mem_append_left _ listed)
  · intro other listed address covers
    rcases List.mem_append.mp listed with old | new
    · obtain ⟨descriptor, holds, granted⟩ := laidOut.held other old address covers
      exact ⟨descriptor, holds.of_keeps keeps member, granted⟩
    · cases List.mem_singleton.mp new
      exact ⟨descriptor, installs.holds sound member covers, installs.granted_eq⟩
  · exact installs.confinedTo sound member laidOut.confined

/-- A MiB that a plan leaves free has an empty slot. -/
theorem entry_eq_fault (laidOut : space.LaidOut tables.memory domain plan)
    (sound : tables.Sound low spaces) (member : space ∈ spaces) {start : VirtualAddress}
    (aligned : start.isAligned .section1M = true)
    (free : ∀ address, Granule.section1M.Covers start address →
      ∀ planned ∈ plan, ¬ planned.Covers address) :
    space.entry tables.memory (.ofAddress start) = .fault := by
  have alone := sound.restrict (Set.singleton_subset_iff.mpr member)
  rcases alone.vacant_of_free laidOut.furnished rfl aligned
      (fun address covers => laidOut.uncovered address (free address covers)) with
    vacant | ⟨page, -⟩
  · exact vacant
  · exact absurd rfl page

/-- Where a plan covers an address, no other mapping in the same MiB needs a table. -/
theorem not_needsTable (laidOut : space.LaidOut memory domain plan) (listed : planned ∈ plan)
    {granule : Granule} {start : VirtualAddress}
    (same : FirstLevelIndex.ofAddress planned.start = FirstLevelIndex.ofAddress start) :
    ¬ space.NeedsTable memory granule start := by
  rintro ⟨-, vacant⟩
  obtain ⟨target, leads, -⟩ :=
    laidOut.covered planned listed planned.start (planned.granule.covers_self planned.start)
  rw [← same] at vacant
  rw [AddressSpace.target, vacant] at leads
  cases leads

end AddressSpace.LaidOut

end Plans

namespace VirtualMemory

/-- Maps what is planned in an environment. -/
def mapPlanned (id : EnvironmentId) (planned : PlannedMapping) :
    Action VirtualMemory MapError (Descriptor (.mapping planned.granule)) :=
  mapGranule id planned.granule planned.start planned.physical planned.flags

/-- From one state to another an environment has been laid out by a plan.  Nothing but tables has
changed, and no tree but that of the environment; a plan of sections has taken no table memory. -/
structure Lays (before : VirtualMemory) (environment : Environment) (plan : List PlannedMapping)
    (after : VirtualMemory) : Prop where
  tablesOnly : after = { before with tables := after.tables }
  consistent : after.Consistent
  laidOut : environment.space.LaidOut after.memory environment.domain plan
  untouched : ∀ space ∈ before.liveSpaces, space ≠ environment.space →
    space.Untouched after.memory before.memory
  source : (∀ planned ∈ plan, planned.granule = .section1M) →
    after.tables.source = before.tables.source

/-- The ways in which a part of a plan can end that is carried out after another part. -/
inductive LayEffect (before : VirtualMemory) (environment : Environment)
    (plan more : List PlannedMapping) : Outcome AllocationError Unit × VirtualMemory → Prop
  | laid {after : VirtualMemory} (lays : Lays before environment (plan ++ more) after) :
      LayEffect before environment plan more (.value (), after)
  | short {first rest : List PlannedMapping} {planned : PlannedMapping} {after : VirtualMemory}
      (split : more = first ++ planned :: rest)
      (lays : Lays before environment (plan ++ first) after)
      (needed : environment.space.NeedsTable after.memory planned.granule planned.start)
      (full : ¬ TableLevel.coarse.Fits after.tables.cursor after.tables.limit) :
      LayEffect before environment plan more (.error (.map (.outOfMemory .coarse)), after)

/-- An action that ends as a mapping ends. -/
structure Performs (step : Action VirtualMemory AllocationError Unit) (id : EnvironmentId)
    (planned : PlannedMapping) : Prop where
  value : ∀ {state after : VirtualMemory} {descriptor}, state.Consistent →
    (mapPlanned id planned).effect state = (.value descriptor, after) →
      step.effect state = (.value (), after)
  error : ∀ {state after : VirtualMemory} {cause}, state.Consistent →
    (mapPlanned id planned).effect state = (.error cause, after) →
      step.effect state = (.error (.map cause), after)

variable {before after : VirtualMemory} {id : EnvironmentId} {environment : Environment}
  {plan rest : List PlannedMapping} {planned : PlannedMapping}

theorem Lays.found (lays : Lays before environment plan after) {owner : Environment}
    (found : before.environments id = some owner) : after.environments id = some owner := by
  rw [lays.tablesOnly]
  exact found

theorem Lays.liveSpaces_eq (lays : Lays before environment plan after) :
    after.liveSpaces = before.liveSpaces := by
  rw [lays.tablesOnly]
  rfl

/-- The next mapping of a plan is made, or it finds no room for a table. -/
theorem Lays.step (lays : Lays before environment plan after)
    (found : before.environments id = some environment)
    (feasible : Feasible (plan ++ planned :: rest)) :
    (∃ descriptor final, (mapPlanned id planned).effect after = (.value descriptor, final) ∧
      (environment.space.NeedsTable after.memory planned.granule planned.start →
        TableLevel.coarse.Fits after.tables.cursor after.tables.limit) ∧
      Lays before environment (plan ++ [planned]) final) ∨
    (environment.space.NeedsTable after.memory planned.granule planned.start ∧
      ¬ TableLevel.coarse.Fits after.tables.cursor after.tables.limit ∧
      (mapPlanned id planned).effect after = (.error (.outOfMemory .coarse), after)) := by
  have live := lays.found found
  have member := Consistent.mem_liveSpaces live
  have sound := lays.consistent.sound
  have accepts := lays.laidOut.accepts sound member feasible
  have ending := mapEffect_mapGranule sound member planned.granule planned.start planned.physical
    environment.domain planned.flags
  have effect := effect_mapGranule lays.consistent live planned.granule planned.start
    planned.physical planned.flags
  have later := lays.consistent.after_mapGranule id planned.granule planned.start planned.physical
    planned.flags
  rw [effect] at later
  rcases ended : (environment.space.mapGranule planned.granule planned.start planned.physical
    environment.domain planned.flags).effect after.tables with ⟨outcome, tables⟩
  rw [ended] at ending effect later
  cases ending with
  | @installed descriptor _ _ room source _ maps =>
      have installs := installs_mapGranule sound member ended
      refine .inl ⟨descriptor, { after with tables := tables }, effect, room, ?_⟩
      constructor
      · rw [lays.tablesOnly]
      · exact later
      · exact lays.laidOut.add sound member installs maps
      · intro space owned different
        have earlier := lays.untouched space owned different
        rw [← lays.liveSpaces_eq] at owned
        have next := (installs.fillsOnly sound member).untouched owned different
        exact next.trans earlier
      · intro sections
        have first : ∀ planned ∈ plan, planned.granule = .section1M := fun planned listed =>
          sections planned (List.mem_append_left _ listed)
        have last : planned.granule = .section1M :=
          sections planned (List.mem_append_right _ (List.mem_singleton_self _))
        rcases source with ⟨⟨page, -⟩, -⟩ | ⟨-, same⟩
        · exact absurd last page
        · exact same.trans (lays.source first)
  | outOfMemory _ needed full => exact .inr ⟨needed, full, effect⟩
  | refused rejects => exact absurd accepts rejects

theorem LayEffect.cons {more : List PlannedMapping}
    {ending : Outcome AllocationError Unit × VirtualMemory}
    (effect : LayEffect before environment (plan ++ [planned]) more ending) :
    LayEffect before environment plan (planned :: more) ending := by
  cases effect with
  | laid lays =>
      rw [← List.append_cons] at lays
      exact .laid lays
  | short split lays needed full =>
      rw [← List.append_cons] at lays
      rw [split]
      exact .short (List.cons_append ..).symm lays needed full

/-- Actions that perform the mappings of a plan lay the environment out, as far as there is room. -/
theorem Lays.layEffect_forM {β : Type} {step : β → Action VirtualMemory AllocationError Unit}
    {planOf : β → PlannedMapping} (performs : ∀ item, Performs (step item) id (planOf item))
    (found : before.environments id = some environment) (items : List β)
    (lays : Lays before environment plan after)
    (feasible : Feasible (plan ++ items.map planOf)) :
    LayEffect before environment plan (items.map planOf) ((items.forM step).effect after) := by
  induction items generalizing plan after with
  | nil =>
      rw [← List.append_nil plan] at lays
      exact .laid lays
  | cons item items ih =>
      rw [Action.effect_forM_cons, Action.effect_bind]
      rw [List.map_cons] at feasible ⊢
      rcases lays.step found feasible with
        ⟨descriptor, final, mapped, -, laysNext⟩ | ⟨needed, full, mapped⟩
      · rw [(performs item).value lays.consistent mapped]
        rw [List.append_cons] at feasible
        exact (ih laysNext feasible).cons
      · rw [(performs item).error lays.consistent mapped]
        exact .short rfl (by rwa [List.append_nil]) needed full

/-- If the first page of a plan finds no room for its table, nothing is done. -/
theorem Lays.effect_forM_of_full {β : Type}
    {step : β → Action VirtualMemory AllocationError Unit} {planOf : β → PlannedMapping}
    (performs : ∀ item, Performs (step item) id (planOf item))
    (found : before.environments id = some environment) {item : β} {items : List β}
    (lays : Lays before environment plan after)
    (feasible : Feasible (plan ++ (item :: items).map planOf))
    (needed : environment.space.NeedsTable after.memory (planOf item).granule (planOf item).start)
    (full : ¬ TableLevel.coarse.Fits after.tables.cursor after.tables.limit) :
    ((item :: items).forM step).effect after = (.error (.map (.outOfMemory .coarse)), after) := by
  rw [List.map_cons] at feasible
  rcases lays.step found feasible with ⟨-, -, -, room, -⟩ | ⟨-, -, mapped⟩
  · exact absurd (room needed) full
  · rw [Action.effect_forM_cons, Action.effect_bind, (performs item).error lays.consistent mapped]

end VirtualMemory

end Armv6Kernel
