import Armv6Kernel.AddressSpace.Session
import Armv6Kernel.Proofs.AddressSpace.Paging

/-!
# Translation and the history of mappings

A session is driven by requests, each of which may succeed, fail or panic.  Beside the session runs
its history, the list of the mappings that were installed.  After any run translation finds in the
tables exactly what the history says.
-/

namespace Armv6Kernel

/-- What a caller can ask of a session.  Address spaces are given by their numbers. -/
inductive SpaceRequest where
  | makeSpace
  | map (granule : Granule) (number : Nat) (start : VirtualAddress) (physical : PhysicalAddress)
      (domain : Domain) (flags : MapFlags)
  | takeBlock (bytes alignment : Word)
  deriving DecidableEq, Repr

/-- A mapping that was installed. -/
structure InstalledMapping where
  number : Nat
  granule : Granule
  start : VirtualAddress
  physical : PhysicalAddress
  deriving DecidableEq, Repr

namespace InstalledMapping

/-- The mapping is one of the given address space and lies over the address. -/
def Covers (mapping : InstalledMapping) (number : Nat) (address : VirtualAddress) : Prop :=
  mapping.number = number ∧ mapping.granule.Covers mapping.start address

/-- The mapping sends an address that it covers to `target`. -/
def Leads (mapping : InstalledMapping) (address : VirtualAddress) (target : PhysicalAddress) :
    Prop :=
  target.toNat = mapping.physical.toNat + (address.toNat - mapping.start.toNat)

end InstalledMapping

namespace SpaceSession

variable {A : Type} [TableSource A]

/-- A session and the mappings that were installed in it, oldest first. -/
abbrev Recorded (A : Type) :=
  SpaceSession A × List InstalledMapping

/-- Serves one request.  What the request leaves behind stays also if it fails or panics, and only
a mapping that was reported as installed enters the history. -/
def serve (recorded : Recorded A) (request : SpaceRequest) : Recorded A :=
  match request with
  | .makeSpace => ((makeSpace.run recorded.1).state, recorded.2)
  | .map granule number start physical domain flags =>
      match recorded.1.space? number with
      | none => recorded
      | some space =>
          let run :=
            (onTables (space.mapGranule granule start physical domain flags)).run recorded.1
          match run.outcome with
          | .value _ => (run.state, recorded.2 ++ [⟨number, granule, start, physical⟩])
          | .error _ => (run.state, recorded.2)
          | .panic _ => (run.state, recorded.2)
  | .takeBlock bytes alignment => (((takeBlock bytes alignment).run recorded.1).state, recorded.2)

/-- Serves requests one after the other, from a session without mappings. -/
def serveAll (session : SpaceSession A) (requests : List SpaceRequest) : Recorded A :=
  requests.foldl serve (session, [])

/-- What translation and the history have to say to each other. -/
structure Explains (session : SpaceSession A) (history : List InstalledMapping) : Prop where
  known : ∀ mapping ∈ history, mapping.number < session.spaces.length
  recorded : ∀ mapping ∈ history, ∀ space, session.space? mapping.number = some space →
    ∀ address, mapping.granule.Covers mapping.start address →
      ∃ target, space.target session.memory address = some target ∧
        mapping.Leads address target
  explained : ∀ number space, session.space? number = some space → ∀ address target,
    space.target session.memory address = some target →
      ∃ mapping ∈ history, mapping.Covers number address
  apart : history.Pairwise fun first second =>
    ∀ number address, ¬ (first.Covers number address ∧ second.Covers number address)

/-- The invariant of a session with its history. -/
structure Faithful [CursorSource A] (low : Nat) (session : SpaceSession A)
    (history : List InstalledMapping) : Prop where
  sound : session.tables.Sound low {space | space ∈ session.spaces}
  distinct : session.spaces.Nodup
  explains : session.Explains history

section Steps

variable {session : SpaceSession A} {history : List InstalledMapping}

omit [TableSource A] in
theorem mem_of_space? {number : Nat} {space : AddressSpace}
    (found : session.space? number = some space) : space ∈ session.spaces :=
  List.mem_of_getElem? found

omit [TableSource A] in
/-- A change of the tables that moves no target keeps the history. -/
theorem Explains.of_same_targets (explains : session.Explains history) {tables : TableMemory A}
    (same : ∀ space ∈ session.spaces, ∀ address,
      space.target tables.memory address = space.target session.memory address) :
    ({ session with tables := tables } : SpaceSession A).Explains history where
  known := explains.known
  recorded mapping member space found address covers := by
    have target := explains.recorded mapping member space found address covers
    rw [← same space (mem_of_space? found)] at target
    exact target
  explained number space found address target leads := by
    have before := same space (mem_of_space? found) address
    exact explains.explained number space found address target (before.symm.trans leads)
  apart := explains.apart

omit [TableSource A] in
/-- A fresh address space maps nothing, and nothing is recorded for it. -/
theorem Explains.add_space (explains : session.Explains history) {tables : TableMemory A}
    {space : AddressSpace}
    (same : ∀ other ∈ session.spaces, ∀ address,
      other.target tables.memory address = other.target session.memory address)
    (empty : ∀ address, space.target tables.memory address = none) :
    (⟨tables, session.spaces ++ [space]⟩ : SpaceSession A).Explains history where
  known mapping member := by
    have below := explains.known mapping member
    rw [List.length_append]
    omega
  recorded mapping member other found address covers := by
    have below := explains.known mapping member
    have before : session.space? mapping.number = some other :=
      (List.getElem?_append_left below).symm.trans found
    exact (explains.of_same_targets same).recorded mapping member other before address covers
  explained number other found address target leads := by
    by_cases old : number < session.spaces.length
    · have before : session.space? number = some other :=
        (List.getElem?_append_left old).symm.trans found
      exact (explains.of_same_targets same).explained number other before address target leads
    · have fresh : other ∈ [space] := by
        rw [space?, List.getElem?_append_right (Nat.le_of_not_lt old)] at found
        exact List.mem_of_getElem? found
      rw [List.mem_singleton.mp fresh] at leads
      exact absurd ((empty address).symm.trans leads) (Option.some_ne_none _).symm
  apart := explains.apart

variable [CursorSource A] {low : Nat}

theorem Faithful.of_source (faithful : Faithful low session history) {source : A}
    (sameLimit : CursorSource.limit source = CursorSource.limit session.source)
    (forward : session.tables.cursor ≤ (CursorSource.cursor source).toNat)
    (inside : (CursorSource.cursor source).toNat ≤ session.tables.limit) :
    Faithful low { session with tables := { session.tables with source := source } } history where
  sound := faithful.sound.of_source sameLimit forward inside
  distinct := faithful.distinct
  explains := faithful.explains.of_same_targets fun _ _ _ => rfl

theorem Faithful.after_takeBlock (faithful : Faithful low session history)
    (bytes alignment : Word) :
    Faithful low ((takeBlock bytes alignment).run session).state history := by
  have effect : ((takeBlock bytes alignment).run session).state =
      { session with tables := { session.tables with
        source := ((TableSource.allocate bytes alignment).effect session.source).2 } } := rfl
  rw [effect]
  rcases CursorSource.allocate_cases bytes alignment session.source with
    ⟨start, stop, allocated, above, taken, below⟩ | ⟨-, unchanged⟩
  · rw [allocated]
    refine faithful.of_source (CursorSource.limit_moveTo _ _) ?_ ?_
    · rw [CursorSource.cursor_moveTo]
      exact Nat.le_trans above (Nat.le_trans (Nat.le_add_right _ _) taken)
    · rw [CursorSource.cursor_moveTo]
      exact below
  · rw [unchanged]
    exact faithful

theorem effect_makeSpace {spaces : Set AddressSpace} (sound : session.tables.Sound low spaces) :
    (makeSpace : Action (SpaceSession A) MapError AddressSpace).effect session =
      if TableLevel.first.Fits session.tables.cursor session.tables.limit then
        (.value session.tables.nextSpace,
          ⟨session.tables.afterRoot, session.spaces ++ [session.tables.nextSpace]⟩)
      else (.error (.outOfMemory .first), session) := by
  unfold makeSpace
  rw [Action.effect_bind, onTables, Action.effect_onPart, TableMemory.effect_allocateRoot sound]
  by_cases fits : TableLevel.first.Fits session.tables.cursor session.tables.limit
  · rw [if_pos fits, if_pos fits]
    rfl
  · rw [if_neg fits, if_neg fits]

theorem Faithful.after_makeSpace (faithful : Faithful low session history) :
    Faithful low (makeSpace.run session).state history := by
  rw [← Action.effect_snd, effect_makeSpace faithful.sound]
  by_cases fits : TableLevel.first.Fits session.tables.cursor session.tables.limit
  · rw [if_pos fits]
    have fresh := faithful.sound.nextSpace_not_mem fits
    constructor
    · refine (faithful.sound.afterRoot fits).restrict ?_
      intro space member
      rcases List.mem_append.mp member with old | new
      · exact .inr old
      · exact .inl (List.mem_singleton.mp new)
    · refine List.nodup_append.mpr ⟨faithful.distinct, List.pairwise_singleton _ _, ?_⟩
      intro old member new newMember equal
      rw [List.mem_singleton.mp newMember] at equal
      exact fresh (equal ▸ member)
    · exact faithful.explains.add_space
        (fun other member => faithful.sound.target_afterRoot fits member)
        (TableMemory.target_nextSpace session.tables)
  · rw [if_neg fits]
    exact faithful

end Steps

section Mapping

variable {session : SpaceSession A} {history : List InstalledMapping} {number : Nat}
  {space : AddressSpace} {granule : Granule} {start : VirtualAddress} {physical : PhysicalAddress}

omit [TableSource A] in
theorem space?_inj (distinct : session.spaces.Nodup) {other : Nat}
    (found : session.space? number = some space) (again : session.space? other = some space) :
    other = number := by
  have below : other < session.spaces.length := (List.getElem?_eq_some_iff.mp again).1
  exact (List.getElem?_inj below distinct).mp (again.trans found.symm)

omit [TableSource A] in
theorem Explains.target_eq_some_iff (explains : session.Explains history)
    (found : session.space? number = some space) (address : VirtualAddress)
    (target : PhysicalAddress) :
    space.target session.memory address = some target ↔
      ∃ mapping ∈ history, mapping.Covers number address ∧ mapping.Leads address target := by
  have recorded : ∀ mapping ∈ history, mapping.Covers number address →
      ∃ target, space.target session.memory address = some target ∧
        mapping.Leads address target := by
    rintro mapping member ⟨rfl, covers⟩
    exact explains.recorded mapping member space found address covers
  constructor
  · intro leads
    obtain ⟨mapping, member, covers⟩ := explains.explained number space found address target leads
    obtain ⟨recordedTarget, before, recordedLeads⟩ := recorded mapping member covers
    have same : recordedTarget = target := Option.some.inj (before.symm.trans leads)
    rw [same] at recordedLeads
    exact ⟨mapping, member, covers, recordedLeads⟩
  · rintro ⟨mapping, member, covers, leads⟩
    obtain ⟨recordedTarget, before, recordedLeads⟩ := recorded mapping member covers
    have same : recordedTarget = target := Address.eq_of_toNat_eq (recordedLeads.trans leads.symm)
    rw [← same]
    exact before

omit [TableSource A] in
/-- An installed mapping is the only one that covers its addresses, and the history goes on to
explain all others. -/
theorem Explains.add_mapping (explains : session.Explains history)
    (distinct : session.spaces.Nodup) (found : session.space? number = some space)
    {tables : TableMemory A}
    (maps : tables.Maps session.tables {other | other ∈ session.spaces} space granule start
      physical) :
    ({ session with tables := tables } : SpaceSession A).Explains
      (history ++ [⟨number, granule, start, physical⟩]) := by
  constructor
  · intro mapping member
    rcases List.mem_append.mp member with old | new
    · exact explains.known mapping old
    · rw [List.mem_singleton.mp new]
      exact (List.getElem?_eq_some_iff.mp found).1
  · intro mapping member other otherFound address covers
    rcases List.mem_append.mp member with old | new
    · obtain ⟨target, before, leads⟩ :=
        explains.recorded mapping old other otherFound address covers
      refine ⟨target, ?_, leads⟩
      rw [← before]
      refine maps.outside other (mem_of_space? otherFound) address ?_
      rintro ⟨rfl, here⟩
      exact absurd ((maps.free address here).symm.trans before) (Option.some_ne_none _).symm
    · rw [List.mem_singleton.mp new] at otherFound covers ⊢
      have same : space = other := Option.some.inj (found.symm.trans otherFound)
      rw [← same]
      exact maps.inside address covers
  · intro otherNumber other otherFound address target leads
    by_cases here : other = space ∧ granule.Covers start address
    · obtain ⟨rfl, covers⟩ := here
      refine ⟨_, List.mem_append_right history (List.mem_singleton_self _), ?_, covers⟩
      exact space?_inj distinct otherFound found
    · have before := (maps.outside other (mem_of_space? otherFound) address here).symm.trans leads
      obtain ⟨mapping, old, covers⟩ :=
        explains.explained otherNumber other otherFound address target before
      exact ⟨mapping, List.mem_append_left _ old, covers⟩
  · refine List.pairwise_append.mpr ⟨explains.apart, List.pairwise_singleton _ _, ?_⟩
    intro mapping old last new otherNumber address ⟨covers, lastCovers⟩
    rw [List.mem_singleton.mp new] at lastCovers
    obtain ⟨same, here⟩ := lastCovers
    have oldFound : session.space? mapping.number = some space := by
      rw [covers.1, ← same]
      exact found
    obtain ⟨target, before, -⟩ := explains.recorded mapping old space oldFound address covers.2
    exact absurd ((maps.free address here).symm.trans before) (Option.some_ne_none _).symm

variable [CursorSource A] {low : Nat}

/-- Whatever a map operation does, the history it leaves explains the tables it leaves. -/
theorem Faithful.after_map (faithful : Faithful low session history) (granule : Granule)
    (number : Nat) (start : VirtualAddress) (physical : PhysicalAddress) (domain : Domain)
    (flags : MapFlags) :
    let left := serve (session, history) (.map granule number start physical domain flags)
    Faithful low left.1 left.2 := by
  simp only [serve]
  rcases found : session.space? number with _ | space
  · exact faithful
  · have effect := mapEffect_mapGranule faithful.sound (mem_of_space? found) granule
      start physical domain flags
    have outcome : ((onTables (space.mapGranule granule start physical domain flags)).run
        session).outcome =
          ((space.mapGranule granule start physical domain flags).effect session.tables).1 := rfl
    have state : ((onTables (space.mapGranule granule start physical domain flags)).run
        session).state = { session with tables :=
          ((space.mapGranule granule start physical domain flags).effect session.tables).2 } := rfl
    simp only [outcome, state]
    rcases ended : (space.mapGranule granule start physical domain flags).effect session.tables
      with ⟨result, after⟩
    rw [ended] at effect
    cases effect with
    | installed accepts room source sound maps =>
        exact ⟨sound, faithful.distinct,
          faithful.explains.add_mapping faithful.distinct found maps⟩
    | outOfMemory accepts needed full => exact faithful
    | refused rejects => exact faithful

end Mapping

/-! ## Runs -/

section Runs

variable [CursorSource A] {low : Nat} {session : SpaceSession A}
  {history : List InstalledMapping}

theorem Faithful.after_serve (faithful : Faithful low session history) (request : SpaceRequest) :
    Faithful low (serve (session, history) request).1 (serve (session, history) request).2 := by
  cases request with
  | makeSpace => exact faithful.after_makeSpace
  | map granule number start physical domain flags =>
      exact faithful.after_map granule number start physical domain flags
  | takeBlock bytes alignment => exact faithful.after_takeBlock bytes alignment

theorem Faithful.after_all (faithful : Faithful low session history)
    (requests : List SpaceRequest) :
    Faithful low (requests.foldl serve (session, history)).1
      (requests.foldl serve (session, history)).2 := by
  induction requests generalizing session history with
  | nil => exact faithful
  | cons request rest ih => exact ih (faithful.after_serve request)

theorem faithful_start (memory : PhysicalMemory) (source : A)
    (covers : memory.Covers (CursorSource.cursor source).toNat (CursorSource.limit source).toNat)
    (below : (CursorSource.cursor source).toNat ≤ (CursorSource.limit source).toNat) :
    Faithful (CursorSource.cursor source).toNat (start memory source) [] := by
  constructor
  · exact
      { covers := covers
        above := Nat.le_refl _
        below := below
        forest :=
          (Forest.empty memory _ _).restrict fun space member => absurd member List.not_mem_nil }
  · exact List.nodup_nil
  · constructor
    · intro mapping member
      cases member
    · intro mapping member
      cases member
    · intro number space found
      cases found
    · exact .nil

/-- Translation in a session says exactly what the history says, and no two entries of the history
speak about the same address of the same space. -/
def TranslatesHistory (session : SpaceSession A) (history : List InstalledMapping) : Prop :=
  ∀ number space, session.space? number = some space → ∀ address,
    (∃ answer, space.translate session.memory address = .ok answer ∧
      ∀ target, answer = some target ↔
        ∃ mapping ∈ history, mapping.Covers number address ∧ mapping.Leads address target) ∧
    ∀ (first second : Nat) (mapping other : InstalledMapping), history[first]? = some mapping →
      history[second]? = some other → mapping.Covers number address →
      other.Covers number address → first = second

theorem Faithful.translatesHistory (faithful : Faithful low session history) :
    session.TranslatesHistory history := by
  intro number space found address
  constructor
  · exact ⟨_, faithful.sound.translate_eq (mem_of_space? found) address,
      faithful.explains.target_eq_some_iff found address⟩
  · intro first second mapping other firstFound secondFound covers otherCovers
    have apart := List.pairwise_iff_getElem.mp faithful.explains.apart
    obtain ⟨firstBelow, rfl⟩ := List.getElem?_eq_some_iff.mp firstFound
    obtain ⟨secondBelow, rfl⟩ := List.getElem?_eq_some_iff.mp secondFound
    rcases Nat.lt_trichotomy first second with earlier | same | later
    · exact absurd ⟨covers, otherCovers⟩ (apart first second _ _ earlier number address)
    · exact same
    · exact absurd ⟨otherCovers, covers⟩ (apart second first _ _ later number address)

end Runs

/-! ## Memory that cannot be reached -/

section Unreachable

variable {memory : PhysicalMemory} {recorded : Recorded A}

theorem memory_takeTable (level : TableLevel) (tables : TableMemory A) :
    ((TableMemory.takeTable level).effect tables).2.memory = tables.memory := by
  unfold TableMemory.takeTable
  simp only [Action.effect_bind, Action.effect_widen, Action.effect_onPart]
  rcases (TableSource.allocate (BitVec.ofNat 32 level.bytes) (BitVec.ofNat 32 level.bytes)).effect
    tables.source with ⟨block | impossible | cause, source⟩
  · cases block <;> rfl
  · exact impossible.elim
  · rfl

theorem allocateRoot_of_unreachable
    (unreachable : ∀ address, memory.checkRange TableLevel.first.bytes address ≠ .ok ())
    {tables : TableMemory A} (same : tables.memory = memory) :
    (∀ space, (AddressSpace.allocateRoot.effect tables).1 ≠ .value space) ∧
      (AddressSpace.allocateRoot.effect tables).2.memory = memory := by
  have kept := memory_takeTable .first tables
  unfold AddressSpace.allocateRoot
  rw [Action.effect_bind]
  rcases ended : (TableMemory.takeTable .first).effect tables with ⟨root | cause | cause, middle⟩
  · rw [ended] at kept
    simp only [Action.effect_bind]
    rcases AddressSpace.ofRoot root with cause | space
    · exact ⟨fun space impossible => (by cases impossible), kept.trans same⟩
    · rcases checked : memory.checkRange TableLevel.first.bytes space.root with cause | passed
      · have stopped : space.reachFirstLevel middle.memory = .error cause := by
          rw [AddressSpace.reachFirstLevel, kept, same, checked]
          rfl
        simp only [Action.effect_ofExcept_ok, Action.effect_get, stopped,
          Action.effect_ofExcept_error]
        exact ⟨fun space impossible => (by cases impossible), kept.trans same⟩
      · exact absurd checked (unreachable _)
  · rw [ended] at kept
    exact ⟨fun space impossible => (by cases impossible), kept.trans same⟩
  · rw [ended] at kept
    exact ⟨fun space impossible => (by cases impossible), kept.trans same⟩

/-- If no first-level table lies in memory, there never is an address space. -/
theorem serve_of_unreachable
    (unreachable : ∀ address, memory.checkRange TableLevel.first.bytes address ≠ .ok ())
    (barren : recorded.1.spaces = [] ∧ recorded.1.memory = memory) (request : SpaceRequest) :
    (serve recorded request).1.spaces = [] ∧ (serve recorded request).1.memory = memory := by
  cases request with
  | makeSpace =>
      have refused := allocateRoot_of_unreachable unreachable barren.2
      have effect : (serve recorded .makeSpace).1 =
          ((makeSpace : Action (SpaceSession A) MapError AddressSpace).effect recorded.1).2 := rfl
      rw [effect, makeSpace, Action.effect_bind, onTables, Action.effect_onPart]
      rcases ended : AddressSpace.allocateRoot.effect recorded.1.tables with
        ⟨space | cause | cause, tables⟩
      · rw [ended] at refused
        exact absurd rfl (refused.1 space)
      · rw [ended] at refused
        exact ⟨barren.1, refused.2⟩
      · rw [ended] at refused
        exact ⟨barren.1, refused.2⟩
  | map granule number start physical domain flags =>
      have missing : recorded.1.space? number = none := by
        rw [space?, barren.1]
        rfl
      simp only [serve, missing]
      exact barren
  | takeBlock bytes alignment => exact barren

theorem serveAll_of_unreachable (source : A)
    (unreachable : ∀ address, memory.checkRange TableLevel.first.bytes address ≠ .ok ())
    (requests : List SpaceRequest) :
    ((start memory source).serveAll requests).1.spaces = [] := by
  have stays : ∀ (recorded : Recorded A),
      recorded.1.spaces = [] ∧ recorded.1.memory = memory →
        (requests.foldl serve recorded).1.spaces = [] := by
    induction requests with
    | nil => exact fun recorded barren => barren.1
    | cons request rest ih =>
        exact fun recorded barren => ih _ (serve_of_unreachable unreachable barren request)
  exact stays _ ⟨rfl, rfl⟩

end Unreachable

theorem checkRange_of_windowEnd_error {base length : Word} {memory : PhysicalMemory}
    (zeroed : PhysicalMemory.simulated base length = .ok memory)
    (beyond : ¬ base.toNat + length.toNat < 0x100000000) (bytes : Nat)
    (address : PhysicalAddress) :
    memory.checkRange bytes address ≠ .ok () :=
  PhysicalMemory.checkRange_ne_ok_of_window (PhysicalMemory.extent_of_simulated zeroed) beyond
    bytes address

/-- Translation equals the history of mappings in every session over zeroed memory, whether its
tables come from an arena over all of the memory or from a heap over a part of it. -/
theorem translatesHistory_serveAll {base length : Word} {memory : PhysicalMemory}
    (zeroed : PhysicalMemory.simulated base length = .ok memory) :
    (∀ arena, Arena.ofRange base length = .ok arena → ∀ requests,
      let reached := (start memory arena).serveAll requests
      reached.1.TranslatesHistory reached.2) ∧
    ∀ first last heap, BumpHeap.create first last = .ok heap → base.toNat ≤ first.toNat →
      last.toNat ≤ base.toNat + length.toNat → ∀ requests,
        let reached := (start memory heap).serveAll requests
        reached.1.TranslatesHistory reached.2 := by
  constructor
  · intro arena ranged requests
    obtain ⟨stop, ends, rfl⟩ := Arena.ofRange_eq_ok ranged
    have bounds := PhysicalMemory.windowEnd_eq_ok ends
    have ordered : base.toNat ≤ stop.toNat := by omega
    have covers := PhysicalMemory.covers_of_simulated zeroed ends (Nat.le_refl _) (Nat.le_refl _)
    have faithful := faithful_start memory (⟨⟨base⟩, base, stop.word⟩ : Arena) covers ordered
    exact (faithful.after_all requests).translatesHistory
  · intro first last heap created above below requests
    obtain ⟨ordered, rfl⟩ := BumpHeap.create_eq_ok created
    by_cases inside : base.toNat + length.toNat < 0x100000000
    · have ends : PhysicalMemory.windowEnd base length = .ok ⟨base + length⟩ := if_pos inside
      have bounds := PhysicalMemory.windowEnd_eq_ok ends
      have covers := PhysicalMemory.covers_of_simulated zeroed ends above
        (Nat.le_trans below (Nat.le_of_eq bounds.1.symm))
      have faithful := faithful_start memory (⟨first, first, first, last⟩ : BumpHeap) covers
        ordered
      exact (faithful.after_all requests).translatesHistory
    · -- The end of the memory is not an address, so that no access to it is in bounds.
      have barren := serveAll_of_unreachable (⟨first, first, first, last⟩ : BumpHeap)
        (checkRange_of_windowEnd_error zeroed inside _) requests
      intro reached number space found
      rw [space?, barren] at found
      cases found

/-- A run in which one page is refused because it lies under a section. -/
theorem translatesHistory_serveAll_refusedPage :
    let memory : PhysicalMemory := ⟨.window 0x8000 0x10000, fun _ => 0⟩
    let arena : Arena := ⟨⟨0x8000⟩, 0x8000, 0x18000⟩
    let heap : BumpHeap := ⟨⟨0x9008⟩, ⟨0x9008⟩, ⟨0x9008⟩, ⟨0x18000⟩⟩
    let requests : List SpaceRequest :=
      [.makeSpace, .map .section1M 0 ⟨0x100000⟩ ⟨0x300000⟩ ⟨0⟩ .none,
        .map .page4K 0 ⟨0x101000⟩ ⟨0x1000⟩ ⟨0⟩ .none,
        .map .page64K 0 ⟨0x210000⟩ ⟨0x10000⟩ ⟨0⟩ .none]
    let history : List InstalledMapping :=
      [⟨0, .section1M, ⟨0x100000⟩, ⟨0x300000⟩⟩, ⟨0, .page64K, ⟨0x210000⟩, ⟨0x10000⟩⟩]
    let inArena := (start memory arena).serveAll requests
    let inHeap := (start memory heap).serveAll requests
    (PhysicalMemory.simulated 0x8000 0x10000 = .ok memory ∧
      Arena.ofRange 0x8000 0x10000 = .ok arena ∧ BumpHeap.create ⟨0x9008⟩ ⟨0x18000⟩ = .ok heap) ∧
    (inArena.2 = history ∧ inArena.1.TranslatesHistory inArena.2) ∧
      inHeap.2 = history ∧ inHeap.1.TranslatesHistory inHeap.2 := by
  have zeroed : PhysicalMemory.simulated 0x8000 0x10000 =
      .ok ⟨.window 0x8000 0x10000, fun _ => 0⟩ := rfl
  have follows := translatesHistory_serveAll zeroed
  refine ⟨⟨zeroed, rfl, rfl⟩, ⟨by decide +kernel, ?_⟩, by decide +kernel, ?_⟩
  · exact follows.1 _ rfl _
  · exact follows.2 ⟨0x9008⟩ ⟨0x18000⟩ _ rfl (by decide) (by decide) _

end SpaceSession

end Armv6Kernel
