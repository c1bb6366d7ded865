import Armv6Kernel.Proofs.AddressSpace.Filling
import Armv6Kernel.Proofs.AddressSpace.History

/-!
# Transcripts of sessions

A transcript lists the requests to a session with their outcomes and with the source of tables
before and after each of them.  Statements about a whole run are statements about its transcript.
They are proved exchange by exchange, from the few things that an exchange can do to a session.
-/

namespace Armv6Kernel

/-- What a request ends with if it succeeds. -/
abbrev SpaceRequest.Answer : SpaceRequest → Type
  | .makeSpace => AddressSpace
  | .map granule _ _ _ _ _ => Descriptor (.mapping granule)
  | .takeBlock _ _ => Option PhysicalAddress

/-- A request that has been served. -/
structure Exchange (A : Type) where
  request : SpaceRequest
  outcome : Outcome MapError request.Answer
  /-- The source of tables before the request. -/
  before : A
  after : A

/-- A session with the exchanges that led to it, oldest first. -/
structure Transcript (A : Type) where
  session : SpaceSession A
  exchanges : List (Exchange A)

namespace SpaceSession

variable {A : Type} [TableSource A]

/-- What a request runs, unless it names an address space that there is not. -/
def action? (session : SpaceSession A) :
    (request : SpaceRequest) → Option (Action (SpaceSession A) MapError request.Answer)
  | .makeSpace => some makeSpace
  | .map granule number start physical domain flags =>
      (session.space? number).map fun space =>
        onTables (space.mapGranule granule start physical domain flags)
  | .takeBlock bytes alignment => some (takeBlock bytes alignment).widen

end SpaceSession

namespace Transcript

variable {A : Type} [TableSource A]

def next (transcript : Transcript A) (request : SpaceRequest) : Transcript A :=
  match transcript.session.action? request with
  | none => transcript
  | some action =>
      let run := action.run transcript.session
      ⟨run.state, transcript.exchanges ++
        [⟨request, run.outcome, transcript.session.source, run.state.source⟩]⟩

def nextAll (transcript : Transcript A) (requests : List SpaceRequest) : Transcript A :=
  requests.foldl next transcript

end Transcript

namespace SpaceSession

variable {A : Type} [TableSource A]

/-- The transcript of a run that begins with the given session. -/
def transcript (session : SpaceSession A) (requests : List SpaceRequest) : Transcript A :=
  Transcript.nextAll ⟨session, []⟩ requests

/-- A transcript is a record of serving its requests. -/
theorem session_next (transcript : Transcript A) (history : List InstalledMapping)
    (request : SpaceRequest) :
    (transcript.next request).session = (serve (transcript.session, history) request).1 := by
  cases request with
  | makeSpace => rfl
  | map granule number start physical domain flags =>
      simp only [Transcript.next, action?, serve]
      rcases transcript.session.space? number with _ | space
      · rfl
      · simp only [Option.map_some]
        split <;> rfl
  | takeBlock bytes alignment => exact Action.effect_mapError_snd _ _ transcript.session

theorem exchange_mem_next {transcript : Transcript A} {request : SpaceRequest}
    {exchange : Exchange A} (member : exchange ∈ (transcript.next request).exchanges) :
    exchange ∈ transcript.exchanges ∨
      (transcript.session.action? request).isSome = true ∧ exchange.request = request := by
  unfold Transcript.next at member
  rcases callable : transcript.session.action? request with _ | action
  · rw [callable] at member
    exact .inl member
  · rw [callable] at member
    rcases List.mem_append.mp member with old | new
    · exact .inl old
    · rw [List.mem_singleton.mp new]
      exact .inr ⟨rfl, rfl⟩

section Settled

variable [CursorSource A]

/-- Some history explains the session. -/
def Settled (low : Nat) (session : SpaceSession A) : Prop :=
  ∃ history, Faithful low session history

variable {low : Nat} {session : SpaceSession A} {transcript : Transcript A}

theorem Settled.sound (settled : Settled low session) :
    session.tables.Sound low {space | space ∈ session.spaces} := by
  obtain ⟨history, faithful⟩ := settled
  exact faithful.sound

theorem Settled.distinct (settled : Settled low session) : session.spaces.Nodup := by
  obtain ⟨history, faithful⟩ := settled
  exact faithful.distinct

theorem Settled.next (settled : Settled low transcript.session) (request : SpaceRequest) :
    Settled low (transcript.next request).session := by
  obtain ⟨history, faithful⟩ := settled
  rw [session_next transcript history request]
  exact ⟨_, faithful.after_serve request⟩

/-! ## What an exchange does -/

/-- The exchanges that a settled session can take part in, each with the session that it leaves. -/
inductive ExchangeEffect (session : SpaceSession A) : Exchange A → SpaceSession A → Prop
  | made (room : TableLevel.first.Fits session.tables.cursor session.tables.limit) :
      ExchangeEffect session
        ⟨.makeSpace, .value session.tables.nextSpace, session.source,
          session.tables.afterRoot.source⟩
        ⟨session.tables.afterRoot, session.spaces ++ [session.tables.nextSpace]⟩
  | mapped {granule : Granule} {number : Nat} {space : AddressSpace} {start : VirtualAddress}
      {physical : PhysicalAddress} {domain : Domain} {flags : MapFlags}
      {descriptor : Descriptor (.mapping granule)} {after : TableMemory A}
      (found : session.space? number = some space)
      (installs : Installs session.tables space start physical domain flags descriptor after) :
      ExchangeEffect session
        ⟨.map granule number start physical domain flags, .value descriptor, session.source,
          after.source⟩
        { session with tables := after }
  | handed {bytes alignment start stop : Word} (above : session.tables.cursor ≤ start.toNat)
      (taken : start.toNat + bytes.toNat ≤ stop.toNat) :
      ExchangeEffect session
        ⟨.takeBlock bytes alignment, .value (some ⟨start⟩), session.source,
          CursorSource.moveTo stop session.source⟩
        { session with tables := { session.tables with
          source := CursorSource.moveTo stop session.source } }
  | full {bytes alignment : Word} :
      ExchangeEffect session
        ⟨.takeBlock bytes alignment, .value none, session.source, session.source⟩ session
  | failed {request : SpaceRequest} (cause : MapError) :
      ExchangeEffect session ⟨request, .error cause, session.source, session.source⟩ session
  | panicked {request : SpaceRequest} (cause : Panic) :
      ExchangeEffect session ⟨request, .panic cause, session.source, session.source⟩ session

theorem exchangeEffect_makeSpace (settled : Settled low session) :
    let run := (makeSpace : Action (SpaceSession A) MapError AddressSpace).run session
    ExchangeEffect session ⟨.makeSpace, run.outcome, session.source, run.state.source⟩
      run.state := by
  intro run
  have effect := effect_makeSpace settled.sound
  have outcome : run.outcome = (makeSpace.effect session).1 := rfl
  have state : run.state = (makeSpace.effect session).2 := rfl
  rw [outcome, state, effect]
  by_cases room : TableLevel.first.Fits session.tables.cursor session.tables.limit
  · rw [if_pos room]
    exact .made room
  · rw [if_neg room]
    exact .failed _

theorem exchangeEffect_map (settled : Settled low session) {number : Nat} {space : AddressSpace}
    (found : session.space? number = some space) (granule : Granule) (start : VirtualAddress)
    (physical : PhysicalAddress) (domain : Domain) (flags : MapFlags) :
    let run := (onTables (space.mapGranule granule start physical domain flags)).run session
    ExchangeEffect session
      ⟨.map granule number start physical domain flags, run.outcome, session.source,
        run.state.source⟩ run.state := by
  intro run
  have member : space ∈ {space | space ∈ session.spaces} := mem_of_space? found
  have ending := mapEffect_mapGranule settled.sound member granule start physical domain flags
  have outcome : run.outcome =
      ((space.mapGranule granule start physical domain flags).effect session.tables).1 := rfl
  have state : run.state = { session with tables :=
      ((space.mapGranule granule start physical domain flags).effect session.tables).2 } := rfl
  rw [outcome, state]
  rcases ended : (space.mapGranule granule start physical domain flags).effect session.tables
    with ⟨result, after⟩
  rw [ended] at ending
  cases ending with
  | installed accepts room source sound maps =>
      exact .mapped found (installs_mapGranule settled.sound member ended)
  | outOfMemory accepts needed full => exact .failed _
  | refused rejects => exact .panicked _

theorem exchangeEffect_takeBlock (session : SpaceSession A) (bytes alignment : Word) :
    let run := ((takeBlock bytes alignment).widen : Action _ MapError _).run session
    ExchangeEffect session
      ⟨.takeBlock bytes alignment, run.outcome, session.source, run.state.source⟩ run.state := by
  intro run
  have outcome : run.outcome =
      (((takeBlock bytes alignment).widen : Action _ MapError _).effect session).1 := rfl
  have state : run.state =
      (((takeBlock bytes alignment).widen : Action _ MapError _).effect session).2 := rfl
  rw [outcome, state, Action.effect_widen, takeBlock, onTables, Action.effect_onPart,
    Action.effect_onPart]
  rcases CursorSource.allocate_cases bytes alignment session.tables.source with
    ⟨start, stop, allocated, above, taken, below⟩ | ⟨refused, unchanged⟩
  · rw [allocated]
    exact .handed above taken
  · rcases ended : (TableSource.allocate bytes alignment).effect session.tables.source with
      ⟨block | impossible | cause, source⟩
    · rw [ended] at refused unchanged
      cases unchanged
      cases block with
      | none => exact .full
      | some address => exact absurd rfl (refused address)
    · exact impossible.elim
    · rw [ended] at unchanged
      cases unchanged
      exact .panicked cause

/-- A request either is no call at all, since it names no address space, or it is an exchange. -/
theorem Settled.exchangeEffect (settled : Settled low transcript.session) (request : SpaceRequest) :
    transcript.next request = transcript ∨
      ∃ exchange after, transcript.session.ExchangeEffect exchange after ∧
        transcript.next request = ⟨after, transcript.exchanges ++ [exchange]⟩ := by
  cases request with
  | makeSpace => exact .inr ⟨_, _, exchangeEffect_makeSpace settled, rfl⟩
  | map granule number start physical domain flags =>
      rcases found : transcript.session.space? number with _ | space
      · left
        simp only [Transcript.next, action?, found, Option.map_none]
      · right
        refine ⟨_, _, exchangeEffect_map settled found granule start physical domain flags, ?_⟩
        simp only [Transcript.next, action?, found, Option.map_some]
  | takeBlock bytes alignment => exact .inr ⟨_, _, exchangeEffect_takeBlock _ _ _, rfl⟩

theorem ExchangeEffect.keeps {exchange : Exchange A} {after : SpaceSession A}
    (effect : session.ExchangeEffect exchange after) (settled : Settled low session) :
    Keeps after.memory session.memory {space | space ∈ session.spaces} := by
  cases effect with
  | made room =>
      apply keeps_of_untouched
      intro space member
      exact settled.sound.forest.untouched_of_agree (TableMemory.agree_afterRoot room) member
  | mapped found installs => exact (installs.fillsOnly settled.sound (mem_of_space? found)).keeps
  | _ => exact .refl _ _

theorem ExchangeEffect.space?_eq {exchange : Exchange A} {after : SpaceSession A}
    (effect : session.ExchangeEffect exchange after) {number : Nat} {space : AddressSpace}
    (found : session.space? number = some space) : after.space? number = some space := by
  cases effect with
  | made room =>
      have below : number < session.spaces.length := (List.getElem?_eq_some_iff.mp found).1
      exact (List.getElem?_append_left below).trans found
  | _ => exact found

/-- What every exchange keeps holds at the end of a run. -/
theorem Settled.nextAll (settled : Settled low transcript.session)
    {motive : Transcript A → Prop} (initial : motive transcript)
    (step : ∀ {session exchanges exchange after}, Settled low session → Settled low after →
      session.ExchangeEffect exchange after → motive ⟨session, exchanges⟩ →
        motive ⟨after, exchanges ++ [exchange]⟩)
    (requests : List SpaceRequest) :
    Settled low (transcript.nextAll requests).session ∧ motive (transcript.nextAll requests) := by
  induction requests generalizing transcript with
  | nil => exact ⟨settled, initial⟩
  | cons request rest ih =>
      have settledNext := settled.next request
      refine ih settledNext ?_
      rcases settled.exchangeEffect request with same | ⟨exchange, after, effect, ends⟩
      · rw [same]
        exact initial
      · rw [ends] at settledNext ⊢
        exact step settled settledNext effect initial

end Settled

/-! ## Where runs begin -/

section Beginning

variable {memory : PhysicalMemory} {source : A}

/-- Without address spaces nothing is ever mapped. -/
def Barren (transcript : Transcript A) : Prop :=
  transcript.session.spaces = [] ∧
    ∀ exchange ∈ transcript.exchanges, ∀ granule number start physical domain flags,
      exchange.request ≠ .map granule number start physical domain flags

theorem barren_transcript (source : A)
    (unreachable : ∀ address, memory.checkRange TableLevel.first.bytes address ≠ .ok ())
    (requests : List SpaceRequest) : Barren ((start memory source).transcript requests) := by
  have stays : ∀ transcript : Transcript A, Barren transcript →
      transcript.session.memory = memory → Barren (transcript.nextAll requests) := by
    induction requests with
    | nil => exact fun transcript barren _ => barren
    | cons request rest ih =>
        intro transcript barren same
        have blank : (transcript.session, ([] : List InstalledMapping)).1.spaces = [] ∧
            (transcript.session, ([] : List InstalledMapping)).1.memory = memory :=
          ⟨barren.1, same⟩
        have served := serve_of_unreachable unreachable blank request
        rw [← session_next] at served
        refine ih _ ⟨served.1, ?_⟩ served.2
        intro exchange member granule number start physical domain flags mapped
        rcases exchange_mem_next member with old | ⟨callable, new⟩
        · exact barren.2 exchange old granule number start physical domain flags mapped
        · rw [← new, mapped, action?, Option.isSome_map, space?, barren.1] at callable
          cases callable
  refine stays _ ⟨rfl, ?_⟩ rfl
  intro exchange member
  cases member

variable [CursorSource A]

/-- The range of the source lies in memory, or else memory has no room for any first-level table. -/
def Begins (low : Nat) (memory : PhysicalMemory) (source : A) : Prop :=
  Settled low (start memory source) ∨
    ∀ address, memory.checkRange TableLevel.first.bytes address ≠ .ok ()

variable {base length : Word}

theorem begins_of_arena {arena : Arena} (ranged : Arena.ofRange base length = .ok arena)
    (spans : memory.Spans base.toNat (base.toNat + length.toNat)) :
    Begins base.toNat memory arena := by
  obtain ⟨stop, ends, rfl⟩ := Arena.ofRange_eq_ok ranged
  have bounds := PhysicalMemory.windowEnd_eq_ok ends
  have ordered : base.toNat ≤ stop.toNat := by omega
  rcases spans.covers_or_unreachable with covers | unreachable
  · rw [← bounds.1] at covers
    exact .inl ⟨[], faithful_start memory (⟨⟨base⟩, base, stop.word⟩ : Arena) covers ordered⟩
  · exact .inr (unreachable _)

theorem begins_of_heap {first last : PhysicalAddress} {heap : BumpHeap}
    (created : BumpHeap.create first last = .ok heap)
    (spans : memory.Spans first.toNat last.toNat) : Begins first.toNat memory heap := by
  obtain ⟨ordered, rfl⟩ := BumpHeap.create_eq_ok created
  rcases spans.covers_or_unreachable with covers | unreachable
  · exact .inl ⟨[], faithful_start memory (⟨first, first, first, last⟩ : BumpHeap) covers ordered⟩
  · exact .inr (unreachable _)

theorem begins_arena (zeroed : PhysicalMemory.simulated base length = .ok memory) {arena : Arena}
    (ranged : Arena.ofRange base length = .ok arena) : Begins base.toNat memory arena :=
  begins_of_arena ranged (PhysicalMemory.spans_of_simulated zeroed (Nat.le_refl _) (Nat.le_refl _))

theorem begins_heap (zeroed : PhysicalMemory.simulated base length = .ok memory)
    {first last : PhysicalAddress} {heap : BumpHeap}
    (created : BumpHeap.create first last = .ok heap)
    (above : base.toNat ≤ first.toNat) (below : last.toNat ≤ base.toNat + length.toNat) :
    Begins first.toNat memory heap :=
  begins_of_heap created (PhysicalMemory.spans_of_simulated zeroed above below)

end Beginning

end SpaceSession

end Armv6Kernel
