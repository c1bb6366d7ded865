import Mathlib.Data.List.Nodup
import Mathlib.Data.List.ProdSigma
import Armv6Kernel.Proofs.AddressSpace.Ownership
import Armv6Kernel.Proofs.AddressSpace.Transcript

/-!
# Where the memory of the tables comes from

The source of tables hands out roots, coarse tables and the blocks that callers take directly.  All
of them lie apart.  The coarse tables that map requests have taken are exactly those that coarse
pointers lead to, so that no request loses a table or links it twice.
-/

namespace Armv6Kernel

namespace FirstLevelIndex

/-- The indices of all first-level slots, in order. -/
def all : List FirstLevelIndex :=
  (List.range TableLevel.first.entries).map fun number => ⟨BitVec.ofNat 12 number⟩

theorem mem_all (index : FirstLevelIndex) : index ∈ all := by
  refine List.mem_map.mpr ⟨index.toNat, List.mem_range.mpr index.toNat_lt, ?_⟩
  apply eq_of_toNat_eq
  exact Nat.mod_eq_of_lt index.toNat_lt

theorem nodup_all : all.Nodup := by
  refine List.Nodup.map_on ?_ List.nodup_range
  intro first firstBelow second secondBelow same
  have bits := congrArg toNat same
  simp only [toNat, BitVec.toNat_ofNat, TableLevel.entries, List.mem_range] at *
  omega

end FirstLevelIndex

namespace SpaceSession

variable {A : Type} {session : SpaceSession A}

/-- The coarse tables that the first-level slots of a session point to, slot by slot. -/
def coarseTables (session : SpaceSession A) : List PhysicalAddress :=
  (session.spaces ×ˢ FirstLevelIndex.all).filterMap fun slot =>
    slot.1.table? session.memory slot.2

theorem mem_coarseTables {table : PhysicalAddress} :
    table ∈ session.coarseTables ↔
      ∃ space ∈ session.spaces, ∃ index, space.table? session.memory index = some table := by
  unfold coarseTables
  rw [List.mem_filterMap]
  constructor
  · rintro ⟨⟨space, index⟩, member, found⟩
    exact ⟨space, (List.mem_product.mp member).1, index, found⟩
  · rintro ⟨space, member, index, found⟩
    exact ⟨(space, index), List.mem_product.mpr ⟨member, index.mem_all⟩, found⟩

theorem coarseTables_of_no_spaces (none : session.spaces = []) : session.coarseTables = [] := by
  rw [coarseTables, none]
  rfl

theorem nodup_coarseTables {low high : Nat}
    (forest : Forest session.memory low high {space | space ∈ session.spaces})
    (distinct : session.spaces.Nodup) : session.coarseTables.Nodup := by
  unfold coarseTables
  refine List.pairwise_filterMap.mpr ?_
  refine (List.Nodup.product distinct FirstLevelIndex.nodup_all).imp_of_mem ?_
  rintro ⟨space, index⟩ ⟨other, otherIndex⟩ member otherMember different table found otherTable
    otherFound same
  have owned : space ∈ {space | space ∈ session.spaces} := (List.mem_product.mp member).1
  have otherOwned : other ∈ {space | space ∈ session.spaces} :=
    (List.mem_product.mp otherMember).1
  obtain ⟨pointer, linked, leads⟩ := AddressSpace.linked_of_table? owned found
  obtain ⟨otherPointer, otherLinked, otherLeads⟩ :=
    AddressSpace.linked_of_table? otherOwned otherFound
  obtain ⟨rfl, rfl⟩ := forest.tableUnshared linked otherLinked
    (leads.trans (same.trans otherLeads.symm))
  exact different rfl

end SpaceSession

/-! ## What an exchange takes -/

namespace Exchange

variable {A : Type}

/-- The block that a caller has taken directly. -/
def block? (exchange : Exchange A) : Option Block :=
  match exchange with
  | ⟨.takeBlock bytes _, .value (some start), _, _⟩ => some ⟨start.toNat, bytes.toNat⟩
  | _ => none

variable [TableSource A]

/-- The coarse table that a map request has taken from the source of tables. -/
def table? [DecidableEq A] (exchange : Exchange A) : Option PhysicalAddress :=
  match exchange.request with
  | .map _ _ _ _ _ _ =>
      if exchange.after = exchange.before then none
      else
        match ((TableSource.allocate 0x400 0x400).effect exchange.before).1 with
        | .value block => block
        | _ => none
  | _ => none

/-- A map request takes nothing, or it succeeds and has taken one coarse table. -/
def TakesSparingly (exchange : Exchange A) : Prop :=
  ∀ granule number start physical domain flags,
    exchange.request = .map granule number start physical domain flags →
    exchange.after = exchange.before ∨
      (∃ answer, exchange.outcome = .value answer) ∧
        ∃ table, (TableSource.allocate 0x400 0x400).effect exchange.before =
          (.value (some table), exchange.after)

theorem table?_of_unchanged [DecidableEq A] {exchange : Exchange A}
    (same : exchange.after = exchange.before) : exchange.table? = none := by
  unfold table?
  split
  · rw [if_pos same]
  · rfl

end Exchange

namespace Transcript

variable {A : Type} [TableSource A]

/-- The coarse tables that the map requests have taken. -/
def tablesTaken [DecidableEq A] (transcript : Transcript A) : List PhysicalAddress :=
  transcript.exchanges.filterMap Exchange.table?

/-- The tables of a session are where they should be, and nothing else is. -/
structure OwnsTables [DecidableEq A] [CursorSource A] (transcript : Transcript A) (low : Nat) :
    Prop where
  owned : OwnsBlocks transcript.session.memory low transcript.session.tables.cursor
    {space | space ∈ transcript.session.spaces}
  reserved : ∀ exchange ∈ transcript.exchanges, ∀ block, exchange.block? = some block →
    ∀ (seat : TableSeat) (table : Block), seat.space ∈ transcript.session.spaces →
      seat.block? transcript.session.memory = some table → block.Apart table
  sparing : ∀ exchange ∈ transcript.exchanges, exchange.TakesSparingly
  accounted : transcript.tablesTaken.Perm transcript.session.coarseTables

/-- What an exchange keeps, so that the tables stay where they should be. -/
structure Accounts [DecidableEq A] [CursorSource A] (transcript : Transcript A) : Prop where
  below : ∀ exchange ∈ transcript.exchanges, ∀ block, exchange.block? = some block →
    block.start + block.bytes ≤ transcript.session.tables.cursor
  reserved : ∀ exchange ∈ transcript.exchanges, ∀ block, exchange.block? = some block →
    ∀ (seat : TableSeat) (table : Block), seat.space ∈ transcript.session.spaces →
      seat.block? transcript.session.memory = some table → block.Apart table
  sparing : ∀ exchange ∈ transcript.exchanges, exchange.TakesSparingly
  taken : ∀ table, table ∈ transcript.tablesTaken ↔ table ∈ transcript.session.coarseTables
  once : transcript.tablesTaken.Nodup

end Transcript

/-! ## Steps -/

section Steps

variable {A : Type} [TableSource A] [CursorSource A]

/-- A mapping leaves all coarse tables where they are, and it may link the next one. -/
theorem Installs.table?_cases {tables after : TableMemory A} {low : Nat}
    {spaces : Set AddressSpace} {space : AddressSpace} {granule : Granule}
    {start : VirtualAddress} {physical : PhysicalAddress} {domain : Domain} {flags : MapFlags}
    {descriptor : Descriptor (.mapping granule)}
    (installs : Installs tables space start physical domain flags descriptor after)
    (sound : tables.Sound low spaces) (member : space ∈ spaces) :
    (after.source = tables.source ∧ ∀ owner ∈ spaces, ∀ index,
      owner.table? after.memory index = owner.table? tables.memory index) ∨
    (TableLevel.coarse.Fits tables.cursor tables.limit ∧
      after.source = (tables.afterTable .coarse).source ∧
      space.table? tables.memory (.ofAddress start) = none ∧
      ∀ owner ∈ spaces, ∀ index, owner.table? after.memory index =
        if owner = space ∧ index = .ofAddress start then some (tables.nextTable .coarse)
        else owner.table? tables.memory index) := by
  have elsewhere : ∀ owner ∈ spaces, ∀ index, ¬ (owner = space ∧ index = .ofAddress start) →
      owner.table? after.memory index = owner.table? tables.memory index :=
    fun owner owned index apart => AddressSpace.table?_of_entry_eq
      ((installs.fillsOnly sound member).entry_eq owned apart)
  rcases installs.entry_cases sound member with
    ⟨-, vacant, ⟨found, -, filled⟩, same⟩ | ⟨-, ⟨pointer, linked, kept⟩, same⟩ |
    ⟨-, vacant, room, ⟨pointer, made, linked⟩, taken⟩
  · refine .inl ⟨same, fun owner owned index => ?_⟩
    by_cases here : owner = space ∧ index = .ofAddress start
    · obtain ⟨rfl, rfl⟩ := here
      rw [AddressSpace.table?_of_section filled, AddressSpace.table?_of_fault vacant]
    · exact elsewhere owner owned index here
  · refine .inl ⟨same, fun owner owned index => ?_⟩
    by_cases here : owner = space ∧ index = .ofAddress start
    · obtain ⟨rfl, rfl⟩ := here
      rw [AddressSpace.table?_of_coarse kept, AddressSpace.table?_of_coarse linked]
    · exact elsewhere owner owned index here
  · refine .inr ⟨room, taken, AddressSpace.table?_of_fault vacant, fun owner owned index => ?_⟩
    by_cases here : owner = space ∧ index = .ofAddress start
    · rw [if_pos here]
      obtain ⟨rfl, rfl⟩ := here
      rw [AddressSpace.table?_of_coarse linked, (TableMemory.forTable_nextTable room made).2]
    · rw [if_neg here]
      exact elsewhere owner owned index here

end Steps

namespace SpaceSession

variable {A : Type} [TableSource A] [CursorSource A] [DecidableEq A] {low : Nat}
  {session after : SpaceSession A} {exchange : Exchange A}

omit [DecidableEq A] in
theorem source_afterTable_ne (tables : TableMemory A)
    (room : TableLevel.coarse.Fits tables.cursor tables.limit) :
    (tables.afterTable .coarse).source ≠ tables.source := by
  intro same
  have moved := TableMemory.cursor_of_source same
  have bounds := TableMemory.nextTable_bounds room
  have positive := TableLevel.coarse.bytes_pos
  rw [TableMemory.cursor_afterTable room] at moved
  omega

theorem table?_of_taken {granule : Granule} {number : Nat} {start : VirtualAddress}
    {physical : PhysicalAddress} {domain : Domain} {flags : MapFlags}
    (outcome : Outcome MapError (Descriptor (.mapping granule)))
    (room : TableLevel.coarse.Fits session.tables.cursor session.tables.limit) :
    Exchange.table? ⟨.map granule number start physical domain flags, outcome, session.source,
      (session.tables.afterTable .coarse).source⟩ = some (session.tables.nextTable .coarse) := by
  have allocated := session.tables.effect_allocate_coarse
  rw [if_pos room] at allocated
  simp only [Exchange.table?, source, if_neg (source_afterTable_ne session.tables room), allocated]

omit [DecidableEq A] in
theorem coarseTables_made (settled : Settled low session)
    (room : TableLevel.first.Fits session.tables.cursor session.tables.limit)
    (table : PhysicalAddress) :
    table ∈ (⟨session.tables.afterRoot, session.spaces ++ [session.tables.nextSpace]⟩ :
        SpaceSession A).coarseTables ↔ table ∈ session.coarseTables := by
  rw [mem_coarseTables, mem_coarseTables]
  have same : ∀ owner ∈ session.spaces, ∀ index,
      owner.table? session.tables.afterRoot.memory index = owner.table? session.memory index :=
    fun owner member index => AddressSpace.table?_of_entry_eq (congrArg Slot.firstLevelEntry
      (settled.sound.forest.firstSlot_of_agree (TableMemory.agree_afterRoot room) member index))
  constructor
  · rintro ⟨owner, member, index, below⟩
    rcases List.mem_append.mp member with old | new
    · exact ⟨owner, old, index, (same owner old index).symm.trans below⟩
    · rw [List.mem_singleton.mp new] at below
      have blank := AddressSpace.table?_of_fault
        (Forest.entry_of_empty (session.tables.nextSpace_empty index))
      exact absurd (blank.symm.trans below) (Option.some_ne_none _).symm
  · rintro ⟨owner, member, index, below⟩
    exact ⟨owner, List.mem_append_left _ member, index, (same owner member index).trans below⟩

omit [TableSource A] [CursorSource A] [DecidableEq A] in
theorem coarseTables_linked {tables : TableMemory A} {space : AddressSpace}
    {index : FirstLevelIndex} {new : PhysicalAddress} (member : space ∈ session.spaces)
    (vacant : space.table? session.memory index = none)
    (linked : ∀ owner ∈ session.spaces, ∀ other, owner.table? tables.memory other =
      if owner = space ∧ other = index then some new else owner.table? session.memory other)
    (table : PhysicalAddress) :
    table ∈ ({ session with tables := tables } : SpaceSession A).coarseTables ↔
      table ∈ session.coarseTables ∨ table = new := by
  rw [mem_coarseTables, mem_coarseTables]
  constructor
  · rintro ⟨owner, owned, other, below⟩
    have found := (linked owner owned other).symm.trans below
    split at found
    · cases found
      exact .inr rfl
    · exact .inl ⟨owner, owned, other, found⟩
  · rintro (⟨owner, owned, other, below⟩ | rfl)
    · refine ⟨owner, owned, other, (linked owner owned other).trans ?_⟩
      rw [if_neg, below]
      rintro ⟨rfl, rfl⟩
      exact absurd (vacant.symm.trans below) (Option.some_ne_none _).symm
    · exact ⟨space, member, index, (linked space member index).trans (if_pos ⟨rfl, rfl⟩)⟩

/-- An exchange takes no coarse table and links none, or it takes and links the same one. -/
theorem ExchangeEffect.table?_cases (effect : session.ExchangeEffect exchange after)
    (settled : Settled low session) :
    (exchange.table? = none ∧ ∀ table,
      table ∈ after.coarseTables ↔ table ∈ session.coarseTables) ∨
    ∃ taken, exchange.table? = some taken ∧ session.tables.cursor ≤ taken.toNat ∧ ∀ table,
      table ∈ after.coarseTables ↔ table ∈ session.coarseTables ∨ table = taken := by
  cases effect with
  | made room => exact .inl ⟨rfl, coarseTables_made settled room⟩
  | @mapped granule number space start physical domain flags descriptor tables found installs =>
      rcases installs.table?_cases settled.sound (mem_of_space? found) with
        ⟨same, kept⟩ | ⟨room, taken, vacant, linked⟩
      · have sameTables : ({ session with tables := tables } : SpaceSession A).coarseTables =
            session.coarseTables :=
          List.filterMap_congr fun slot member =>
            kept slot.1 (List.mem_product.mp member).1 slot.2
        exact .inl ⟨Exchange.table?_of_unchanged same, fun _ => by rw [sameTables]⟩
      · rw [taken]
        exact .inr ⟨_, table?_of_taken _ room, (TableMemory.nextTable_bounds room).1,
          coarseTables_linked (mem_of_space? found) vacant linked⟩
  | handed above taken => exact .inl ⟨rfl, fun _ => Iff.rfl⟩
  | full => exact .inl ⟨rfl, fun _ => Iff.rfl⟩
  | failed cause => exact .inl ⟨Exchange.table?_of_unchanged rfl, fun _ => Iff.rfl⟩
  | panicked cause => exact .inl ⟨Exchange.table?_of_unchanged rfl, fun _ => Iff.rfl⟩

omit [DecidableEq A] in
theorem ExchangeEffect.cursor_le (effect : session.ExchangeEffect exchange after)
    (settled : Settled low session) : session.tables.cursor ≤ after.tables.cursor := by
  have taken : ∀ {level : TableLevel} {tables : TableMemory A},
      level.Fits session.tables.cursor session.tables.limit →
      tables.source = (session.tables.afterTable level).source →
        session.tables.cursor ≤ tables.cursor := by
    intro level tables room same
    have bounds := TableMemory.nextTable_bounds room
    rw [TableMemory.cursor_of_source same, TableMemory.cursor_afterTable room]
    omega
  cases effect with
  | made room => exact taken room rfl
  | mapped found installs =>
      rcases installs.table?_cases settled.sound (mem_of_space? found) with
        ⟨same, -⟩ | ⟨room, same, -⟩
      · exact Nat.le_of_eq (TableMemory.cursor_of_source same).symm
      · exact taken room same
  | @handed bytes alignment start stop above taken =>
      change _ ≤ (CursorSource.cursor (CursorSource.moveTo stop session.source)).toNat
      rw [CursorSource.cursor_moveTo]
      omega
  | _ => exact Nat.le_refl _

omit [DecidableEq A] in
theorem ExchangeEffect.root_cases (effect : session.ExchangeEffect exchange after)
    {space : AddressSpace} (member : space ∈ after.spaces) :
    space ∈ session.spaces ∨ session.tables.cursor ≤ space.root.toNat := by
  cases effect with
  | made room =>
      rcases List.mem_append.mp member with old | new
      · exact .inl old
      · rw [List.mem_singleton.mp new]
        exact .inr (TableMemory.nextTable_bounds room).1
  | _ => exact .inl member

/-- A table that an exchange leaves was there before, or it lies where nothing had been handed
out. -/
theorem ExchangeEffect.block?_cases (effect : session.ExchangeEffect exchange after)
    (settled : Settled low session) {seat : TableSeat} {table : Block}
    (member : seat.space ∈ after.spaces) (found : seat.block? after.memory = some table) :
    (∃ old : TableSeat, old.space ∈ session.spaces ∧ old.block? session.memory = some table) ∨
      session.tables.cursor ≤ table.start := by
  have owned : seat.space ∈ {space | space ∈ after.spaces} := member
  rcases TableSeat.block?_cases owned found with
    ⟨space, root, -, rfl⟩ | ⟨space, index, pointer, linked, -, rfl⟩
  · rcases effect.root_cases root with old | fresh
    · exact .inl ⟨.root space, old, rfl⟩
    · exact .inr fresh
  · have listed : pointer.table ∈ after.coarseTables :=
      mem_coarseTables.mpr ⟨space, linked.member, index,
        AddressSpace.table?_of_coarse linked.entry⟩
    have before : pointer.table ∈ session.coarseTables ∨
        session.tables.cursor ≤ pointer.table.toNat := by
      rcases effect.table?_cases settled with ⟨-, same⟩ | ⟨taken, -, fresh, same⟩
      · exact .inl ((same _).mp listed)
      · rcases (same _).mp listed with old | rfl
        · exact .inl old
        · exact .inr fresh
    rcases before with old | fresh
    · obtain ⟨owner, owned, other, below⟩ := mem_coarseTables.mp old
      exact .inl ⟨.below owner other, owned, Option.map_eq_some_iff.mpr ⟨_, below, rfl⟩⟩
    · exact .inr fresh

omit [DecidableEq A] in
theorem ExchangeEffect.takesSparingly (effect : session.ExchangeEffect exchange after)
    (settled : Settled low session) : exchange.TakesSparingly := by
  intro granule number start physical domain flags asked
  cases effect with
  | mapped found installs =>
      rcases installs.table?_cases settled.sound (mem_of_space? found) with
        ⟨same, -⟩ | ⟨room, taken, -⟩
      · exact .inl same
      · have allocated := session.tables.effect_allocate_coarse
        rw [if_pos room, ← taken] at allocated
        exact .inr ⟨⟨_, rfl⟩, _, allocated⟩
  | made room => cases asked
  | handed above taken => cases asked
  | _ => exact .inl rfl

omit [DecidableEq A] in
/-- A block that a caller takes lies above all tables, and no table changes. -/
theorem ExchangeEffect.block?_apart (effect : session.ExchangeEffect exchange after)
    (settled : Settled low session) {block : Block} (handed : exchange.block? = some block) :
    block.start + block.bytes ≤ after.tables.cursor ∧
      ∀ (seat : TableSeat) (table : Block), seat.space ∈ after.spaces →
        seat.block? after.memory = some table → block.Apart table := by
  cases effect with
  | @handed bytes alignment start stop above taken =>
      cases handed
      refine ⟨?_, fun seat table member found => .inr ?_⟩
      · change _ ≤ (CursorSource.cursor (CursorSource.moveTo stop session.source)).toNat
        rw [CursorSource.cursor_moveTo]
        exact taken
      · have placed := settled.sound.forest.block_placed member found
        change _ ≤ start.toNat
        omega
  | made room => cases handed
  | mapped found installs => cases handed
  | full => cases handed
  | @failed request cause => cases request <;> cases handed
  | @panicked request cause => cases request <;> cases handed

end SpaceSession

/-! ## Runs -/

namespace Transcript

open SpaceSession

variable {A : Type} [TableSource A] [CursorSource A] [DecidableEq A] {low : Nat}
  {session after : SpaceSession A} {exchanges : List (Exchange A)} {exchange : Exchange A}
  {memory : PhysicalMemory} {source : A}

omit [CursorSource A] in
theorem tablesTaken_append (session after : SpaceSession A) (exchanges : List (Exchange A))
    (exchange : Exchange A) :
    tablesTaken ⟨after, exchanges ++ [exchange]⟩ =
      tablesTaken ⟨session, exchanges⟩ ++ exchange.table?.toList := by
  rw [tablesTaken, List.filterMap_append, List.filterMap_cons, List.filterMap_nil]
  cases exchange.table? <;> rfl

theorem Accounts.next (accounts : Accounts ⟨session, exchanges⟩) (settled : Settled low session)
    (effect : session.ExchangeEffect exchange after) :
    Accounts ⟨after, exchanges ++ [exchange]⟩ := by
  have forward := effect.cursor_le settled
  constructor
  · intro served member block handed
    rcases List.mem_append.mp member with old | new
    · exact Nat.le_trans (accounts.below served old block handed) forward
    · cases List.mem_singleton.mp new
      exact (effect.block?_apart settled handed).1
  · intro served member block handed seat table seated found
    rcases List.mem_append.mp member with old | new
    · rcases effect.block?_cases settled seated found with ⟨before, owned, same⟩ | fresh
      · exact accounts.reserved served old block handed before table owned same
      · exact .inl (Nat.le_trans (accounts.below served old block handed) fresh)
    · cases List.mem_singleton.mp new
      exact (effect.block?_apart settled handed).2 seat table seated found
  · intro served member
    rcases List.mem_append.mp member with old | new
    · exact accounts.sparing served old
    · cases List.mem_singleton.mp new
      exact effect.takesSparingly settled
  · intro table
    rw [tablesTaken_append session, List.mem_append, accounts.taken]
    rcases effect.table?_cases settled with ⟨none, same⟩ | ⟨taken, some, -, same⟩
    · rw [none, same]
      exact ⟨fun either => either.resolve_right List.not_mem_nil, .inl⟩
    · rw [some, same, Option.toList_some, List.mem_singleton]
  · rw [tablesTaken_append session]
    rcases effect.table?_cases settled with ⟨none, -⟩ | ⟨taken, some, fresh, -⟩
    · rw [none, Option.toList_none, List.append_nil]
      exact accounts.once
    · rw [some, Option.toList_some]
      refine List.nodup_append.mpr ⟨accounts.once, List.nodup_singleton _, ?_⟩
      -- A table that was taken before ends below the cursor, the new one starts there or above.
      rintro old member new newMember rfl
      obtain ⟨space, member, index, below⟩ :=
        mem_coarseTables.mp ((accounts.taken old).mp member)
      have owned : space ∈ {space | space ∈ session.spaces} := member
      obtain ⟨pointer, linked, rfl⟩ := AddressSpace.linked_of_table? owned below
      have inside := settled.sound.forest.tableInside linked
      have positive := TableLevel.coarse.bytes_pos
      rw [List.mem_singleton.mp newMember] at inside
      omega

theorem accounts_empty (session : SpaceSession A) (none : session.spaces = []) :
    Accounts ⟨session, []⟩ where
  below served member := absurd member List.not_mem_nil
  reserved served member := absurd member List.not_mem_nil
  sparing served member := absurd member List.not_mem_nil
  taken table := by
    rw [coarseTables_of_no_spaces none]
    exact Iff.rfl
  once := List.nodup_nil

theorem accounts_transcript (settled : Settled low (start memory source))
    (requests : List SpaceRequest) :
    Settled low ((start memory source).transcript requests).session ∧
      ((start memory source).transcript requests).Accounts :=
  Settled.nextAll settled (accounts_empty (start memory source) rfl)
    (fun settled _ effect accounts => accounts.next settled effect) requests

theorem ownsTables_of_barren {transcript : Transcript A} (barren : Barren transcript) :
    transcript.OwnsTables low := by
  obtain ⟨none, unmapped⟩ := barren
  have nobody : ∀ space, ¬ space ∈ {space | space ∈ transcript.session.spaces} := by
    intro space member
    change space ∈ transcript.session.spaces at member
    rw [none] at member
    cases member
  have untaken : transcript.tablesTaken = [] := by
    refine List.filterMap_eq_nil_iff.mpr fun exchange member => ?_
    unfold Exchange.table?
    split
    · next asked => exact absurd asked (unmapped exchange member _ _ _ _ _ _)
    · rfl
  constructor
  · have unowned : {space | space ∈ transcript.session.spaces} = ∅ :=
      Set.eq_empty_iff_forall_notMem.mpr nobody
    rw [unowned]
    exact (Forest.empty _ _ _).ownsBlocks
  · exact fun served member block handed seat table seated => absurd seated (nobody _)
  · intro served member granule number start physical domain flags asked
    exact absurd asked (unmapped served member granule number start physical domain flags)
  · rw [untaken, coarseTables_of_no_spaces none]

theorem ownsTables_of_begins (begins : Begins low memory source) (requests : List SpaceRequest) :
    ((start memory source).transcript requests).OwnsTables low := by
  rcases begins with settled | unreachable
  · obtain ⟨reached, accounts⟩ := accounts_transcript settled requests
    have once := nodup_coarseTables reached.sound.forest reached.distinct
    exact
      { owned := reached.sound.forest.ownsBlocks
        reserved := accounts.reserved
        sparing := accounts.sparing
        accounted := (List.perm_ext_iff_of_nodup accounts.once once).mpr accounts.taken }
  · exact ownsTables_of_barren (barren_transcript source unreachable requests)

/-- The tables of every session over zeroed memory own their memory, whether they come from an arena
over all of the memory or from a heap over a part of it. -/
theorem ownsTables_transcript {base length : Word}
    (zeroed : PhysicalMemory.simulated base length = .ok memory) :
    (∀ arena, Arena.ofRange base length = .ok arena → ∀ requests,
      ((start memory arena).transcript requests).OwnsTables base.toNat) ∧
    ∀ first last heap, BumpHeap.create first last = .ok heap → base.toNat ≤ first.toNat →
      last.toNat ≤ base.toNat + length.toNat → ∀ requests,
        ((start memory heap).transcript requests).OwnsTables first.toNat := by
  constructor
  · intro arena ranged requests
    exact ownsTables_of_begins (begins_arena zeroed ranged) requests
  · intro first last heap created above below requests
    exact ownsTables_of_begins (begins_heap zeroed created above below) requests

end Transcript

end Armv6Kernel
