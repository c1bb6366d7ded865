import Armv6Kernel.Effect.Panic

/-!
# The translation table base register

Holds the start of the first-level table that translation begins with.
-/

namespace Armv6Kernel

structure TranslationTableBase where
  word : Word
  deriving DecidableEq, Repr

namespace TranslationTableBase

/-- The bits that hold the number of the table, which is aligned to 16 KiB. -/
def tableField : BitField 18 := ⟨14⟩

def layout : Layout where
  name := "TranslationTableBase"
  initial := 0
  fields := [
    .flag "c_inner_cacheable" ⟨0⟩,
    .flag "s_shared" ⟨1⟩,
    .flag "p_ecc" ⟨2⟩,
    .number "rgn_outer" (⟨3⟩ : BitField 2) 8,
    .internal "table_base_16k" tableField]

/-- A fresh value: the table at address zero, walked without caches. -/
def fresh : TranslationTableBase :=
  ⟨layout.initial⟩

/-- The value for a first-level table; panics if the table is not aligned to 16 KiB. -/
def ofTable (table : PhysicalAddress) : Except Panic TranslationTableBase :=
  if table.word &&& 0x3FFF = 0 then
    .ok ⟨tableField.put (table.word.extractLsb' 14 18) fresh.word⟩
  else
    .error .firstLevelTableMisaligned

/-- The start of the first-level table. -/
def table (register : TranslationTableBase) : PhysicalAddress :=
  ⟨(tableField.get register.word).setWidth 32 <<< 14⟩

def inspect (register : TranslationTableBase) : String :=
  layout.inspect register.word

end TranslationTableBase

end Armv6Kernel
