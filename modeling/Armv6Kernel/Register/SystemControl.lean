import Armv6Kernel.Bits.Layout

/-!
# The system control register

The register that turns the MMU and the caches on.  Bits without a name are reserved; a
read-modify-write keeps them as they were.
-/

namespace Armv6Kernel

structure SystemControl where
  word : Word
  deriving DecidableEq, Repr

namespace SystemControl

def mmuEnable : BitField 1 := ⟨0⟩

def dataCacheEnable : BitField 1 := ⟨2⟩

def writeBuffer : BitField 1 := ⟨3⟩

def branchPrediction : BitField 1 := ⟨11⟩

def instructionCacheEnable : BitField 1 := ⟨12⟩

/-- The bit that selects the extended descriptor format, without subpages. -/
def extendedPageTables : BitField 1 := ⟨23⟩

def levelTwoCacheEnable : BitField 1 := ⟨26⟩

/-- The fields of the register.  A fresh value has the should-be-one bits 4 to 6, 16 and 18 set. -/
def layout : Layout where
  name := "SystemControl"
  initial := 0x00050070
  fields := [
    .flag "m_mmu_enable" mmuEnable,
    .flag "a_alignment_check" ⟨1⟩,
    .flag "c_dcache_enable" dataCacheEnable,
    .flag "w_write_buffer" writeBuffer,
    .flag "b_big_endian" ⟨7⟩,
    .flag "s_system_protection" ⟨8⟩,
    .flag "r_rom_protection" ⟨9⟩,
    .flag "z_branch_prediction" branchPrediction,
    .flag "i_icache_enable" instructionCacheEnable,
    .flag "v_high_vectors" ⟨13⟩,
    .flag "rr_round_robin" ⟨14⟩,
    .flag "l4_armv4_thumb_interwork" ⟨15⟩,
    .flag "fi_fast_interrupts" ⟨21⟩,
    .flag "u_unaligned" ⟨22⟩,
    .flag "xp_extended_page_tables" extendedPageTables,
    .flag "ve_vectored_interrupts" ⟨24⟩,
    .flag "ee_exception_endian" ⟨25⟩,
    .flag "l2_cache_enable" levelTwoCacheEnable,
    .flag "tr_tex_remap" ⟨28⟩,
    .flag "fa_force_ap" ⟨29⟩]

/-- A fresh value: everything off, reserved bits as the core defines them. -/
def fresh : SystemControl :=
  ⟨layout.initial⟩

def mmuIsOn (control : SystemControl) : Bool :=
  mmuEnable.test control.word

def withMmu (control : SystemControl) (on : Bool) : SystemControl :=
  ⟨mmuEnable.assign on control.word⟩

def withDataCache (control : SystemControl) (on : Bool) : SystemControl :=
  ⟨dataCacheEnable.assign on control.word⟩

def withExtendedPageTables (control : SystemControl) (on : Bool) : SystemControl :=
  ⟨extendedPageTables.assign on control.word⟩

/-- The value with both level-one caches, the write buffer, branch prediction and the level-two
cache on or off. -/
def withAllCaches (control : SystemControl) (on : Bool) : SystemControl :=
  ⟨levelTwoCacheEnable.assign on <|
    branchPrediction.assign on <|
    writeBuffer.assign on <|
    instructionCacheEnable.assign on <|
    dataCacheEnable.assign on control.word⟩

def inspect (control : SystemControl) : String :=
  layout.inspect control.word

end SystemControl

end Armv6Kernel
