/-!
# Mapping granules

The three sizes in which the short-descriptor format maps memory.
-/

namespace Armv6Kernel

/-- A size in which memory is mapped. -/
inductive Granule where
  | page4K
  | page64K
  | section1M
  deriving DecidableEq, Repr

namespace Granule

/-- The number of low address bits that lie inside one granule. -/
def shift : Granule → Nat
  | page4K => 12
  | page64K => 16
  | section1M => 20

def bytes : Granule → Nat
  | page4K => 0x1000
  | page64K => 0x10000
  | section1M => 0x100000

def label : Granule → String
  | page4K => "4K"
  | page64K => "64K"
  | section1M => "1M"

def noun : Granule → String
  | page4K => "small page"
  | page64K => "large page"
  | section1M => "section"

end Granule

end Armv6Kernel
