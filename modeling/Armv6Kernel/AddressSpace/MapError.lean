import Armv6Kernel.Text.Record

/-!
# Running out of table memory

The one recoverable failure of building translation tables.
-/

namespace Armv6Kernel

/-- The level of a translation table. -/
inductive TableLevel where
  | first
  /-- The table that a coarse pointer leads to. -/
  | coarse
  deriving DecidableEq, Repr

namespace TableLevel

def entries : TableLevel → Nat
  | first => 4096
  | coarse => 256

/-- The size of a table in bytes, which is also its alignment. -/
def bytes (level : TableLevel) : Nat :=
  4 * level.entries

def noun : TableLevel → String
  | first => "first-level table"
  | coarse => "coarse table"

end TableLevel

/-- Why a mapping could not be made. -/
inductive MapError where
  | outOfMemory (level : TableLevel)
  deriving DecidableEq, Repr

namespace MapError

def display : MapError → String
  | outOfMemory level =>
      "out of memory allocating a " ++ level.noun ++ " (" ++ toString level.bytes ++ " bytes)"

def inspect : MapError → String
  | outOfMemory level =>
      Record.named "OutOfMemory"
        [("what", Record.quoted level.noun), ("bytes", toString level.bytes)]

end MapError

end Armv6Kernel
