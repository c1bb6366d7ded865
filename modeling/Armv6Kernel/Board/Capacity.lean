/-!
# Capacities

How many environments can live at once and how many identifiers there are for them.
-/

namespace Armv6Kernel.Capacity

def domains : Nat := 16

def reservedDomains : Nat := 1

def asids : Nat := 64

/-- The number of address space identifiers that no environment gets. -/
def reservedAsids : Nat := 1

def environments : Nat := 8

end Armv6Kernel.Capacity
