import Armv6Kernel.Effect.Panic
import Armv6Kernel.Identifier.Error

/-!
# The bitmap of a pool, word by word

The identifiers in use as four words of 64 bits.  The search for the least free identifier passes
over full words and looks at one word that is not full: if the least clear bit of that word lies at
or above the capacity, the search is over.
-/

namespace Armv6Kernel

/-- A pool of identifiers below a capacity, as words with one bit for each identifier. -/
structure IdentifierWords where
  capacity : Nat
  words : Vector (BitVec 64) 4
  deriving DecidableEq, Repr

namespace IdentifierWords

def wordBits : Nat := 64

/-- The word with only the bit of an identifier set. -/
def mask (identifier : Nat) : BitVec 64 :=
  1#64 <<< (identifier % wordBits)

/-- The words with the word of an identifier changed. -/
def onWord (words : Vector (BitVec 64) 4) (identifier : Nat) (change : BitVec 64 → BitVec 64) :
    Vector (BitVec 64) 4 :=
  let index := identifier / wordBits
  words.setIfInBounds index (change (words[index]?.getD 0))

def mark (words : Vector (BitVec 64) 4) (identifier : Nat) : Vector (BitVec 64) 4 :=
  onWord words identifier (· ||| mask identifier)

/-- The words in which the first `reserved` identifiers are in use.  Panics if there are too few
bits for the capacity or if more identifiers are reserved than exist. -/
def create (reserved capacity : Nat) : Except Panic IdentifierWords :=
  if capacity ≤ 4 * wordBits then
    if reserved ≤ capacity then
      .ok ⟨capacity, (List.range reserved).foldl mark (.replicate 4 0)⟩
    else
      .error .tooManyReserved
  else
    .error .capacityTooLarge

/-- Whether an identifier is in use.  Those at or above the capacity never are. -/
def isAllocated (state : IdentifierWords) (identifier : Nat) : Bool :=
  decide (identifier < state.capacity) &&
    state.words[identifier / wordBits]?.getD 0 &&& mask identifier != 0

/-- How many bits of a word are set. -/
def ones (word : BitVec 64) : Nat :=
  (List.range wordBits).countP word.getLsbD

/-- The number of set bits below the least clear bit of a word. -/
def trailingOnes (word : BitVec 64) : Nat :=
  (List.range wordBits).findIdx fun place => !word.getLsbD place

def allocatedCount (state : IdentifierWords) : Nat :=
  state.words.toList.foldr (fun word total => ones word + total) 0

/-- The least free identifier, searched for in the words from an index on. -/
def search (capacity : Nat) : Nat → List (BitVec 64) → Option Nat
  | _, [] => none
  | index, word :: later =>
      if word = BitVec.allOnes 64 then
        search capacity (index + 1) later
      else
        let identifier := index * wordBits + trailingOnes word
        if capacity ≤ identifier then none else some identifier

/-- Hands out the least identifier that is not in use. -/
def allocate (state : IdentifierWords) : Except IdentifierError (Nat × IdentifierWords) :=
  match search state.capacity 0 state.words.toList with
  | some identifier => .ok (identifier, { state with words := mark state.words identifier })
  | none => .error (.exhausted state.capacity)

/-- Takes an identifier back. -/
def free (state : IdentifierWords) (identifier : Nat) : Except IdentifierError IdentifierWords :=
  if state.capacity ≤ identifier then
    .error (.outOfRange identifier state.capacity)
  else if state.isAllocated identifier then
    .ok { state with words := onWord state.words identifier (· &&& ~~~mask identifier) }
  else
    .error (.notAllocated identifier)

end IdentifierWords

end Armv6Kernel
