import VmSupport.Fault
import VmSupport.Heap.Error

/-!
# The region behind a heap, and handles into it

A host places one block of memory, and a region is such a block: it neither moves nor grows. A
**handle** is a distance from the base of a region. It turns into an address only through a region,
and any region takes any handle, so each conversion says which handles it accepts.

**The end counts.** A handle may point one past the last byte: a request for no bytes at the end of
a full heap is given that place. `Region.contains`, `Region.handleOf?` and `Region.pointer?` agree
on this bound.
-/

namespace VmSupport.Heap

/-- The alignment of the base of a region, in bytes. -/
def regionAlignment : Nat := 8

/-- The largest capacity that a block can have: the largest signed word, rounded down so that the
block still fits after its size is rounded up to the alignment. -/
def maxCapacity : Nat := Nat.pow 2 63 - regionAlignment

/-- Where a host places blocks. `place` answers the base for a capacity, or nothing when the host
has no such block; a base is never null, is aligned, and leaves the whole block inside the words. -/
structure Host where
  place : Nat → Option Nat
  place_pos : ∀ {capacity base}, place capacity = some base → 0 < base
  place_aligned : ∀ {capacity base}, place capacity = some base → base % regionAlignment = 0
  place_fits : ∀ {capacity base}, place capacity = some base → base + capacity < Fault.wordLimit

/-- The host that places each block below a limit at one base, and has no block from the limit on. -/
def Host.below (base limit : Nat) (pos : 0 < base) (aligned : base % regionAlignment = 0)
    (fits : base + limit ≤ Fault.wordLimit) : Host where
  place capacity := if capacity < limit then some base else none
  place_pos h := by
    split at h
    · exact Option.some.inj h ▸ pos
    · cases h
  place_aligned h := by
    split at h
    · exact Option.some.inj h ▸ aligned
    · cases h
  place_fits h := by
    split at h
    · have := Option.some.inj h
      omega
    · cases h

/-- A block of memory. -/
structure Region where
  base : Nat
  size : Nat
  base_pos : 0 < base
  base_aligned : base % regionAlignment = 0
  size_pos : 0 < size
  fits : base + size < Fault.wordLimit

/-- A distance from the base of a region. -/
structure Handle where
  offset : Nat
  deriving DecidableEq, Repr

namespace Handle

/-- Whether the distance has none of the bits below `align`, which has to be a power of two. -/
def isAlignedTo (h : Handle) (align : Nat) : Bool :=
  h.offset &&& (align - 1) == 0

/-- The order of two handles, which is that of their distances. -/
def order (h k : Handle) : Ordering :=
  compare h.offset k.offset

/-- A handle as a distance into the heap, in hexadecimal. -/
def shown (h : Handle) : String :=
  "heap+0x" ++ String.ofList (Nat.toDigits 16 h.offset)

/-- A handle as a record. -/
def record (h : Handle) : String :=
  s!"HeapRef({h.offset})"

end Handle

namespace Region

/-- Reserves a block of this capacity. -/
def reserve (host : Host) (capacity : Nat) : Except HeapError Region :=
  if hc : capacity = 0 ∨ maxCapacity < capacity then
    .error (.invalidCapacity capacity)
  else
    match hp : host.place capacity with
    | none => .error (.reservationFailed capacity)
    | some base =>
      .ok { base, size := capacity
            base_pos := host.place_pos hp
            base_aligned := host.place_aligned hp
            size_pos := Nat.pos_of_ne_zero fun h => hc (.inl h)
            fits := host.place_fits hp }

/-- The address behind the last byte. -/
def limit (r : Region) : Nat :=
  r.base + r.size

/-- Whether a handle points into the region or to its end. -/
def contains (r : Region) (h : Handle) : Bool :=
  decide (h.offset ≤ r.size)

/-- The address of a handle, which lies outside the region if the handle does. -/
def addressOf (r : Region) (h : Handle) : Nat :=
  r.base + h.offset

/-- The handle of an address in the region or at its end. -/
def handleOf? (r : Region) (address : Nat) : Option Handle :=
  if r.base ≤ address ∧ address - r.base ≤ r.size then some ⟨address - r.base⟩ else none

/-- The address of a handle that the region contains. -/
def pointer? (r : Region) (h : Handle) : Option Nat :=
  if r.contains h then some (r.base + h.offset) else none

/-- A region as a record, with its base in the given words. -/
def record (r : Region) (base : String) : String :=
  s!"HeapRegion \x7b base: {base}, size: {r.size} \x7d"

end Region

end VmSupport.Heap
