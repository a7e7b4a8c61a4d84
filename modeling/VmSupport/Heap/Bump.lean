import VmSupport.Heap.Align
import VmSupport.Heap.Region
import VmSupport.Log.Event

/-!
# The bump heap

A heap that hands out its region from the front. The **cursor** is the distance to the first free
byte. A request is rounded up to granules and granted exactly when it fits into what is left; the
cursor then moves behind the new block, and it never moves back. A request that does not fit, or
that has a negative size, leaves the cursor alone, so smaller requests may still be granted after
larger ones were refused.

The heap counts what it granted and what did not fit. A negative size is the caller's mistake and
counts in neither.
-/

namespace VmSupport.Heap

/-- A heap as seen from outside. -/
structure Stats where
  capacity : Nat
  used : Nat
  remaining : Nat
  allocations : Nat
  failedAllocations : Nat
  deriving DecidableEq, Repr

/-- What one request does to a heap: the answer, the heap afterwards, and what is reported. -/
structure Reply (Heap : Type) where
  answer : Except HeapError Handle
  heap : Heap
  events : List Log.Event

/-- The event that reports a fresh region. -/
def Region.reserved (r : Region) : Log.Event :=
  .heapReserved r.base r.size

/-- A region that is handed out from the front. -/
structure Bump where
  region : Region
  cursor : Nat
  allocations : Nat
  failedAllocations : Nat

namespace Bump

/-- The heap that has handed out nothing yet. -/
def ofRegion (r : Region) : Bump :=
  { region := r, cursor := 0, allocations := 0, failedAllocations := 0 }

/-- Reserves a region and makes it a heap. -/
def withCapacity (host : Host) (capacity : Nat) : Except HeapError Bump :=
  (Region.reserve host capacity).map ofRegion

/-- The number of bytes handed out, rounding included. -/
def used (b : Bump) : Nat :=
  b.cursor

/-- The number of bytes left. -/
def remaining (b : Bump) : Nat :=
  b.region.size - b.cursor

/-- The heap as seen from outside. -/
def stats (b : Bump) : Stats :=
  { capacity := b.region.size, used := b.used, remaining := b.remaining
    allocations := b.allocations, failedAllocations := b.failedAllocations }

/-- The heap and the report when a request does not fit. -/
def refuse (b : Bump) (rounded : Nat) : Reply Bump :=
  let cause := HeapError.outOfMemory rounded b.remaining
  { answer := .error cause
    heap := { b with failedAllocations := b.failedAllocations + 1 }
    events := [.allocationFailed cause] }

/-- The heap and the report when a request fits. -/
def grant (b : Bump) (size : Int32) (rounded : Nat) : Reply Bump :=
  { answer := .ok ⟨b.cursor⟩
    heap := { b with cursor := b.cursor + rounded, allocations := b.allocations + 1 }
    events := [.allocated size b.cursor] }

/-- Serves a request. -/
def allocate (b : Bump) (size : Int32) : Reply Bump :=
  match roundedSize size with
  | .error cause => { answer := .error cause, heap := b, events := [] }
  | .ok rounded => if b.remaining < rounded then b.refuse rounded else b.grant size rounded

/-- Serves requests one after another; each answer stands beside its request. -/
def serve (b : Bump) : List Int32 → List (Int32 × Except HeapError Handle) × Bump
  | [] => ([], b)
  | size :: sizes =>
    let reply := b.allocate size
    let (answers, last) := reply.heap.serve sizes
    ((size, reply.answer) :: answers, last)

end Bump

end VmSupport.Heap
