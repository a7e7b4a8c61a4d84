import VmSupport.Heap.Bump

/-!
# The shared heap

The bump heap for many threads. A request reads the cursor, checks that it fits, and then moves the
cursor by a **compare-and-exchange**: the cursor moves only if it still has the value that was read.
Otherwise the request starts again from the value that it found. The exchange may also fail though
nothing changed, which looks the same to the request. A request that does not fit gives up without
an exchange. The counters move afterwards, in a step of their own.

**Stages.** `Stage` says where a request stands, and `Stage.step` is one indivisible action. It
touches the shared cells at most once, so any run of several requests is an interleaving of such
steps. The subtraction and the addition in between work on a value that may be stale by then; they
are the exact word operations, and a request that left the range of words would stop in `faulted`.

**Alone** (`runAlone_start`): five steps without interference serve a request, and `Shared.allocate`
says in one go what they do.
-/

namespace VmSupport.Heap

/-- The cells that the threads share. -/
structure Shared where
  region : Region
  cursor : Nat
  allocations : Nat
  failedAllocations : Nat

namespace Shared

/-- The heap that has handed out nothing yet. -/
def ofRegion (r : Region) : Shared :=
  { region := r, cursor := 0, allocations := 0, failedAllocations := 0 }

/-- Reserves a region and makes it a shared heap. -/
def withCapacity (host : Host) (capacity : Nat) : Except HeapError Shared :=
  (Region.reserve host capacity).map ofRegion

/-- The number of bytes handed out, rounding included. -/
def used (h : Shared) : Nat :=
  h.cursor

/-- The number of bytes left. -/
def remaining (h : Shared) : Except Fault Nat :=
  Fault.subtractWords h.region.size h.cursor

/-- The heap as seen from outside. -/
def stats (h : Shared) : Except Fault Stats :=
  h.remaining.map fun remaining =>
    { capacity := h.region.size, used := h.used, remaining
      allocations := h.allocations, failedAllocations := h.failedAllocations }

end Shared

/-- Where a request stands. -/
inductive Stage where
  /-- It has not looked at its size yet. -/
  | start (size : Int32)
  /-- It is about to read the cursor. -/
  | load (size : Int32) (rounded : Nat)
  /-- It has read the cursor and is about to see whether it fits. -/
  | check (size : Int32) (rounded current : Nat)
  /-- It fits, and is about to move the cursor. -/
  | exchange (size : Int32) (rounded current next : Nat)
  /-- It does not fit, and is about to be counted. -/
  | countRefusal (rounded remaining : Nat)
  /-- It has moved the cursor, and is about to be counted. -/
  | countGrant (size : Int32) (current : Nat)
  /-- It is done. -/
  | returned (answer : Except HeapError Handle)
  /-- Its arithmetic left the range of words. -/
  | faulted (fault : Fault)

/-- A request at its stage, with the heap as it is and what was reported on the way. -/
structure Progress where
  stage : Stage
  heap : Shared
  events : List Log.Event

namespace Stage

/-- See whether a request fits behind the cursor value that it read. -/
def fit (size : Int32) (rounded current capacity : Nat) : Stage :=
  match Fault.subtractWords capacity current with
  | .error f => .faulted f
  | .ok remaining =>
    if remaining < rounded then
      .countRefusal rounded remaining
    else
      match Fault.addWords current rounded with
      | .error f => .faulted f
      | .ok next => .exchange size rounded current next

/-- One indivisible action. `spurious` says that an exchange, should this be one, fails though the
cursor has not moved. A request that is done stays where it is. -/
def step (heap : Shared) (spurious : Bool) : Stage → Progress
  | .start size =>
    match roundedSize size with
    | .error cause => ⟨.returned (.error cause), heap, []⟩
    | .ok rounded => ⟨.load size rounded, heap, []⟩
  | .load size rounded => ⟨.check size rounded heap.cursor, heap, []⟩
  | .check size rounded current => ⟨fit size rounded current heap.region.size, heap, []⟩
  | .exchange size rounded current next =>
    if heap.cursor = current ∧ spurious = false then
      ⟨.countGrant size current, { heap with cursor := next }, []⟩
    else
      ⟨.check size rounded heap.cursor, heap, []⟩
  | .countRefusal rounded remaining =>
    let cause := HeapError.outOfMemory rounded remaining
    ⟨.returned (.error cause),
      { heap with failedAllocations := heap.failedAllocations + 1 }, [.allocationFailed cause]⟩
  | .countGrant size current =>
    ⟨.returned (.ok ⟨current⟩),
      { heap with allocations := heap.allocations + 1 }, [.allocated size current]⟩
  | .returned answer => ⟨.returned answer, heap, []⟩
  | .faulted f => ⟨.faulted f, heap, []⟩

/-- Whether the request has nothing left to do. -/
def isDone : Stage → Bool
  | .returned _ | .faulted _ => true
  | _ => false

end Stage

/-- So many actions of one request, while nobody else touches the heap. -/
def Progress.runAlone : Nat → Progress → Progress
  | 0, p => p
  | n + 1, p =>
    let next := p.stage.step p.heap false
    Progress.runAlone n { next with events := p.events ++ next.events }

namespace Shared

/-- Serves a request while nobody else touches the heap. -/
def allocate (h : Shared) (size : Int32) : Except Fault (Reply Shared) :=
  match roundedSize size with
  | .error cause => .ok { answer := .error cause, heap := h, events := [] }
  | .ok rounded =>
    match h.remaining with
    | .error f => .error f
    | .ok remaining =>
      if remaining < rounded then
        let cause := HeapError.outOfMemory rounded remaining
        .ok { answer := .error cause
              heap := { h with failedAllocations := h.failedAllocations + 1 }
              events := [.allocationFailed cause] }
      else
        match Fault.addWords h.cursor rounded with
        | .error f => .error f
        | .ok next =>
          .ok { answer := .ok ⟨h.cursor⟩
                heap := { h with cursor := next, allocations := h.allocations + 1 }
                events := [.allocated size h.cursor] }

end Shared

/-- What a lone request has come to when its steps have served it. -/
def Progress.ofReply (h : Shared) : Except Fault (Reply Shared) → Progress
  | .ok reply => ⟨.returned reply.answer, reply.heap, reply.events⟩
  | .error f => ⟨.faulted f, h, []⟩

/-- Five steps without interference serve a request. -/
theorem runAlone_start (h : Shared) (size : Int32) :
    Progress.runAlone 5 ⟨.start size, h, []⟩ = Progress.ofReply h (h.allocate size) := by
  cases hr : roundedSize size with
  | error cause => simp [Progress.runAlone, Stage.step, Shared.allocate, Progress.ofReply, hr]
  | ok rounded =>
    cases hs : Fault.subtractWords h.region.size h.cursor with
    | error f =>
      simp [Progress.runAlone, Stage.step, Stage.fit, Shared.allocate, Shared.remaining,
        Progress.ofReply, hr, hs]
    | ok remaining =>
      by_cases hlt : remaining < rounded
      · simp [Progress.runAlone, Stage.step, Stage.fit, Shared.allocate, Shared.remaining,
          Progress.ofReply, hr, hs, hlt]
      · cases ha : Fault.addWords h.cursor rounded <;>
          simp [Progress.runAlone, Stage.step, Stage.fit, Shared.allocate, Shared.remaining,
            Progress.ofReply, hr, hs, hlt, ha]

end VmSupport.Heap
