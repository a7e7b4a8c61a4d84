/-!
# Why a heap refuses

The causes for which reserving a region, serving a request or looking for the installed heap fails,
each with the numbers it is about, and their wording.
-/

namespace VmSupport.Heap

/-- Why a reservation, a request or the look-up of the heap failed. -/
inductive HeapError where
  /-- The host has no block of this size. -/
  | reservationFailed (capacity : Nat)
  /-- The capacity is zero, or too large for any block. -/
  | invalidCapacity (capacity : Nat)
  /-- The size of a request is negative. -/
  | invalidSize (size : Int32)
  /-- The rounded request does not fit into what is left. -/
  | outOfMemory (requested remaining : Nat)
  /-- There is a heap already. -/
  | alreadyInitialized
  /-- There is no heap yet. -/
  | notInitialized
  deriving DecidableEq, Repr

namespace HeapError

/-- The name of the cause. -/
def name : HeapError → String
  | reservationFailed _ => "ReservationFailed"
  | invalidCapacity _ => "InvalidCapacity"
  | invalidSize _ => "InvalidSize"
  | outOfMemory .. => "OutOfMemory"
  | alreadyInitialized => "AlreadyInitialized"
  | notInitialized => "NotInitialized"

/-- The sentence that reports the cause. -/
def message : HeapError → String
  | reservationFailed c => s!"failed to reserve heap region of {c} bytes"
  | invalidCapacity c => s!"invalid heap capacity: {c} bytes"
  | invalidSize s => s!"invalid allocation size: {s.toInt}"
  | outOfMemory q r => s!"heap exhausted: requested {q} bytes, {r} bytes remaining"
  | alreadyInitialized => "heap already initialized"
  | notInitialized => "heap not initialized"

/-- The numbers of the cause, each under its name. -/
def details : HeapError → List (String × Int)
  | reservationFailed c => [("capacity", c)]
  | invalidCapacity c => [("capacity", c)]
  | invalidSize s => [("size", s.toInt)]
  | outOfMemory q r => [("requested", q), ("remaining", r)]
  | alreadyInitialized => []
  | notInitialized => []

/-- The cause as a record: its name, and its numbers in braces if it has any. -/
def record (e : HeapError) : String :=
  match e.details with
  | [] => e.name
  | ds =>
    let fields := ", ".intercalate (ds.map fun d => s!"{d.1}: {d.2}")
    s!"{e.name} \x7b {fields} \x7d"

end HeapError

end VmSupport.Heap
