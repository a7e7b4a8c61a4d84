import VmSupport.Machine.Basic

/-!
# Memory from the heap of the process

Two calls ask for memory. The plain one answers an address, or zero; the checked one answers a status
and writes the address through a pointer. Both record the status, so after a plain call that answers
zero the cause can be asked for. The checked call looks at its pointer first: with a null pointer it
asks the heap for nothing.
-/

namespace VmSupport.Machine

open Heap (HeapError)

/-- Asks the heap for a block, and answers its address. -/
def takeBlock (size : Int32) (m : Machine) : Except Fault (Except HeapError Nat × Machine) :=
  match m.heap with
  | none => .ok (.error .notInitialized, m)
  | some h =>
    match h.allocate size with
    | .error f => .error f
    | .ok reply =>
      let m := (m.withHeap reply.heap).reportAll reply.events
      match reply.answer with
      | .error e => .ok (.error e, m)
      | .ok handle =>
        match Fault.addWords h.region.base handle.offset with
        | .error f => .error f
        | .ok address => .ok (.ok address, m)

/-- The plain call for memory: the address of a block, or zero. -/
def allocate (thread : Nat) (size : Int32) (m : Machine) : Outcome Nat × Machine :=
  match m.takeBlock size with
  | .error f => (.faulted f, m)
  | .ok (.error e, m) => (.returned 0, m.record thread (.ofHeapError e))
  | .ok (.ok address, m) => (.returned address, m.record thread .ok)

/-- The name under which the checked call reports. -/
def checkedName : String := "vm_gc_malloc_checked"

/-- The checked call for memory: a status, and the address that was written, if one was. -/
def allocateChecked (thread : Nat) (isNull : Bool) (size : Int32) (m : Machine) :
    Outcome (Status × Option Nat) × Machine :=
  if isNull then
    let m := m.report (.callRejected checkedName "null out pointer")
    (.returned (.invalidArgument, none), m.record thread .invalidArgument)
  else
    match m.takeBlock size with
    | .error f => (.faulted f, m)
    | .ok (.error e, m) =>
      (.returned (.ofHeapError e, none), m.record thread (.ofHeapError e))
    | .ok (.ok address, m) => (.returned (.ok, some address), m.record thread .ok)

/-- The address of the heap, or zero. -/
def heapBase (m : Machine) : Nat :=
  match m.heap with
  | none => 0
  | some h => h.region.base

/-- The number of bytes handed out, or zero. -/
def heapUsed (m : Machine) : Nat :=
  match m.heap with
  | none => 0
  | some h => h.used

/-- The capacity of the heap, or zero. -/
def heapCapacity (m : Machine) : Nat :=
  match m.heap with
  | none => 0
  | some h => h.region.size

/-- The heap as seen from outside. -/
def stats (m : Machine) : Outcome (Option Heap.Stats) :=
  match m.heap with
  | none => .returned none
  | some h =>
    match h.stats with
    | .error f => .faulted f
    | .ok s => .returned (some s)

end VmSupport.Machine
