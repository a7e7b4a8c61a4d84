import VmSupport.Machine.Call

/-!
# Threads in one process

A crowd is a process with the threads that make calls on it. Two kinds of call take more than one
indivisible action. Putting a heap in place takes a lock, looks whether there is a heap, reserves a
region, puts the heap in place, looks it up again and gives the lock back; asking for memory looks up
the heap and then goes through the stages of a request. All other calls are one action each, and so
is what comes before the lock: putting settings together and installing the logger.

A thread that finds the lock taken waits. As in `VmSupport.Heap.Team`, a schedule says which thread
acts next and whether an exchange that it tries then fails without cause.
-/

namespace VmSupport

open Heap (HeapError Shared Stage)

/-- Who wants a heap in place: a call of the library, or a start from outside, which records how it
went. -/
inductive InitCaller where
  | library
  | outside
  deriving DecidableEq, Repr

/-- Who asks for memory: the plain call or the checked one. -/
inductive BlockCaller where
  | plain
  | checked
  deriving DecidableEq, Repr

/-- Where a call of a thread stands. -/
inductive Frame where
  /-- It waits for the lock. -/
  | lock (caller : InitCaller) (capacity : Nat)
  /-- It has the lock and is about to look whether there is a heap. -/
  | check (caller : InitCaller) (capacity : Nat)
  /-- There was no heap, and it is about to reserve a region. -/
  | reserve (caller : InitCaller) (capacity : Nat)
  /-- It is about to put its heap in place. -/
  | set (caller : InitCaller) (heap : Shared)
  /-- Its heap is in place, and it is about to look it up. -/
  | confirm (caller : InitCaller) (heap : Shared)
  /-- It is about to give the lock back. -/
  | unlock (caller : InitCaller) (result : Except HeapError Nat)
  /-- It has given the lock back, and is about to answer. -/
  | finish (caller : InitCaller) (result : Except HeapError Nat)
  /-- It is about to look up the heap for a request. -/
  | find (caller : BlockCaller) (size : Int32)
  /-- Its request stands at a stage. -/
  | serve (caller : BlockCaller) (stage : Stage)
  /-- It is done. -/
  | answered (answer : Answer)
  /-- It has ended the process. -/
  | aborted
  /-- It has faulted. -/
  | faulted (fault : Fault)

/-- A thread that makes calls. -/
structure Worker where
  /-- The number of the thread. -/
  thread : Nat
  /-- The calls that it still has to make. -/
  waiting : List Call
  /-- Where its present call stands, if it is making one. -/
  frame : Option Frame
  /-- The answers to its earlier calls. -/
  answers : List Answer

/-- A process with the threads that make calls on it. -/
structure Crowd where
  machine : Machine
  /-- The number of the thread that has the lock. -/
  lockedBy : Option Nat
  workers : List Worker

/-- The parts of a crowd that an action can change. -/
structure Scene where
  frame : Frame
  machine : Machine
  lockedBy : Option Nat

namespace Frame

/-- Where a call stands that wants a heap in place, once the log has been seen to. A fault goes up to
a caller inside the process, and aborts a start from outside. -/
def afterLog (caller : InitCaller) (capacity : Nat) (m : Machine) :
    Except Fault (Bool × Machine) → Frame × Machine
  | .ok (_, m) => (.lock caller capacity, m)
  | .error f =>
    match caller with
    | .library => (.faulted f, m)
    | .outside => (.aborted, m)

/-- The first action of a call. -/
def begin (w : Surroundings) (thread : Nat) (m : Machine) : Call → Frame × Machine
  | .init capacity => (.lock .library capacity, m)
  | .bootstrap s => afterLog .library s.capacity m (Machine.installLog w true s.log m)
  | .start capacity =>
    match Machine.startSettings w capacity with
    | .error (status, cause) =>
      let (s, m) := m.refuseStart thread status cause
      (.answered (.status s), m)
    | .ok s => afterLog .outside s.capacity m (Machine.installLog w true s.log m)
  | .startDefault =>
    let (s, m) := Machine.discover w m
    afterLog .outside s.capacity m (Machine.installLog w true s.log m)
  | .allocate size => (.find .plain size, m)
  | .allocateChecked false size => (.find .checked size, m)
  | c =>
    match m.call w thread c with
    | (.returned a, m) => (.answered a, m)
    | (.aborted, m) => (.aborted, m)
    | (.faulted f, m) => (.faulted f, m)

/-- The answer to a call that wanted a heap in place. -/
def answerInit (thread : Nat) (m : Machine) (result : Except HeapError Nat) :
    InitCaller → Frame × Machine
  | .library => (.answered (.started result), m)
  | .outside =>
    match result with
    | .ok _ => (.answered (.status .ok), m.record thread .ok)
    | .error e =>
      let (s, m) := m.refuseStart thread (.ofHeapError e) e.message
      (.answered (.status s), m)

/-- The answer to a call that asked for memory: an address, or the cause of a refusal. -/
def answerBlock (thread : Nat) (m : Machine) (result : Except HeapError Nat) (caller : BlockCaller) :
    Frame × Machine :=
  let status := match result with
    | .ok _ => .ok
    | .error e => Status.ofHeapError e
  let answer := match caller, result with
    | .plain, .ok address => .number address
    | .plain, .error _ => .number 0
    | .checked, .ok address => .checked status (some address)
    | .checked, .error _ => .checked status none
  (.answered answer, m.record thread status)

/-- One indivisible action of a call. -/
def step (w : Surroundings) (thread : Nat) (spurious : Bool) (m : Machine) (lockedBy : Option Nat) :
    Frame → Scene
  | .lock caller capacity =>
    match lockedBy with
    | none => ⟨.check caller capacity, m, some thread⟩
    | some other => ⟨.lock caller capacity, m, some other⟩
  | .check caller capacity =>
    match m.heap with
    | some _ => ⟨.unlock caller (.error .alreadyInitialized), m, lockedBy⟩
    | none => ⟨.reserve caller capacity, m, lockedBy⟩
  | .reserve caller capacity =>
    match Shared.withCapacity w.host capacity with
    | .error e => ⟨.unlock caller (.error e), m, lockedBy⟩
    | .ok h => ⟨.set caller h, m.report h.region.reserved, lockedBy⟩
  | .set caller h =>
    match m.heap with
    | some _ => ⟨.unlock caller (.error .alreadyInitialized), m, lockedBy⟩
    | none => ⟨.confirm caller h, m.withHeap h, lockedBy⟩
  | .confirm caller h =>
    let m := m.report (.initialized h.region.base h.region.size)
    match m.heap with
    | some found => ⟨.unlock caller (.ok found.region.size), m, lockedBy⟩
    | none => ⟨.unlock caller (.error .notInitialized), m, lockedBy⟩
  | .unlock caller result => ⟨.finish caller result, m, none⟩
  | .finish caller result =>
    let (frame, m) := answerInit thread m result caller
    ⟨frame, m, lockedBy⟩
  | .find caller size =>
    match m.heap with
    | some _ => ⟨.serve caller (.start size), m, lockedBy⟩
    | none =>
      let (frame, m) := answerBlock thread m (.error .notInitialized) caller
      ⟨frame, m, lockedBy⟩
  | .serve caller stage =>
    match m.heap with
    | none => ⟨.serve caller stage, m, lockedBy⟩
    | some h =>
      match stage with
      | .returned (.error e) =>
        let (frame, m) := answerBlock thread m (.error e) caller
        ⟨frame, m, lockedBy⟩
      | .returned (.ok handle) =>
        match Fault.addWords h.region.base handle.offset with
        | .error f => ⟨.faulted f, m, lockedBy⟩
        | .ok address =>
          let (frame, m) := answerBlock thread m (.ok address) caller
          ⟨frame, m, lockedBy⟩
      | .faulted f => ⟨.faulted f, m, lockedBy⟩
      | stage =>
        let next := stage.step h spurious
        ⟨.serve caller next.stage, (m.withHeap next.heap).reportAll next.events, lockedBy⟩
  | .answered answer => ⟨.answered answer, m, lockedBy⟩
  | .aborted => ⟨.aborted, m, lockedBy⟩
  | .faulted f => ⟨.faulted f, m, lockedBy⟩

end Frame

namespace Worker

/-- A thread that has made no call yet. -/
def ofCalls (thread : Nat) (calls : List Call) : Worker :=
  { thread, waiting := calls, frame := none, answers := [] }

/-- Whether the thread has nothing left to do. -/
def isDone (r : Worker) : Bool :=
  match r.frame with
  | none => r.waiting.isEmpty
  | some .aborted => true
  | some (.faulted _) => true
  | some _ => false

/-- One action of a thread: it begins a call, goes on with it, or takes its answer. -/
def step (w : Surroundings) (spurious : Bool) (m : Machine) (lockedBy : Option Nat) (r : Worker) :
    Worker × Machine × Option Nat :=
  match r.frame with
  | none =>
    match r.waiting with
    | [] => (r, m, lockedBy)
    | c :: rest =>
      let (frame, m) := Frame.begin w r.thread m c
      ({ r with waiting := rest, frame := some frame }, m, lockedBy)
  | some (.answered answer) =>
    ({ r with frame := none, answers := r.answers ++ [answer] }, m, lockedBy)
  | some frame =>
    let next := frame.step w r.thread spurious m lockedBy
    ({ r with frame := some next.frame }, next.machine, next.lockedBy)

end Worker

namespace Crowd

/-- A process on which no call is under way, with threads that are about to make calls. -/
def ofMachine (m : Machine) (workers : List Worker) : Crowd :=
  { machine := m, lockedBy := none, workers }

/-- Whether no thread has anything left to do. -/
def isDone (c : Crowd) : Bool :=
  c.workers.all Worker.isDone

/-- One action of the thread at this place in the list; nothing happens if there is none. -/
def step (w : Surroundings) (c : Crowd) (place : Nat) (spurious : Bool) : Crowd :=
  match c.workers[place]? with
  | none => c
  | some r =>
    let (r', machine, lockedBy) := r.step w spurious c.machine c.lockedBy
    { machine, lockedBy, workers := c.workers.set place r' }

/-- The crowd after a schedule. -/
def run (w : Surroundings) (c : Crowd) (schedule : List (Nat × Bool)) : Crowd :=
  schedule.foldl (fun c s => c.step w s.1 s.2) c

/-- One round of the schedule in which the threads take turns and no exchange fails without cause. -/
def turn (w : Surroundings) (c : Crowd) : Crowd :=
  c.run w ((List.range c.workers.length).map (·, false))

/-- So many rounds in turns; the run ends when no thread has anything left to do. -/
def takeTurns (w : Surroundings) : Nat → Crowd → Crowd
  | 0, c => c
  | n + 1, c => if c.isDone then c else takeTurns w n (c.turn w)

/-- The number of calls that have not been answered. -/
def pending (c : Crowd) : Nat :=
  c.workers.foldr (fun r n => r.waiting.length + (if r.frame.isSome then 1 else 0) + n) 0

/-- Makes every call in turns. In every few rounds at least one thread gets on with what the others
wait for, and a call has at most nine actions, so the number of rounds is enough for all calls one
after another. -/
def runAll (w : Surroundings) (c : Crowd) : Crowd :=
  takeTurns w (12 * (c.pending + 1)) c

/-- The answers of each thread. -/
def answers (c : Crowd) : List (List Answer) :=
  c.workers.map Worker.answers

end Crowd

end VmSupport
