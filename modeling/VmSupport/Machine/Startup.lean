import VmSupport.Machine.Basic

/-!
# Starting and ending

The heap is put in place at most once. Starting takes the logger first, so that what happens to the
heap can be reported, and the logger stays whatever becomes of the heap. A start from outside first
puts its settings together: from the environment alone, with a capacity of its own if that is not
zero, or from the nearest settings file. A complaint about these ends the start before the logger is
touched.
-/

namespace VmSupport.Machine

open Heap (HeapError Shared)
open Settings (SettingsError)

/-- Takes the place of the receiver for the library's logger, if it is free. Says whether it was. The
filter is put together even if the place is taken by a foreign receiver. -/
def installLog (w : Surroundings) (held : Bool) (log : LogSettings) (m : Machine) :
    Except Fault (Bool × Machine) :=
  if m.logger.isInstalled then
    .ok (false, m)
  else
    match Log.Filter.build w.patterns (w.environment filterVariable) log.level log.filter with
    | .error f => .error f
    | .ok (filter, refused) =>
      let m := m.reportAll (refused.map .directiveIgnored)
      .ok (m.logger.isVacant, m.act (.install filter log.layout held))

/-- Takes the place of the receiver for a foreign one, if it is free. Says whether it was. -/
def occupyLog (m : Machine) : Bool × Machine :=
  (m.logger.isVacant, m.act .occupy)

/-- Writes out the log, and closes it if the library holds it. -/
def flushLog (m : Machine) : Machine :=
  m.act .flush

/-- Puts a heap in place, unless there is one. Answers its capacity. -/
def init (w : Surroundings) (capacity : Nat) (m : Machine) : Except HeapError Nat × Machine :=
  match m.heap with
  | some _ => (.error .alreadyInitialized, m)
  | none =>
    match Shared.withCapacity w.host capacity with
    | .error e => (.error e, m)
    | .ok h =>
      let m := (m.report h.region.reserved).withHeap h
      (.ok h.region.size, m.report (.initialized h.region.base h.region.size))

/-- Starts the log, then puts a heap in place. -/
def bootstrap (w : Surroundings) (s : Settings) (m : Machine) :
    Except Fault (Except HeapError Nat × Machine) :=
  match installLog w true s.log m with
  | .error f => .error f
  | .ok (_, m) => .ok (init w s.capacity m)

/-- The name under which both starts from outside report. -/
def startName : String := "vm_runtime_init"

/-- Reports a complaint about a start and records its status. -/
def refuseStart (thread : Nat) (status : Status) (cause : String) (m : Machine) :
    Status × Machine :=
  (status, (m.report (.callRejected startName cause)).record thread status)

/-- What a process that a fault aborts says at its end, past the logger. -/
def faultNotice : String := "thread caused non-unwinding panic. aborting."

/-- Starts with settings that have been put together. A fault on the way aborts the process. -/
def start (w : Surroundings) (thread : Nat) (s : Settings) (m : Machine) : Outcome Status × Machine :=
  match bootstrap w s m with
  | .error _ => (.aborted, m)
  | .ok (.ok _, m) => (.returned .ok, m.record thread .ok)
  | .ok (.error e, m) =>
    let (status, m) := m.refuseStart thread (.ofHeapError e) e.message
    (.returned status, m)

/-- The settings of a start with a capacity, or the status and the cause for which there are none. -/
def startSettings (w : Surroundings) (capacity : Nat) : Except (Status × String) Settings :=
  match Settings.override w.environment {} with
  | .error r => .error (.ofSettingsError (.rejected r), r.message)
  | .ok s =>
    if capacity = 0 then
      .ok s
    else
      match { s with capacity }.rejection? with
      | some r => .error (.invalidCapacity, r.message)
      | none => .ok { s with capacity }

/-- The start from outside with a capacity; zero leaves the capacity to the environment. -/
def startWith (w : Surroundings) (thread capacity : Nat) (m : Machine) :
    Outcome Status × Machine :=
  match startSettings w capacity with
  | .error (status, cause) =>
    let (status, m) := m.refuseStart thread status cause
    (.returned status, m)
  | .ok s => start w thread s m

/-- Looks for settings, and reports what was ignored. -/
def discover (w : Surroundings) (m : Machine) : Settings × Machine :=
  let (s, events) := Settings.discover w.current w.environment
  (s, m.reportAll events)

/-- The start from outside with the settings that are found. -/
def startDefault (w : Surroundings) (thread : Nat) (m : Machine) : Outcome Status × Machine :=
  let (s, m) := discover w m
  start w thread s m

/-- Reports how much of the heap was used, and writes out the log. -/
def shutdown (m : Machine) : Outcome Unit × Machine :=
  match m.heap with
  | none => (.returned (), m.flushLog)
  | some h =>
    match h.stats with
    | .error f => (.faulted f, m)
    | .ok stats =>
      (.returned (), (m.report (.shuttingDown stats.used stats.allocations)).flushLog)

end VmSupport.Machine
