import VmSupport.Machine.Allocate
import VmSupport.Machine.Startup

/-!
# Calls and runs

All that can be asked of a process, in one type, with what is answered in another. A run makes calls
one after another, each on a thread, and ends with the first that does not return.
-/

namespace VmSupport

open Heap (HeapError)
open Settings (SettingsError Rejection)

/-- What can be asked of a process. -/
inductive Call where
  /-- The start from outside with a capacity. -/
  | start (capacity : Nat)
  /-- The start from outside with the settings that are found. -/
  | startDefault
  /-- The end from outside. -/
  | shutdown
  | flushLog
  /-- Put a heap in place. -/
  | init (capacity : Nat)
  /-- Start the log, then put a heap in place. -/
  | bootstrap (settings : Settings)
  /-- The plain call for memory. -/
  | allocate (size : Int32)
  /-- The checked call for memory. -/
  | allocateChecked (isNull : Bool) (size : Int32)
  | heapBase
  | heapUsed
  | heapCapacity
  | lastStatus
  | stats
  /-- A call of long arithmetic on some memory. -/
  | long (memory : Long.Memory) (call : Long.Call)
  | discover
  /-- Read the settings file at a path. -/
  | load (path : String)
  /-- Override settings from the environment. -/
  | override (settings : Settings)
  /-- Install the library's logger and hand it to the caller. -/
  | installLog (log : LogSettings)
  /-- Install a foreign receiver. -/
  | occupyLog
  | isLogInstalled
  /-- Report an event. -/
  | report (event : Log.Event)

/-- What is said past the logger when the call aborts the process. A start is aborted by a fault; a
division by zero has been reported to the logger. -/
def Call.notice? : Call → Option String
  | .start _ | .startDefault => some Machine.faultNotice
  | _ => none

/-- What is answered. -/
inductive Answer where
  | done
  | status (s : Status)
  | started (result : Except HeapError Nat)
  | number (n : Nat)
  | checked (s : Status) (written : Option Nat)
  | stats (s : Option Heap.Stats)
  | memory (m : Long.Memory)
  | settings (s : Settings)
  | loaded (result : Except SettingsError Settings)
  | overridden (s : Settings) (complaint : Option Rejection)
  | flag (b : Bool)

namespace Outcome

/-- The outcome with another value. -/
def map {α β : Type} (f : α → β) : Outcome α → Outcome β
  | returned a => returned (f a)
  | aborted => aborted
  | faulted e => faulted e

end Outcome

namespace Machine

/-- A call of long arithmetic. A null pointer is reported, and the memory stays as it is; a zero
divisor is reported, the log is written out, and the process is aborted. -/
def long (memory : Long.Memory) (c : Long.Call) (m : Machine) : Outcome Long.Memory × Machine :=
  match c.run memory with
  | .wrote after => (.returned after, m)
  | .rejected => (.returned memory, m.report (.callRejected c.name "null pointer argument"))
  | .zeroDivisor =>
    (.aborted, (m.report (.arithmeticFault c.name "division by zero")).flushLog)
  | .faulted f => (.faulted f, m)

/-- Makes a call on a thread. -/
def call (w : Surroundings) (thread : Nat) (m : Machine) : Call → Outcome Answer × Machine
  | .start capacity =>
    let (o, m) := startWith w thread capacity m
    (o.map .status, m)
  | .startDefault =>
    let (o, m) := startDefault w thread m
    (o.map .status, m)
  | .shutdown =>
    let (o, m) := m.shutdown
    (o.map fun _ => .done, m)
  | .flushLog => (.returned .done, m.flushLog)
  | .init capacity =>
    let (r, m) := init w capacity m
    (.returned (.started r), m)
  | .bootstrap settings =>
    match bootstrap w settings m with
    | .ok (r, m) => (.returned (.started r), m)
    | .error f => (.faulted f, m)
  | .allocate size =>
    let (o, m) := allocate thread size m
    (o.map .number, m)
  | .allocateChecked isNull size =>
    let (o, m) := allocateChecked thread isNull size m
    (o.map fun (s, written) => .checked s written, m)
  | .heapBase => (.returned (.number m.heapBase), m)
  | .heapUsed => (.returned (.number m.heapUsed), m)
  | .heapCapacity => (.returned (.number m.heapCapacity), m)
  | .lastStatus => (.returned (.status (m.statuses thread)), m)
  | .stats => (m.stats.map .stats, m)
  | .long memory c =>
    let (o, m) := long memory c m
    (o.map .memory, m)
  | .discover =>
    let (s, m) := discover w m
    (.returned (.settings s), m)
  | .load path => (.returned (.loaded (Settings.parseFile (Files.readAt w.current path))), m)
  | .override settings =>
    let (s, complaint) := settings.tryOverride w.environment
    (.returned (.overridden s complaint), m)
  | .installLog log =>
    match installLog w false log m with
    | .ok (b, m) => (.returned (.flag b), m)
    | .error f => (.faulted f, m)
  | .occupyLog =>
    let (b, m) := m.occupyLog
    (.returned (.flag b), m)
  | .isLogInstalled => (.returned (.flag m.logger.isInstalled), m)
  | .report e => (.returned .done, m.report e)

/-- How a run ends. -/
inductive Ending where
  | finished
  | aborted
  | faulted (fault : Fault)
  deriving DecidableEq, Repr

/-- Makes calls one after another, up to the first that does not return: the answers, the ending, and
the state of the process then. -/
def run (w : Surroundings) (m : Machine) : List (Nat × Call) → List Answer × Ending × Machine
  | [] => ([], .finished, m)
  | (thread, c) :: rest =>
    match m.call w thread c with
    | (.returned a, m) =>
      let (answers, ending, last) := run w m rest
      (a :: answers, ending, last)
    | (.aborted, m) => ([], .aborted, m)
    | (.faulted f, m) => ([], .faulted f, m)

end Machine

end VmSupport
