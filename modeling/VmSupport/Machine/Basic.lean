import VmSupport.Heap.Shared
import VmSupport.Log.Logger
import VmSupport.Long.Entry
import VmSupport.Machine.Status
import VmSupport.Settings.Search

/-!
# The state of a process

Generated code names no heap when it asks for memory, so a process has one, put in place once and for
all. Beside it there are the logger and, for each thread, the status of its last call that records
one.

A call either returns, or aborts the process, or faults. A fault goes up to the caller, who may go
on after it; the starts from outside have no such caller and abort. One kind of fault does happen,
when the log is installed: the filter in the environment is cut inside a character. That the sums
and differences of words never fault is something to prove: the steps of a call that could are
carried out by operations that say so.

`history` keeps what was done to the logger, in order. No call looks at it; it is what the written
log is compared with.
-/

namespace VmSupport

/-- What a process finds when it starts, and what stays as it is. -/
structure Surroundings where
  host : Heap.Host
  /-- The texts of the environment's variables. -/
  environment : Settings.Lookup
  /-- The current directory. -/
  current : Files.Place
  /-- The texts that can be the value of a field in a filter. -/
  patterns : Log.Patterns

/-- The variable that may hold a filter. -/
def filterVariable : String := "RUST_LOG"

/-- How a call ends. -/
inductive Outcome (α : Type) where
  | returned (value : α)
  | aborted
  | faulted (fault : Fault)

/-- The state of a process. -/
structure Machine where
  /-- The heap, once it is in place. -/
  heap : Option Heap.Shared
  /-- The status of the last call of each thread that records one. -/
  statuses : Nat → Status
  logger : Log.Logger
  /-- What was done to the logger. -/
  history : List Log.Act

namespace Machine

/-- A fresh process. -/
def fresh : Machine :=
  { heap := none, statuses := fun _ => .ok, logger := .fresh, history := [] }

/-- Does something to the logger. -/
def act (m : Machine) (a : Log.Act) : Machine :=
  { m with logger := m.logger.act a, history := m.history ++ [a] }

/-- Reports an event. -/
def report (m : Machine) (e : Log.Event) : Machine :=
  m.act (.event e)

/-- Reports events in their order. -/
def reportAll (m : Machine) (es : List Log.Event) : Machine :=
  es.foldl report m

/-- Records the status of a thread's last call. -/
def record (m : Machine) (thread : Nat) (s : Status) : Machine :=
  { m with statuses := fun t => if t = thread then s else m.statuses t }

/-- Puts a heap in place. -/
def withHeap (m : Machine) (h : Heap.Shared) : Machine :=
  { m with heap := some h }

@[simp] theorem act_heap (m : Machine) (a : Log.Act) : (m.act a).heap = m.heap := rfl

@[simp] theorem act_statuses (m : Machine) (a : Log.Act) : (m.act a).statuses = m.statuses := rfl

@[simp] theorem report_heap (m : Machine) (e : Log.Event) : (m.report e).heap = m.heap := rfl

@[simp] theorem report_statuses (m : Machine) (e : Log.Event) :
    (m.report e).statuses = m.statuses := rfl

@[simp] theorem record_heap (m : Machine) (t : Nat) (s : Status) :
    (m.record t s).heap = m.heap := rfl

@[simp] theorem record_statuses_same (m : Machine) (t : Nat) (s : Status) :
    (m.record t s).statuses t = s := by
  simp [record]

theorem record_statuses_other (m : Machine) {t u : Nat} (s : Status) (h : u ≠ t) :
    (m.record t s).statuses u = m.statuses u := by
  simp [record, h]

@[simp] theorem reportAll_heap (m : Machine) (es : List Log.Event) :
    (m.reportAll es).heap = m.heap := by
  induction es generalizing m with
  | nil => rfl
  | cons e es ih => exact ih (m.report e)

@[simp] theorem reportAll_statuses (m : Machine) (es : List Log.Event) :
    (m.reportAll es).statuses = m.statuses := by
  induction es generalizing m with
  | nil => rfl
  | cons e es ih => exact ih (m.report e)

end Machine

end VmSupport
