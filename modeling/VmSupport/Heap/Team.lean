import VmSupport.Heap.Shared

/-!
# Threads on one shared heap

A team is a shared heap with the threads that use it. Each thread has requests that it makes one
after another, and keeps the answers in that order. A **schedule** says, step by step, which thread
acts next and whether an exchange that it tries then fails without cause; every interleaving is the
run of some schedule.
-/

namespace VmSupport.Heap

/-- A thread that makes requests. -/
structure Requester where
  /-- The sizes that it still has to request. -/
  waiting : List Int32
  /-- Where its present request stands, if it is making one. -/
  stage : Option Stage
  /-- The answers to its earlier requests. -/
  answers : List (Except HeapError Handle)

namespace Requester

/-- A thread that has requested nothing yet. -/
def ofSizes (sizes : List Int32) : Requester :=
  { waiting := sizes, stage := none, answers := [] }

/-- Whether the thread has nothing left to do. -/
def isDone (t : Requester) : Bool :=
  match t.stage with
  | none => t.waiting.isEmpty
  | some (.faulted _) => true
  | some _ => false

/-- One action of a thread: it begins a request, takes a step in it, or takes its answer. -/
def step (heap : Shared) (spurious : Bool) (t : Requester) : Requester × Shared × List Log.Event :=
  match t.stage with
  | none =>
    match t.waiting with
    | [] => (t, heap, [])
    | size :: sizes => ({ t with waiting := sizes, stage := some (.start size) }, heap, [])
  | some (.returned answer) =>
    ({ t with stage := none, answers := t.answers ++ [answer] }, heap, [])
  | some stage =>
    let next := stage.step heap spurious
    ({ t with stage := some next.stage }, next.heap, next.events)

end Requester

/-- A shared heap with the threads that use it, and what was reported so far. -/
structure Team where
  heap : Shared
  threads : List Requester
  events : List Log.Event

namespace Team

/-- Whether no thread has anything left to do. -/
def isDone (t : Team) : Bool :=
  t.threads.all Requester.isDone

/-- One action of the thread with this number; nothing happens if there is none. -/
def step (t : Team) (thread : Nat) (spurious : Bool) : Team :=
  match t.threads[thread]? with
  | none => t
  | some r =>
    let (r', heap, events) := r.step t.heap spurious
    { heap, threads := t.threads.set thread r', events := t.events ++ events }

/-- The team after a schedule. -/
def run (t : Team) (schedule : List (Nat × Bool)) : Team :=
  schedule.foldl (fun t s => t.step s.1 s.2) t

/-- One round of the schedule in which the threads take turns and no exchange fails without cause. -/
def turn (t : Team) : Team :=
  t.run ((List.range t.threads.length).map (·, false))

/-- So many rounds in turns; the run ends when no thread has anything left to do. -/
def takeTurns : Nat → Team → Team
  | 0, t => t
  | n + 1, t => if t.isDone then t else takeTurns n t.turn

/-- The number of requests that have not been answered. -/
def pending (t : Team) : Nat :=
  t.threads.foldr (fun r n => r.waiting.length + (if r.stage.isSome then 1 else 0) + n) 0

/-- Serves every request in turns. In two rounds at least one thread that is about to move the
cursor succeeds, and the other stages of a request take one round each, so the number of rounds is
enough for all requests one after another. -/
def serveAll (t : Team) : Team :=
  takeTurns (8 * (t.pending + 1)) t

/-- All answers, thread by thread. -/
def answers (t : Team) : List (Except HeapError Handle) :=
  t.threads.flatMap Requester.answers

end Team

end VmSupport.Heap
