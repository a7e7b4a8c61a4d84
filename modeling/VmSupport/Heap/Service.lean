import VmSupport.Heap.Team

/-!
# Threads that look at the shared heap while others use it

Besides its requests a thread can look at the shared heap: ask how much is used, how much is left,
or for the statistics. A look is no single action either. It reads the cursor first and works on
that value from then on; for the statistics it reads the two counters afterwards, one by one, while
other threads go on. `Look` says where a look stands, and `Look.step` is one indivisible action.

A **service** is a shared heap with clients that make requests and look at it, each one thing after
another. Schedules are those of a team, and a service whose clients only make requests is a team
(`Service.ofTeam_run`).

**Alone** (`Look.runAlone_start`): without interference a look tells what `Shared.look` says.
-/

namespace VmSupport.Heap

/-! ## Looks -/

/-- What can be asked about a heap. -/
inductive View where
  | used
  | remaining
  | stats
  deriving DecidableEq, Repr

/-- What a look at a heap tells. -/
inductive Reading where
  | used (bytes : Nat)
  | remaining (bytes : Nat)
  | stats (stats : Stats)
  deriving DecidableEq, Repr

/-- What a look tells while nobody else touches the heap. -/
def Shared.look (h : Shared) : View → Except Fault Reading
  | .used => .ok (.used h.used)
  | .remaining => h.remaining.map .remaining
  | .stats => h.stats.map .stats

/-- Where a look stands. -/
inductive Look where
  /-- It is about to read the cursor. -/
  | start (view : View)
  /-- It has read the cursor. -/
  | read (view : View) (used : Nat)
  /-- It is about to read the number of grants, for the statistics. -/
  | grants (used remaining : Nat)
  /-- It is about to read the number of refusals, for the statistics. -/
  | refusals (used remaining allocations : Nat)
  /-- It is done. -/
  | told (reading : Reading)
  /-- Its arithmetic left the range of words. -/
  | faulted (fault : Fault)

namespace Look

/-- One indivisible action. A look changes nothing on the heap, and one that is done stays where it
is. -/
def step (heap : Shared) : Look → Look
  | .start view => .read view heap.cursor
  | .read .used used => .told (.used used)
  | .read .remaining used =>
    match Fault.subtractWords heap.region.size used with
    | .error f => .faulted f
    | .ok remaining => .told (.remaining remaining)
  | .read .stats used =>
    match Fault.subtractWords heap.region.size used with
    | .error f => .faulted f
    | .ok remaining => .grants used remaining
  | .grants used remaining => .refusals used remaining heap.allocations
  | .refusals used remaining allocations =>
    .told (.stats
      { capacity := heap.region.size, used, remaining, allocations
        failedAllocations := heap.failedAllocations })
  | .told reading => .told reading
  | .faulted f => .faulted f

/-- So many actions of a look, while nobody else touches the heap. -/
def runAlone (heap : Shared) : Nat → Look → Look
  | 0, l => l
  | n + 1, l => runAlone heap n (l.step heap)

/-- What a look that is done has come to. -/
def ofResult : Except Fault Reading → Look
  | .ok reading => .told reading
  | .error f => .faulted f

/-- Four steps without interference serve a look. -/
theorem runAlone_start (h : Shared) (view : View) :
    runAlone h 4 (.start view) = ofResult (h.look view) := by
  cases hs : Fault.subtractWords h.region.size h.cursor <;> cases view <;>
    simp [runAlone, step, ofResult, Shared.look, Shared.stats, Shared.remaining, Shared.used, hs,
      Except.map]

end Look

/-! ## Clients -/

/-- What a client can have to do. -/
inductive Task where
  | request (size : Int32)
  | look (view : View)
  deriving DecidableEq, Repr

/-- What a client is in the middle of. -/
inductive Errand where
  | request (stage : Stage)
  | look (look : Look)

/-- What a client has got for a task. -/
inductive Result where
  | answer (answer : Except HeapError Handle)
  | reading (reading : Reading)

namespace Errand

/-- A task that is taken up. -/
def ofTask : Task → Errand
  | .request size => .request (.start size)
  | .look view => .look (.start view)

/-- The result, once there is one. -/
def result? : Errand → Option Result
  | .request (.returned answer) => some (.answer answer)
  | .look (.told reading) => some (.reading reading)
  | _ => none

/-- One indivisible action: the errand and the heap afterwards, and what was reported. -/
def step (heap : Shared) (spurious : Bool) : Errand → Errand × Shared × List Log.Event
  | .request stage =>
    let next := stage.step heap spurious
    (.request next.stage, next.heap, next.events)
  | .look l => (.look (l.step heap), heap, [])

end Errand

/-- A thread that makes requests and looks at the heap. -/
structure Client where
  /-- What it still has to begin. -/
  waiting : List Task
  /-- What it is in the middle of. -/
  errand : Option Errand
  /-- What it has got for its earlier tasks. -/
  results : List Result

namespace Client

/-- A client that has not begun anything yet. -/
def ofTasks (tasks : List Task) : Client :=
  { waiting := tasks, errand := none, results := [] }

/-- One action of a client: it begins a task, takes a step in it, or takes its result. -/
def step (heap : Shared) (spurious : Bool) (c : Client) : Client × Shared × List Log.Event :=
  match c.errand with
  | none =>
    match c.waiting with
    | [] => (c, heap, [])
    | task :: tasks => ({ c with waiting := tasks, errand := some (.ofTask task) }, heap, [])
  | some errand =>
    match errand.result? with
    | some result => ({ c with errand := none, results := c.results ++ [result] }, heap, [])
    | none =>
      let next := errand.step heap spurious
      ({ c with errand := some next.1 }, next.2)

/-- A requester is a client that does not look. -/
def ofRequester (r : Requester) : Client :=
  { waiting := r.waiting.map .request, errand := r.stage.map .request
    results := r.answers.map .answer }

/-- A requester acts as the client that it is. -/
theorem ofRequester_step (heap : Shared) (spurious : Bool) (r : Requester) :
    (ofRequester r).step heap spurious =
      (ofRequester (r.step heap spurious).1, (r.step heap spurious).2) := by
  obtain ⟨waiting, stage, answers⟩ := r
  cases stage with
  | none => cases waiting <;> simp [ofRequester, step, Requester.step, Errand.ofTask]
  | some stage =>
    cases stage <;>
      simp [ofRequester, step, Requester.step, Errand.result?, Errand.step]

end Client

/-! ## Services -/

/-- A shared heap with its clients, and what was reported so far. -/
structure Service where
  heap : Shared
  clients : List Client
  events : List Log.Event

namespace Service

/-- Clients that are about to do these tasks on a heap. -/
def ofTasks (h : Shared) (tasks : List (List Task)) : Service :=
  { heap := h, clients := tasks.map Client.ofTasks, events := [] }

/-- One action of the client with this number; nothing happens if there is none. -/
def step (s : Service) (client : Nat) (spurious : Bool) : Service :=
  match s.clients[client]? with
  | none => s
  | some c =>
    let (c', heap, events) := c.step s.heap spurious
    { heap, clients := s.clients.set client c', events := s.events ++ events }

/-- The service after a schedule. -/
def run (s : Service) (schedule : List (Nat × Bool)) : Service :=
  schedule.foldl (fun s a => s.step a.1 a.2) s

/-- A team is a service whose clients do not look. -/
def ofTeam (t : Team) : Service :=
  { heap := t.heap, clients := t.threads.map .ofRequester, events := t.events }

theorem ofTeam_step (t : Team) (thread : Nat) (spurious : Bool) :
    (ofTeam t).step thread spurious = ofTeam (t.step thread spurious) := by
  simp only [step, Team.step, ofTeam, List.getElem?_map]
  cases t.threads[thread]? with
  | none => rfl
  | some r => simp only [Option.map_some, Client.ofRequester_step, List.map_set]

/-- **A team runs as the service that it is**, whatever the schedule. -/
theorem ofTeam_run (t : Team) (schedule : List (Nat × Bool)) :
    (ofTeam t).run schedule = ofTeam (t.run schedule) := by
  induction schedule generalizing t with
  | nil => rfl
  | cons a schedule ih =>
    show ((ofTeam t).step a.1 a.2).run schedule = _
    rw [ofTeam_step, ih]
    rfl

end Service

end VmSupport.Heap
