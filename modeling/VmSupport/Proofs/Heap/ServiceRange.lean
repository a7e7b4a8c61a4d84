import VmSupport.Proofs.Heap.Reservation
import VmSupport.Proofs.Heap.ServiceSteps
import VmSupport.Proofs.Heap.TeamRun

/-!
# The arithmetic of the shared heap stays in range

Clients make requests of a shared heap and look at it, in any number and under any schedule. No
subtraction and no addition on the way leaves its range, at no instant.

**The law** (`service_inRange`): the cursor runs through multiples of the granule, never turns back
and never leaves the region. A value that a client works on is one that the cursor had, so it can be
subtracted from the capacity, and an exchange is tried only for a cursor inside the region. What a
look tells goes back to one moment of the cursor, so the used and the remaining bytes of a snapshot
make up the capacity, though the counters beside them may be younger. Snapshots of one client never
go down.

**The invariant** is `Service.Sound`: the cells are as they should be and every client is sound, for
the values that the cursor had so far. `Service.step_sound` is its step and `Service.run_sound` its
run.

The counters are natural numbers here. They add up to no more than the requests that were made, so
they stay among the words as long as the requests do.
-/

namespace VmSupport.Heap

/-! ## Clients -/

namespace Client

/-- What the looks of a client told it. -/
def readings (c : Client) : List Reading :=
  c.results.filterMap Result.reading?

/-- The statistics that a client got. -/
def snapshots (c : Client) : List Stats :=
  c.results.filterMap Result.snapshot?

/-- What is invariably true of a client, for the values that the cursor has had. -/
structure Sound (past : Nat → Prop) (h : Shared) (c : Client) : Prop where
  errand : ∀ {e}, c.errand = some e → e.Sound past (c.snapshots) h
  /-- What it was told goes back to a value of the cursor. -/
  told : ∀ reading ∈ c.readings, ∃ used, past used ∧ reading.Shows h.region.size used
  /-- Its snapshots are no more than the cells hold. -/
  within : ∀ s ∈ c.snapshots, s.Within h.snapshot
  ordered : (c.snapshots).Pairwise Stats.Within

variable {past : Nat → Prop} {h h' : Shared} {c : Client}

theorem sound_ofTasks (past : Nat → Prop) (h : Shared) (tasks : List Task) :
    (ofTasks tasks).Sound past h where
  errand he := by cases he
  told _ hr := by cases hr
  within _ hs := by cases hs
  ordered := .nil

/-- A client stays sound while others work on the heap. -/
theorem Sound.mono (hc : c.Sound past h) (hg : h.Grows h') : c.Sound past h' where
  errand he := (hc.errand he).mono hg
  told reading hr := hg.region_eq ▸ hc.told reading hr
  within s hs := (hc.within s hs).trans hg.within
  ordered := hc.ordered

/-- A client that takes the result of its errand stays sound. -/
theorem Sound.collect {e : Errand} {result : Result} (hc : c.Sound past h)
    (he : c.errand = some e) (hr : e.result? = some result) :
    ({ c with errand := none, results := c.results ++ [result] } : Client).Sound past h := by
  obtain ⟨hreading, hsnapshot⟩ := (hc.errand he).result hr
  refine ⟨?_, ?_, ?_, ?_⟩
  · intro e he
    cases he
  · intro reading hmem
    rw [readings, List.filterMap_append, List.mem_append] at hmem
    obtain hold | hnew := hmem
    · exact hc.told reading hold
    · exact hreading reading (by simpa using hnew)
  · intro s hmem
    rw [snapshots, List.filterMap_append, List.mem_append] at hmem
    obtain hold | hnew := hmem
    · exact hc.within s hold
    · exact (hsnapshot s (by simpa using hnew)).1
  · rw [snapshots, List.filterMap_append, List.pairwise_append]
    refine ⟨hc.ordered, ?_, ?_⟩
    · exact List.pairwise_filterMap.mpr (List.pairwise_singleton _ _)
    · intro s' hold s hnew
      exact (hsnapshot s (by simpa using hnew)).2 s' hold

/-- An action of a client makes the cells grow, and leaves them as they should be. -/
theorem step_grows (hh : h.Sound) (hc : c.Sound past h) (spurious : Bool) :
    h.Grows (c.step h spurious).2.1 ∧ (c.step h spurious).2.1.Sound := by
  cases he : c.errand with
  | none =>
    have hidle : (c.step h spurious).2.1 = h := by
      simp only [step, he]
      cases c.waiting <;> rfl
    rw [hidle]
    exact ⟨.refl h, hh⟩
  | some e =>
    cases hr : e.result? with
    | none =>
      simp only [step, he, hr]
      exact Errand.step_grows hh (hc.errand he) spurious
    | some result =>
      simp only [step, he, hr]
      exact ⟨.refl h, hh⟩

/-- **An action keeps a client sound.** -/
theorem step_sound (hh : h.Sound) (hpast : past h.cursor) (hc : c.Sound past h) (spurious : Bool) :
    (c.step h spurious).1.Sound past (c.step h spurious).2.1 := by
  cases he : c.errand with
  | none =>
    cases hw : c.waiting with
    | nil =>
      simp only [step, he, hw]
      exact hc
    | cons task tasks =>
      simp only [step, he, hw]
      refine ⟨?_, hc.told, hc.within, hc.ordered⟩
      intro e he
      cases he
      exact Errand.sound_ofTask past _ h task
  | some e =>
    cases hr : e.result? with
    | some result =>
      simp only [step, he, hr]
      exact hc.collect he hr
    | none =>
      simp only [step, he, hr]
      have hg := (Errand.step_grows hh (hc.errand he) spurious).1
      have hkept := hc.mono hg
      refine ⟨?_, hkept.told, hkept.within, hkept.ordered⟩
      intro e' he'
      cases he'
      exact Errand.step_sound hh hpast hc.within (hc.errand he) spurious

end Client

/-! ## Requests that are not counted yet -/

/-- Whether a task is a request. -/
def Task.isRequest : Task → Bool
  | .request _ => true
  | .look _ => false

/-- The number of requests among the tasks of several clients. -/
def requestCount (tasks : List (List Task)) : Nat :=
  (tasks.map (List.countP Task.isRequest)).sum

/-- The number of requests that the cells have counted. -/
def Shared.counted (h : Shared) : Nat :=
  h.allocations + h.failedAllocations

/-- How many requests a stage may still have to count. -/
def Stage.due : Stage → Nat
  | .returned _ | .faulted _ => 0
  | _ => 1

/-- How many requests an errand may still have to count. -/
def Errand.due : Errand → Nat
  | .request stage => stage.due
  | .look _ => 0

/-- How many requests a client may still have to count. -/
def Client.due (c : Client) : Nat :=
  c.waiting.countP Task.isRequest + (c.errand.map Errand.due).getD 0

/-- How many requests a service may still have to count. -/
def Service.due (s : Service) : Nat :=
  (s.clients.map Client.due).sum

theorem Service.due_ofTasks (h : Shared) (tasks : List (List Task)) :
    (ofTasks h tasks).due = requestCount tasks := by
  simp only [due, ofTasks, requestCount, List.map_map]
  rfl

/-- A request is counted once at most. -/
theorem Stage.Moves.counted_le {h h' : Shared} {size : Int32} {spurious : Bool}
    {stage stage' : Stage} (hm : Moves h size spurious stage stage' h') :
    h'.counted + stage'.due ≤ h.counted + stage.due := by
  cases hm <;> simp only [Shared.counted, due] <;> omega

theorem Errand.due_ofTask (task : Task) :
    (ofTask task).due = if task.isRequest then 1 else 0 := by
  cases task <;> rfl

theorem Errand.counted_le {past : Nat → Prop} {seen : List Stats} {h : Shared} {e : Errand}
    (hh : h.Sound) (he : e.Sound past seen h) (spurious : Bool) :
    (e.step h spurious).2.1.counted + (e.step h spurious).1.due ≤ h.counted + e.due := by
  cases e with
  | request stage =>
    obtain ⟨⟨size, hstage⟩, -⟩ := he
    exact (Stage.step_moves hh hstage spurious).counted_le
  | look l => exact Nat.le_refl _

theorem Client.counted_le {past : Nat → Prop} {h : Shared} {c : Client} (hh : h.Sound)
    (hc : c.Sound past h) (spurious : Bool) :
    (c.step h spurious).2.1.counted + (c.step h spurious).1.due ≤ h.counted + c.due := by
  cases he : c.errand with
  | none =>
    cases hw : c.waiting with
    | nil =>
      simp only [step, he, hw]
      exact Nat.le_refl _
    | cons task tasks =>
      simp only [step, he, hw, due, Option.map_some, Option.map_none, Option.getD_some,
        Option.getD_none, Errand.due_ofTask, List.countP_cons]
      omega
  | some e =>
    have hdue : c.due = c.waiting.countP Task.isRequest + e.due := by
      rw [due, he]
      rfl
    cases hr : e.result? with
    | some result =>
      simp only [step, he, hr, hdue]
      simp only [due, Option.map_none, Option.getD_none]
      omega
    | none =>
      have hle := Errand.counted_le hh (hc.errand he) spurious
      simp only [step, he, hr, hdue]
      simp only [due, Option.map_some, Option.getD_some]
      omega

/-! ## Services -/

namespace Service

/-- What is invariably true of a service, for the values that the cursor has had. -/
structure Sound (past : Nat → Prop) (s : Service) : Prop where
  heap : s.heap.Sound
  clients : ∀ c ∈ s.clients, c.Sound past s.heap

variable {past : Nat → Prop} {s : Service}

theorem sound_ofTasks (past : Nat → Prop) {h : Shared} (hh : h.Sound) (tasks : List (List Task)) :
    (ofTasks h tasks).Sound past where
  heap := hh
  clients := by
    intro c hc
    obtain ⟨ts, _, rfl⟩ := List.mem_map.mp hc
    exact Client.sound_ofTasks past h ts

/-- One action of a service: it is none, or an action of one of the clients. -/
theorem step_cases (s : Service) (i : Nat) (spurious : Bool) :
    s.step i spurious = s ∨
    ∃ c, s.clients[i]? = some c ∧ (s.step i spurious).heap = (c.step s.heap spurious).2.1 ∧
      (s.step i spurious).clients = s.clients.set i (c.step s.heap spurious).1 := by
  cases hi : s.clients[i]? with
  | none => exact .inl (by simp only [step, hi])
  | some c =>
    refine .inr ⟨c, rfl, ?_, ?_⟩ <;> simp only [step, hi]

/-- An action makes the cells grow. -/
theorem step_grows (hs : s.Sound past) (i : Nat) (spurious : Bool) :
    s.heap.Grows (s.step i spurious).heap := by
  obtain heq | ⟨c, hi, hheap, -⟩ := s.step_cases i spurious
  · rw [heq]
    exact .refl _
  · rw [hheap]
    exact (Client.step_grows hs.heap (hs.clients c (List.mem_of_getElem? hi)) spurious).1

/-- **An action keeps a service sound.** -/
theorem step_sound (hs : s.Sound past) (hpast : past s.heap.cursor) (i : Nat) (spurious : Bool) :
    (s.step i spurious).Sound past := by
  have hgrows := step_grows hs i spurious
  obtain heq | ⟨c, hi, hheap, hclients⟩ := s.step_cases i spurious
  · rw [heq]
    exact hs
  · have hc := hs.clients c (List.mem_of_getElem? hi)
    refine ⟨?_, ?_⟩
    · rw [hheap]
      exact (Client.step_grows hs.heap hc spurious).2
    · intro d hd
      rw [hclients] at hd
      obtain hold | rfl := List.mem_or_eq_of_mem_set hd
      · exact (hs.clients d hold).mono hgrows
      · rw [hheap]
        exact Client.step_sound hs.heap hpast hc spurious

/-- An action counts no request twice. -/
theorem step_counted_le (hs : s.Sound past) (i : Nat) (spurious : Bool) :
    (s.step i spurious).heap.counted + (s.step i spurious).due ≤ s.heap.counted + s.due := by
  obtain heq | ⟨c, hi, hheap, hclients⟩ := s.step_cases i spurious
  · exact Nat.le_of_eq (by rw [heq])
  · have hle := Client.counted_le hs.heap (hs.clients c (List.mem_of_getElem? hi)) spurious
    obtain ⟨rest, hsum, hset⟩ := exists_sum_map_set Client.due hi
    rw [due, due, hheap, hclients, hset, hsum]
    omega

theorem run_append (s : Service) (before after : List (Nat × Bool)) :
    s.run (before ++ after) = (s.run before).run after :=
  List.foldl_append

/-- **Every schedule keeps a service sound**, for any values among which the cursor runs. -/
theorem run_sound (hs : s.Sound past) (schedule : List (Nat × Bool))
    (hpast : ∀ before after, schedule = before ++ after → past (s.run before).heap.cursor) :
    (s.run schedule).Sound past := by
  induction schedule generalizing s with
  | nil => exact hs
  | cons a schedule ih =>
    refine ih (step_sound hs (hpast [] _ rfl) a.1 a.2) ?_
    intro before after heq
    exact hpast (a :: before) after (congrArg (a :: ·) heq)

/-- A run makes the cells grow. -/
theorem run_grows (hs : s.Sound fun _ => True) (schedule : List (Nat × Bool)) :
    s.heap.Grows (s.run schedule).heap := by
  induction schedule generalizing s with
  | nil => exact .refl _
  | cons a schedule ih =>
    exact (step_grows hs a.1 a.2).trans (ih (step_sound hs trivial a.1 a.2))

/-- A run counts no request twice. -/
theorem run_counted_le (hs : s.Sound fun _ => True) (schedule : List (Nat × Bool)) :
    (s.run schedule).heap.counted + (s.run schedule).due ≤ s.heap.counted + s.due := by
  induction schedule generalizing s with
  | nil => exact Nat.le_refl _
  | cons a schedule ih =>
    exact Nat.le_trans (ih (step_sound hs trivial a.1 a.2)) (step_counted_le hs a.1 a.2)

/-! ## The range -/

/-- The cursor had this value at some moment of the run, which may be the last one. -/
def CursorWas (start : Service) (schedule : List (Nat × Bool)) (v : Nat) : Prop :=
  ∃ before after, schedule = before ++ after ∧ (start.run before).heap.cursor = v

end Service

/-- The value of the cursor that a client has in its hands. -/
def Client.held? (c : Client) : Option Nat :=
  match c.errand with
  | some (.request stage) => stage.held?
  | some (.look (.read _ used)) | some (.look (.grants used _)) |
    some (.look (.refusals used _ _)) => some used
  | _ => none

/-- Whether the arithmetic of a client has left the range of words. -/
def Client.HasFaulted (c : Client) : Prop :=
  ∃ f, c.errand = some (.request (.faulted f)) ∨ c.errand = some (.look (.faulted f))

/-- **The arithmetic stayed in range** up to the end of a run, on a heap of this capacity whose
clients have so many requests to make. -/
structure Service.InRange (capacity requests : Nat) (start : Service)
    (schedule : List (Nat × Bool)) : Prop where
  /-- The cursor is a multiple of the granule, and lies in the region. -/
  cursor : granuleBytes ∣ (start.run schedule).heap.cursor ∧
    (start.run schedule).heap.cursor ≤ capacity
  /-- It is nowhere behind where it was before. -/
  forward : ∀ v, start.CursorWas schedule v → v ≤ (start.run schedule).heap.cursor
  /-- What a client has in its hands is a value that the cursor had, so it can be subtracted from
  the capacity. -/
  held : ∀ c ∈ (start.run schedule).clients, ∀ v, c.held? = some v →
    start.CursorWas schedule v ∧ granuleBytes ∣ v ∧ v ≤ capacity
  /-- Where an exchange is about to be tried, the new cursor is inside the region. -/
  exchange : ∀ c ∈ (start.run schedule).clients, ∀ size rounded current next,
    c.errand = some (.request (.exchange size rounded current next)) →
      next = current + rounded ∧ current + rounded ≤ capacity
  noFault : ∀ c ∈ (start.run schedule).clients, ¬ c.HasFaulted
  /-- What a look told goes back to one moment of the cursor; in particular the used and the
  remaining bytes of a snapshot make up the capacity. -/
  told : ∀ c ∈ (start.run schedule).clients, ∀ reading ∈ c.readings,
    ∃ used, start.CursorWas schedule used ∧ reading.Shows capacity used
  /-- Later snapshots of a client show no less than its earlier ones. -/
  ordered : ∀ c ∈ (start.run schedule).clients, c.snapshots.Pairwise Stats.Within
  /-- No snapshot shows more than the cells hold. -/
  within : ∀ c ∈ (start.run schedule).clients, ∀ s ∈ c.snapshots,
    s.Within (start.run schedule).heap.snapshot
  /-- No request is counted twice. -/
  counted : (start.run schedule).heap.counted ≤ requests

namespace Client.Sound

variable {past : Nat → Prop} {h : Shared} {c : Client}

/-- The value that a sound client works on is one that the cursor has had. -/
theorem past_of_held (hc : c.Sound past h) {v : Nat} (hv : c.held? = some v) : past v := by
  cases he : c.errand with
  | none =>
    rw [held?, he] at hv
    cases hv
  | some e =>
    have hsound := hc.errand he
    rw [held?, he] at hv
    cases e with
    | request stage => exact hsound.2 v hv
    | look l => cases l <;> cases hv <;> exact hsound.1.1

/-- A sound client that is about to exchange has made sure that there is room. -/
theorem exchange (hc : c.Sound past h) {size : Int32} {rounded current next : Nat}
    (he : c.errand = some (.request (.exchange size rounded current next))) :
    next = current + rounded ∧ current + rounded ≤ h.region.size := by
  obtain ⟨⟨_, -, -, -, -, hnext, hfits⟩, -⟩ := hc.errand he
  exact ⟨hnext, hnext ▸ hfits⟩

theorem not_hasFaulted (hc : c.Sound past h) : ¬ c.HasFaulted := by
  rintro ⟨f, he | he⟩
  · obtain ⟨⟨_, hstage⟩, -⟩ := hc.errand he
    exact hstage
  · exact (hc.errand he).1

end Client.Sound

namespace Service

variable {start : Service}

/-- A value that the cursor had lies in the region, and the cursor has gone on from there. -/
theorem CursorWas.le_cursor {schedule : List (Nat × Bool)} {v : Nat}
    (hv : start.CursorWas schedule v) (hs : start.Sound fun _ => True) :
    granuleBytes ∣ v ∧ v ≤ start.heap.region.size ∧ v ≤ (start.run schedule).heap.cursor := by
  obtain ⟨before, after, rfl, rfl⟩ := hv
  have hbefore : (start.run before).Sound fun _ => True :=
    run_sound hs before fun _ _ _ => trivial
  obtain ⟨hdvd, hle⟩ := hbefore.heap
  refine ⟨hdvd, ?_, ?_⟩
  · rw [← (run_grows hs before).region_eq]
    exact hle
  · rw [run_append]
    exact (run_grows hbefore after).within.used

/-- A service that nobody has used yet stays in range, whatever the schedule. -/
theorem run_inRange (hs : ∀ past, start.Sound past) (schedule : List (Nat × Bool)) :
    start.InRange start.heap.region.size (start.heap.counted + start.due) schedule := by
  have hrun : (start.run schedule).Sound (start.CursorWas schedule) :=
    run_sound (hs _) schedule fun before after heq => ⟨before, after, heq, rfl⟩
  have hregion : (start.run schedule).heap.region = start.heap.region :=
    (run_grows (hs _) schedule).region_eq
  exact
    { cursor := hregion ▸ hrun.heap
      forward := fun v hv => (hv.le_cursor (hs _)).2.2
      held := by
        intro c hc v hv
        have hwas := (hrun.clients c hc).past_of_held hv
        obtain ⟨hdvd, hle, -⟩ := hwas.le_cursor (hs _)
        exact ⟨hwas, hdvd, hle⟩
      exchange := by
        intro c hc size rounded current next he
        rw [← hregion]
        exact (hrun.clients c hc).exchange he
      noFault := fun c hc => (hrun.clients c hc).not_hasFaulted
      told := by
        intro c hc
        rw [← hregion]
        exact (hrun.clients c hc).told
      ordered := fun c hc => (hrun.clients c hc).ordered
      within := fun c hc => (hrun.clients c hc).within
      counted := Nat.le_trans (Nat.le_add_right _ _) (run_counted_le (hs _) schedule) }

end Service

/-- **The arithmetic of the shared heap stays in range**: for every capacity that can be reserved,
any clients with any tasks, and every schedule of their steps. -/
theorem service_inRange {host : Host} {capacity : Nat} {h : Shared}
    (hh : Shared.withCapacity host capacity = .ok h) (tasks : List (List Task))
    (schedule : List (Nat × Bool)) :
    (Service.ofTasks h tasks).InRange capacity (requestCount tasks) schedule := by
  obtain ⟨r, rfl, rfl⟩ := Shared.withCapacity_eq_ok hh
  have hstart : ∀ past, (Service.ofTasks (Shared.ofRegion r) tasks).Sound past := fun past =>
    Service.sound_ofTasks past (Shared.sound_ofRegion r) tasks
  have hrange := Service.run_inRange hstart schedule
  have hrequests : (Service.ofTasks (Shared.ofRegion r) tasks).heap.counted +
      (Service.ofTasks (Shared.ofRegion r) tasks).due = requestCount tasks := by
    rw [Service.due_ofTasks]
    exact Nat.zero_add _
  rw [hrequests] at hrange
  exact hrange

/-- Two clients on eight bytes: the second reads the cursor for its statistics, the first is granted
all eight bytes, and the second goes on. Its snapshot shows an empty heap with one grant. -/
theorem service_inRange_contended :
    let tasks := [[.request 5], [.look .stats]]
    let schedule :=
      List.replicate 2 (1, false) ++ List.replicate 7 (0, false) ++ List.replicate 4 (1, false)
    ∃ h, Shared.withCapacity Host.ample 8 = .ok h ∧
      (Service.ofTasks h tasks).InRange 8 (requestCount tasks) schedule ∧
      ((Service.ofTasks h tasks).run schedule).clients.map Client.snapshots = [[],
        [{ capacity := 8, used := 0, remaining := 8, allocations := 1, failedAllocations := 0 }]] :=
  ⟨_, rfl, @service_inRange Host.ample 8 _ rfl _ _, rfl⟩

end VmSupport.Heap
