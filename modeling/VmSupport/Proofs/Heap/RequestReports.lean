import VmSupport.Proofs.Heap.Alone

/-!
# What a heap reports about requests

A request that is granted is reported, so is one that does not fit, and a negative size is not
(`Announces`). What has to be reported follows from the request and its answer alone: what either
kind of heap does on the way, and in which order it counts, is not mentioned.

**One request** (`Bump.allocate_announces`): the bump heap reports what it has to. The shared heap in
the hands of one thread serves as the bump heap does, so it reports the same.

**A run** (`Bump.episodes_eq`, `Bump.shared_episodes`): requests that are served one after another
leave an episode each behind, with the answer and the reports. The episodes are the same for both
kinds of heap, and for two heaps of one size wherever their regions lie. The counters of the heap are
the numbers of the reports (`count_reports`).
-/

namespace VmSupport.Heap

/-! ## One request -/

/-- **What has to be reported** of a request that came to this answer: a grant with the size that was
asked for and the offset that was answered; a request that did not fit with the sentence for the
cause that was answered; and nothing of a negative size. -/
inductive Announces (size : Int32) : Except HeapError Handle → List Log.Event → Prop
  | granted {handle : Handle} {e : Log.Event} (hlevel : e.level = .trace)
    (hmessage : e.message = "allocated")
    (hfields : e.fields =
      [("size_bytes", .number size.toInt), ("offset", .number handle.offset)]) :
    Announces size (.ok handle) [e]
  | refused {requested remaining : Nat} {e : Log.Event} (hlevel : e.level = .warn)
    (hmessage : e.message = "allocation failed")
    (hfields : e.fields =
      [("error", .sentence (HeapError.outOfMemory requested remaining).message)]) :
    Announces size (.error (.outOfMemory requested remaining)) [e]
  | negative : Announces size (.error (.invalidSize size)) []

/-- The bump heap reports what it has to. -/
theorem Bump.allocate_announces (b : Bump) (size : Int32) :
    Announces size (b.allocate size).answer (b.allocate size).events := by
  obtain ⟨-, hr⟩ | ⟨-, -, hr⟩ | ⟨-, -, hr⟩ := b.allocate_cases size <;> rw [hr]
  · exact .negative
  · exact .refused rfl rfl rfl
  · exact .granted rfl rfl rfl

/-! ## Requests one after another -/

/-- A request that was served: its size, its answer, and what was reported. -/
structure Episode where
  size : Int32
  answer : Except HeapError Handle
  events : List Log.Event

/-- Requests with their answers, as a history. -/
def historyOf (es : List Episode) : History :=
  es.map fun e => (e.size, e.answer)

/-- What was reported, in order. -/
def reportsOf (es : List Episode) : List Log.Event :=
  es.flatMap Episode.events

/-- Serves requests one after another, as long as none faults. -/
def episodes {Heap : Type} (serve : Heap → Int32 → Except Fault (Reply Heap)) (h : Heap) :
    List Int32 → Except Fault (List Episode × Heap)
  | [] => .ok ([], h)
  | size :: sizes =>
    match serve h size with
    | .error f => .error f
    | .ok reply =>
      (episodes serve reply.heap sizes).map fun (es, last) =>
        (⟨size, reply.answer, reply.events⟩ :: es, last)

namespace Bump

/-- The episodes of a bump heap. -/
def episodes (b : Bump) : List Int32 → List Episode
  | [] => []
  | size :: sizes =>
    ⟨size, (b.allocate size).answer, (b.allocate size).events⟩ ::
      (b.allocate size).heap.episodes sizes

/-- They are those of serving each request with `allocate`, which never faults. -/
theorem episodes_eq (b : Bump) (sizes : List Int32) :
    Heap.episodes (fun b size => .ok (b.allocate size)) b sizes =
      .ok (b.episodes sizes, (b.serve sizes).2) := by
  induction sizes generalizing b with
  | nil => rfl
  | cons size sizes ih =>
    simp only [Heap.episodes, ih]
    rfl

/-- They have the answers of the run. -/
theorem historyOf_episodes (b : Bump) (sizes : List Int32) :
    historyOf (b.episodes sizes) = (b.serve sizes).1 := by
  induction sizes generalizing b with
  | nil => rfl
  | cons size sizes ih =>
    rw [serve_cons, ← ih]
    rfl

/-- There is one for each request, in order. -/
theorem map_size_episodes (b : Bump) (sizes : List Int32) :
    (b.episodes sizes).map Episode.size = sizes := by
  induction sizes generalizing b with
  | nil => rfl
  | cons size sizes ih => rw [episodes, List.map_cons, ih]

/-- Each of them reports what it has to. -/
theorem episodes_announce (b : Bump) (sizes : List Int32) :
    ∀ e ∈ b.episodes sizes, Announces e.size e.answer e.events := by
  induction sizes generalizing b with
  | nil => exact fun e he => absurd he List.not_mem_nil
  | cons size sizes ih =>
    intro e he
    obtain rfl | he := List.mem_cons.mp he
    · exact b.allocate_announces size
    · exact ih _ e he

/-- **A shared heap** in the hands of one thread has the same episodes. -/
theorem shared_episodes {b : Bump} (hb : b.Sound) (sizes : List Int32) :
    Heap.episodes Shared.allocate b.shared sizes =
      .ok (b.episodes sizes, (b.serve sizes).2.shared) := by
  induction sizes generalizing b with
  | nil => rfl
  | cons size sizes ih =>
    rw [Heap.episodes, shared_allocate hb]
    simp only [ih (hb.allocate size)]
    rfl

/-- The heap with the same numbers over another region. -/
def relocated (b : Bump) (r : Region) : Bump :=
  { b with region := r }

/-- What a request comes to depends on the size of the region alone. -/
theorem allocate_relocated {b : Bump} {r : Region} (hsize : r.size = b.region.size) (size : Int32) :
    (b.relocated r).allocate size =
      { answer := (b.allocate size).answer
        heap := (b.allocate size).heap.relocated r
        events := (b.allocate size).events } := by
  have hremaining : (b.relocated r).remaining = b.remaining := congrArg (· - b.cursor) hsize
  obtain ⟨hneg, hr⟩ | ⟨hpos, hfull, hr⟩ | ⟨hpos, hfits, hr⟩ := b.allocate_cases size
  · rw [hr, allocate_of_neg _ hneg]
  · rw [hr, allocate_of_full _ hpos (hremaining ▸ hfull), refuse, hremaining]
    rfl
  · rw [hr, allocate_of_fits _ hpos (hremaining ▸ hfits)]
    rfl

/-- So do the episodes. -/
theorem episodes_relocated {b : Bump} {r : Region} (hsize : r.size = b.region.size)
    (sizes : List Int32) : (b.relocated r).episodes sizes = b.episodes sizes := by
  induction sizes generalizing b with
  | nil => rfl
  | cons size sizes ih =>
    have hrest : r.size = (b.allocate size).heap.region.size := by
      rw [hsize, allocate_region]
    rw [episodes, episodes, allocate_relocated hsize]
    simp only [ih hrest]

/-- The heap that a run leaves behind is over the same region as the one before. -/
theorem serve_relocated {b : Bump} {r : Region} (hsize : r.size = b.region.size) (sizes : List Int32) :
    ((b.relocated r).serve sizes).2 = (b.serve sizes).2.relocated r := by
  induction sizes generalizing b with
  | nil => rfl
  | cons size sizes ih =>
    have hrest : r.size = (b.allocate size).heap.region.size := by
      rw [hsize, allocate_region]
    rw [serve_cons, serve_cons, allocate_relocated hsize]
    exact ih hrest

/-- The statistics tell the size of the region, and nothing else about it. -/
theorem stats_relocated {b : Bump} {r : Region} (hsize : r.size = b.region.size) :
    (b.relocated r).stats = b.stats := by
  simp only [stats, relocated, used, remaining, hsize]

end Bump

/-! ## The reports are as many as the counters say -/

/-- The number of events with this message. -/
def countMessage (message : String) (events : List Log.Event) : Nat :=
  events.countP (·.message == message)

theorem countMessage_append (message : String) (es es' : List Log.Event) :
    countMessage message (es ++ es') = countMessage message es + countMessage message es' :=
  List.countP_append

theorem countMessage_singleton (message : String) (e : Log.Event) :
    countMessage message [e] = if e.message == message then 1 else 0 :=
  List.countP_singleton

/-- A grant is reported once, and nothing else is reported as one. -/
theorem Announces.countMessage_allocated {size : Int32} {answer : Except HeapError Handle}
    {events : List Log.Event} (h : Announces size answer events) :
    countMessage "allocated" events = (History.blocks [(size, answer)]).length := by
  cases h with
  | granted _ hmessage _ =>
    rw [countMessage_singleton, hmessage]
    rfl
  | refused _ hmessage _ =>
    rw [countMessage_singleton, hmessage]
    rfl
  | negative => rfl

/-- So is a request that did not fit. -/
theorem Announces.countMessage_failed {size : Int32} {answer : Except HeapError Handle}
    {events : List Log.Event} (h : Announces size answer events) :
    countMessage "allocation failed" events = History.refusals [(size, answer)] := by
  cases h with
  | granted _ hmessage _ =>
    rw [countMessage_singleton, hmessage]
    rfl
  | refused _ hmessage _ =>
    rw [countMessage_singleton, hmessage]
    rfl
  | negative => rfl

/-- The grants and the requests that did not fit are as many in what was reported as in the
history. -/
theorem count_reports {es : List Episode} (h : ∀ e ∈ es, Announces e.size e.answer e.events) :
    countMessage "allocated" (reportsOf es) = (History.blocks (historyOf es)).length ∧
    countMessage "allocation failed" (reportsOf es) = History.refusals (historyOf es) := by
  induction es with
  | nil => exact ⟨rfl, rfl⟩
  | cons e es ih =>
    obtain ⟨hgrants, hrefusals⟩ := ih fun e' he' => h e' (List.mem_cons_of_mem _ he')
    have hfirst := h e List.mem_cons_self
    have hreports : reportsOf (e :: es) = e.events ++ reportsOf es := List.flatMap_cons
    have hhistory : historyOf (e :: es) = [(e.size, e.answer)] ++ historyOf es := rfl
    rw [hreports, hhistory, countMessage_append, countMessage_append]
    constructor
    · rw [hgrants, hfirst.countMessage_allocated, ← List.length_append]
      exact congrArg List.length List.filterMap_append.symm
    · rw [hrefusals, hfirst.countMessage_failed]
      exact List.countP_append.symm

end VmSupport.Heap
