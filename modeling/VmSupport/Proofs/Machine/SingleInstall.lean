import VmSupport.Proofs.Machine.Completion

/-!
# The heap is installed at most once

**The law** (`heap_installed_once`): whatever threads call what, and in whatever order they act, a
process gets at most one heap. At most one start succeeds; a start that fails leaves no heap, so a
later one can still succeed; once there is a heap it neither moves nor grows, and only requests for
memory touch it; every address that is given away lies in it.

Where every thread starts with one capacity that the host can serve, every run can be carried to its
end, and at the end one of the threads has the heap and all others have come too late.

**What this does not say**: that a run ends by itself. A schedule may keep a thread at the lock for
as long as it likes, and the thread that has the lock as well.

The invariant is that of `Crowd.Sound`. What is claimed is read off it for a single crowd
(`Crowd.Sound.installsOnce`), and every run keeps it.
-/

namespace VmSupport

open Heap (CallId Shared)

/-! ## What is claimed -/

namespace Crowd

/-- The call is a start, and has put the heap in place. -/
def Succeeded (calls : List (List Call)) (c : Crowd) (id : CallId) : Prop :=
  ∃ call answer, call? calls id = some call ∧ call.isStart = true ∧ c.result? id = some answer ∧
    answer.isSuccess = true

/-- No start is in progress. -/
def NoStartPending (calls : List (List Call)) (c : Crowd) : Prop :=
  ∀ id call frame, call? calls id = some call → call.isStart = true → c.frame? id = some frame →
    frame.isOver = true

/-- **What single installation means** for a crowd whose threads were given these calls. -/
structure InstallsOnce (w : Surroundings) (calls : List (List Call)) (c : Crowd) : Prop where
  /-- At most one start succeeds. -/
  once : ∀ {id id'}, c.Succeeded calls id → c.Succeeded calls id' → id = id'
  /-- A heap was put in place by a start, and whatever that start answers, now or later, is a
  success. -/
  installer : c.machine.heap.isSome = true → ∃ id call, call? calls id = some call ∧
    call.isStart = true ∧ (c.frame? id).isSome = true ∧
    ∀ later answer, (c.run w later).result? id = some answer → answer.isSuccess = true
  /-- A start that has failed was too late, or cannot be served. -/
  failed : ∀ {id call capacity e}, call? calls id = some call → call.Wants .library capacity →
    c.result? id = some (.started (.error e)) →
      (e = .alreadyInitialized ∧ c.machine.heap.isSome = true) ∨
        Shared.withCapacity w.host capacity = .error e
  /-- Starts that have all failed have left neither a heap nor the lock taken. -/
  clean : (∀ id, ¬ c.Succeeded calls id) → c.NoStartPending calls →
    c.machine.heap = none ∧ c.lockedBy = none
  /-- From there on a start succeeds whose capacity the host can serve. -/
  retry : ∀ {i r call caller capacity h}, c.machine.heap = none → c.lockedBy = none →
    c.workers[i]? = some r → r.frame = none → r.waiting.head? = some call →
    (Frame.begin w r.thread c.machine call).1 = .lock caller capacity →
    Shared.withCapacity w.host capacity = .ok h →
    (c.run w (List.replicate 8 (i, false))).Succeeded calls ⟨i, r.answers.length⟩
  /-- A heap that is in place neither moves nor grows. -/
  fixed : ∀ {h}, c.machine.heap = some h → ∀ later,
    ∃ h', (c.run w later).machine.heap = some h' ∧ h'.region = h.region
  /-- Only requests for memory touch it. -/
  kept : ∀ {i r}, c.machine.heap.isSome = true → c.workers[i]? = some r →
    (∀ call, call? calls ⟨i, r.answers.length⟩ = some call → call.isRequest = false) →
    ∀ spurious, (c.step w i spurious).machine.heap = c.machine.heap
  /-- Every address that was given away lies in the heap, with the bytes behind it. -/
  inside : ∀ {id call answer address size}, call? calls id = some call →
    c.result? id = some answer → answer.extent? call = some (address, size) →
    ∃ h, c.machine.heap = some h ∧ h.region.base ≤ address ∧ address + size ≤ h.region.limit
  /-- A heap that is about to be put in place finds the place empty. -/
  vacant : ∀ {id caller h}, c.frame? id = some (.set caller h) → c.machine.heap = none
  /-- A heap that has been put in place is found there. -/
  found : ∀ {id caller h}, c.frame? id = some (.confirm caller h) →
    ∃ h', c.machine.heap = some h' ∧ h'.region = h.region

/-- **One thread wins**: each thread has one answer, one of them that it has put the heap in place,
and all others that there was one. -/
def OneWins (capacity : Nat) (c : Crowd) : Prop :=
  ∃ i < c.workers.length, ∀ j < c.workers.length,
    c.answers[j]? = some [.started (if j = i then .ok capacity else .error .alreadyInitialized)]

variable {w : Surroundings} {calls : List (List Call)} {c : Crowd}

/-! ## Results -/

theorem result?_eq_some_iff {id : CallId} {answer : Answer} :
    c.result? id = some answer ↔ c.frame? id = some (.answered answer) := by
  unfold result?
  constructor
  · intro h
    split at h
    · next heq =>
      cases h
      exact heq
    · cases h
  · intro h
    rw [h]

/-- A start that has succeeded has installed the heap. -/
theorem Succeeded.hasInstalled {id : CallId} (h : c.Succeeded calls id) :
    c.HasInstalled calls id := by
  obtain ⟨call, answer, hcall, hstart, hresult, hsuccess⟩ := h
  refine ⟨call, _, hcall, result?_eq_some_iff.mp hresult, ?_⟩
  show (call.isStart && answer.isSuccess) = true
  rw [hstart, hsuccess]
  rfl

/-- A start that has installed the heap answers a success. -/
theorem HasInstalled.isSuccess {id : CallId} (h : c.HasInstalled calls id) {answer : Answer}
    (hresult : c.result? id = some answer) : answer.isSuccess = true := by
  obtain ⟨call, frame, -, hframe, hinstalled⟩ := h
  cases (result?_eq_some_iff.mp hresult).symm.trans hframe
  exact (Bool.and_eq_true_iff.mp hinstalled).2

/-! ## Runs -/

theorem run_grows (hc : c.Sound w calls) (later : List (Nat × Bool)) :
    Grows c.machine.heap (c.run w later).machine.heap := by
  induction later generalizing c with
  | nil => exact Grows.refl _
  | cons s later ih => exact ((step_acts hc s.1 s.2).grows).trans (ih (step_sound hc s.1 s.2))

/-- What has been installed stays so. -/
theorem HasInstalled.run (hc : c.Sound w calls) {id : CallId} (h : c.HasInstalled calls id)
    (later : List (Nat × Bool)) : (c.run w later).HasInstalled calls id := by
  induction later generalizing c with
  | nil => exact h
  | cons s later ih => exact ih (step_sound hc s.1 s.2) ((step_acts hc s.1 s.2).hasInstalled h)

/-! ## Single installation -/

/-- Starts that are over and have not succeeded have left nothing behind. -/
theorem clean_of_sound (hc : c.Sound w calls) (hnone : ∀ id, ¬ c.Succeeded calls id)
    (hover : c.NoStartPending calls) : c.machine.heap = none ∧ c.lockedBy = none := by
  constructor
  · rw [← Option.not_isSome_iff_eq_none]
    intro hplace
    obtain ⟨id, call, frame, hcall, hframe, hinstalled⟩ := hc.heap.taken_iff.mp hplace
    obtain ⟨call', hcall', hsound⟩ := hc.frames hframe
    cases hcall.symm.trans hcall'
    have hstart := hsound.isStart (.inr hinstalled)
    cases frame with
    | answered answer =>
      have hsuccess := (Bool.and_eq_true_iff.mp hinstalled).2
      exact hnone id ⟨call, answer, hcall, hstart, result?_eq_some_iff.mpr hframe, hsuccess⟩
    | aborted => cases hinstalled
    | faulted fault => cases hinstalled
    | _ => cases hover id call _ hcall hstart hframe
  · rw [← Option.not_isSome_iff_eq_none]
    intro hlock
    obtain ⟨id, frame, hframe, hcritical⟩ := hc.lock.taken_iff.mp hlock
    obtain ⟨call, hcall, hsound⟩ := hc.frames hframe
    have hend := hover id call frame hcall (hsound.isStart (.inl hcritical)) hframe
    cases frame with
    | answered answer => cases hcritical
    | aborted => cases hcritical
    | faulted fault => cases hcritical
    | _ => cases hend

/-! ## A start alone -/

/-- The crowd in which one thread is at a frame. -/
def showing (c : Crowd) (i : Nat) (r : Worker) (s : Scene) : Crowd :=
  ⟨s.machine, s.lockedBy, c.workers.set i { r with frame := some s.frame }⟩

/-- As long as it has no answer, a thread goes on with its call. -/
theorem step_showing {i : Nat} {r : Worker} {s : Scene} (hi : i < c.workers.length)
    (hs : ∀ answer, s.frame ≠ .answered answer) :
    (c.showing i r s).step w i false =
      c.showing i r (s.frame.step w r.thread false s.machine s.lockedBy) := by
  obtain ⟨frame, machine, lockedBy⟩ := s
  simp only [showing, step, List.getElem?_set_self hi, List.set_set]
  cases frame with
  | answered answer => exact absurd rfl (hs answer)
  | _ => rfl

/-- Seven actions without interference put a heap in place where the lock and the place are free. -/
theorem run_showing_lock {i : Nat} {r : Worker} {m : Machine} {caller : InitCaller} {capacity : Nat}
    {h : Shared} (hi : i < c.workers.length) (hm : m.heap = none)
    (hcapacity : Shared.withCapacity w.host capacity = .ok h) :
    ∃ answer m', (c.showing i r ⟨.lock caller capacity, m, none⟩).run w
        (List.replicate 7 (i, false)) = c.showing i r ⟨.answered answer, m', none⟩ ∧
      answer.isSuccess = true := by
  have hreport : (m.report h.region.reserved).heap = none := hm
  have hlock : (c.showing i r ⟨.lock caller capacity, m, none⟩).step w i false =
      c.showing i r ⟨.check caller capacity, m, some r.thread⟩ :=
    step_showing hi fun _ h => by cases h
  have hcheck : (c.showing i r ⟨.check caller capacity, m, some r.thread⟩).step w i false =
      c.showing i r ⟨.reserve caller capacity, m, some r.thread⟩ := by
    rw [step_showing hi fun _ h => by cases h]
    simp only [Frame.step, hm]
  have hreserve : (c.showing i r ⟨.reserve caller capacity, m, some r.thread⟩).step w i false =
      c.showing i r ⟨.set caller h, m.report h.region.reserved, some r.thread⟩ := by
    rw [step_showing hi fun _ h => by cases h]
    simp only [Frame.step, hcapacity]
  generalize m.report h.region.reserved = m₁ at hreport hreserve
  have hset : (c.showing i r ⟨.set caller h, m₁, some r.thread⟩).step w i false =
      c.showing i r ⟨.confirm caller h, m₁.withHeap h, some r.thread⟩ := by
    rw [step_showing hi fun _ h => by cases h]
    simp only [Frame.step, hreport]
  have hconfirm : (c.showing i r ⟨.confirm caller h, m₁.withHeap h, some r.thread⟩).step w i false =
      c.showing i r ⟨.unlock caller (.ok h.region.size),
        (m₁.withHeap h).report (.initialized h.region.base h.region.size), some r.thread⟩ :=
    step_showing hi fun _ h => by cases h
  generalize (m₁.withHeap h).report (.initialized h.region.base h.region.size) = m₂ at hconfirm
  have hunlock : (c.showing i r ⟨.unlock caller (.ok h.region.size), m₂, some r.thread⟩).step w i
      false = c.showing i r ⟨.finish caller (.ok h.region.size), m₂, none⟩ :=
    step_showing hi fun _ h => by cases h
  obtain ⟨answer, m', hanswer, hsuccess⟩ : ∃ answer m',
      Frame.answerInit r.thread m₂ (.ok h.region.size) caller = (.answered answer, m') ∧
        answer.isSuccess = true := by
    cases caller with
    | library => exact ⟨_, _, rfl, rfl⟩
    | outside => exact ⟨_, _, rfl, rfl⟩
  have hfinish : (c.showing i r ⟨.finish caller (.ok h.region.size), m₂, none⟩).step w i false =
      c.showing i r ⟨.answered answer, m', none⟩ := by
    rw [step_showing hi fun _ h => by cases h]
    simp only [Frame.step, hanswer]
  refine ⟨answer, m', ?_, hsuccess⟩
  simp only [List.replicate, run_cons, hlock, hcheck, hreserve, hset, hconfirm, hunlock, hfinish]
  rfl

/-- A start at a place that is free has the lock and the heap for itself. -/
theorem succeeded_of_alone (hc : c.Sound w calls) {i : Nat} {r : Worker} {call : Call}
    {caller : InitCaller} {capacity : Nat} {h : Shared} (hplace : c.machine.heap = none)
    (hlock : c.lockedBy = none) (hr : c.workers[i]? = some r) (hframe : r.frame = none)
    (hhead : r.waiting.head? = some call)
    (hbegin : (Frame.begin w r.thread c.machine call).1 = .lock caller capacity)
    (hcapacity : Shared.withCapacity w.host capacity = .ok h) :
    (c.run w (List.replicate 8 (i, false))).Succeeded calls ⟨i, r.answers.length⟩ := by
  have hi : i < c.workers.length := (List.getElem?_eq_some_iff.mp hr).1
  obtain ⟨cs, hcs, hwaiting⟩ := hc.waiting hr
  obtain ⟨rest, hw⟩ := List.head?_eq_some_iff.mp hhead
  have hcall := (call?_next hcs hwaiting hframe hw).1
  obtain ⟨hheap, hsound, -, -⟩ := Frame.begin_begins w r.thread c.machine call
  have hfirst : c.step w i false = c.showing i { r with waiting := rest }
      ⟨.lock caller capacity, (Frame.begin w r.thread c.machine call).2, none⟩ := by
    simp only [step, hr, Worker.step, hframe, hw, hbegin, hlock, showing]
  obtain ⟨answer, m', hrun, hsuccess⟩ :=
    @run_showing_lock w c i { r with waiting := rest } _ caller capacity h hi (hheap.trans hplace)
      hcapacity
  have hstart : call.isStart = true := by
    rw [hbegin] at hsound
    exact Call.Wants.isStart hsound
  refine ⟨call, answer, hcall, hstart, ?_, hsuccess⟩
  rw [result?_eq_some_iff, List.replicate_succ, run_cons, hfirst, hrun, showing, frame?_act hr,
    if_pos rfl]

/-- **A sound crowd installs at most one heap.** -/
theorem Sound.installsOnce (hc : c.Sound w calls) : InstallsOnce w calls c where
  once := fun h h' => hc.heap.unique h.hasInstalled h'.hasInstalled
  installer := by
    intro hplace
    obtain ⟨id, hid⟩ := hc.heap.taken_iff.mp hplace
    have ⟨call, frame, hcall, hframe, hinstalled⟩ := hid
    refine ⟨id, call, hcall, ?_, by rw [hframe]; rfl, ?_⟩
    · obtain ⟨call', hcall', hsound⟩ := hc.frames hframe
      cases hcall.symm.trans hcall'
      exact hsound.isStart (.inr hinstalled)
    · exact fun later answer hresult => (hid.run hc later).isSuccess hresult
  failed := by
    intro id call capacity e hcall hwants hresult
    obtain ⟨call', hcall', hsound⟩ := hc.frames (result?_eq_some_iff.mp hresult)
    cases hcall.symm.trans hcall'
    obtain ⟨result, hanswer, hholds⟩ := hsound.library capacity hwants
    cases hanswer
    exact hholds
  clean := clean_of_sound hc
  retry := succeeded_of_alone hc
  fixed := by
    intro h hh later
    obtain ⟨h', hh', hregion, -⟩ := run_grows hc later h hh
    exact ⟨h', hh', hregion⟩
  kept := fun hplace hr hpresent spurious => (step_acts hc _ spurious).place_eq hplace hr hpresent
  inside := by
    intro id call answer address size hcall hresult hextent
    obtain ⟨call', hcall', hsound⟩ := hc.frames (result?_eq_some_iff.mp hresult)
    cases hcall.symm.trans hcall'
    exact hsound.inside address size hextent
  vacant := by
    intro id caller h hframe
    obtain ⟨call, -, -, hplace, -⟩ := hc.frames hframe
    exact hplace
  found := by
    intro id caller h hframe
    obtain ⟨call, -, -, hfound⟩ := hc.frames hframe
    exact hfound

/-! ## Starts at the same time -/

/-- A thread that was to make one call has begun no other. -/
theorem frames_of_single (hc : c.Sound w calls) {i k : Nat} {r : Worker} {call : Call} {frame : Frame}
    (hr : c.workers[i]? = some r) (hcs : calls[i]? = some [call]) (hget : r.frames[k]? = some frame) :
    k = 0 ∧ frame.Sound w c.machine.heap call := by
  have hframe : c.frame? ⟨i, k⟩ = some frame := by
    rw [frame?, hr]
    exact hget
  obtain ⟨call', hcall, hsound⟩ := hc.frames hframe
  rw [call?, hcs] at hcall
  cases k with
  | zero =>
    cases hcall
    exact ⟨rfl, hsound⟩
  | succ k => cases hcall

/-- A thread that made one start and is done has one answer. -/
theorem answers_of_isDone (hc : c.Sound w calls) {i capacity : Nat} {r : Worker}
    (hr : c.workers[i]? = some r) (hcs : calls[i]? = some [.init capacity])
    (hdone : r.isDone = true) :
    ∃ result, r.answers = [.started result] ∧ StartHolds w c.machine.heap capacity result := by
  obtain ⟨cs, hcs', hwaiting⟩ := hc.waiting hr
  cases hcs.symm.trans hcs'
  cases hf : r.frame with
  | some frame =>
    have hpresent := r.getElem?_frames_present
    obtain ⟨-, hsound⟩ := frames_of_single hc hr hcs (hpresent.trans hf)
    -- a plain start neither aborts nor faults, and no other frame is done
    rw [Worker.isDone, hf] at hdone
    cases frame with
    | aborted => cases hsound
    | faulted fault => cases hsound
    | _ => cases hdone
  | none =>
    rw [Worker.isDone, hf] at hdone
    rw [List.isEmpty_iff.mp hdone] at hwaiting
    have hframes : r.frames = r.answers.map .answered := by
      rw [Worker.frames, hf, Option.toList_none, List.append_nil]
    rw [hframes] at hwaiting
    cases hanswers : r.answers with
    | nil =>
      rw [hanswers] at hwaiting
      cases hwaiting
    | cons answer rest =>
      rw [hanswers] at hframes
      cases rest with
      | nil =>
        obtain ⟨-, hsound⟩ := frames_of_single hc hr hcs (k := 0) (by rw [hframes]; rfl)
        obtain ⟨result, rfl, hresult⟩ := hsound.library capacity ⟨rfl, rfl⟩
        exact ⟨result, rfl, hresult⟩
      | cons second rest =>
        obtain ⟨hk, -⟩ := frames_of_single hc hr hcs (k := 1) (by rw [hframes]; rfl)
        cases hk

/-- Each thread of a sound crowd that is done, where each made one start, has one answer. -/
theorem answers_of_allDone (hc : c.Sound w calls) {capacity : Nat}
    (hlength : c.workers.length = calls.length) (hcalls : ∀ cs ∈ calls, cs = [.init capacity])
    (hdone : c.isDone = true) {j : Nat} (hj : j < c.workers.length) :
    ∃ r result, c.workers[j]? = some r ∧ r.answers = [.started result] ∧
      StartHolds w c.machine.heap capacity result := by
  have hr : c.workers[j]? = some c.workers[j] := List.getElem?_eq_getElem hj
  have hcs : calls[j]? = some calls[j] := List.getElem?_eq_getElem (hlength ▸ hj)
  rw [hcalls _ (List.getElem_mem _)] at hcs
  have hover : c.workers[j].isDone = true := List.all_eq_true.mp hdone _ (List.getElem_mem hj)
  obtain ⟨result, hanswer, hresult⟩ := answers_of_isDone hc hr hcs hover
  exact ⟨_, result, hr, hanswer, hresult⟩

/-- What the first call of a thread has come to. -/
theorem result?_of_answers {j : Nat} {r : Worker} {answer : Answer} (hr : c.workers[j]? = some r)
    (hanswers : r.answers = [answer]) : c.result? ⟨j, 0⟩ = some answer := by
  rw [result?_eq_some_iff, frame?, hr, Option.bind_some]
  show r.frames[0]? = _
  rw [Worker.frames, hanswers]
  rfl

/-- Of threads that were to make one call each, a first call has installed the heap. -/
theorem HasInstalled.eq_first {id : CallId} {call : Call} (h : c.HasInstalled calls id)
    (hcalls : ∀ cs ∈ calls, cs = [call]) : ∃ i < c.workers.length, id = ⟨i, 0⟩ := by
  obtain ⟨call', frame, hcall, hframe, -⟩ := h
  obtain ⟨r, hr, -⟩ := Option.bind_eq_some_iff.mp hframe
  obtain ⟨cs, hcs, hget⟩ := Option.bind_eq_some_iff.mp hcall
  rw [hcalls cs (List.mem_of_getElem? hcs)] at hget
  have hindex : id.index = 0 := Nat.lt_one_iff.mp (List.getElem?_eq_some_iff.mp hget).1
  exact ⟨id.thread, (List.getElem?_eq_some_iff.mp hr).1, by rw [← hindex]⟩

/-- Of threads that each made one start, and could have been served, one has the heap when all are
done. -/
theorem oneWins_of_isDone (hc : c.Sound w calls) {capacity : Nat} {h : Shared}
    (hlength : c.workers.length = calls.length) (hne : calls ≠ [])
    (hcalls : ∀ cs ∈ calls, cs = [.init capacity])
    (hcapacity : Shared.withCapacity w.host capacity = .ok h) (hdone : c.isDone = true) :
    c.OneWins capacity := by
  have hanswers : ∀ j < c.workers.length, ∃ r result, c.workers[j]? = some r ∧
      r.answers = [.started result] ∧ StartHolds w c.machine.heap capacity result :=
    fun j hj => answers_of_allDone hc hlength hcalls hdone hj
  have hplace : c.machine.heap.isSome = true := by
    obtain ⟨r, result, -, -, hresult⟩ := hanswers 0 (hlength ▸ List.length_pos_iff.mpr hne)
    cases result with
    | ok size => exact hresult.isSome rfl
    | error e =>
      obtain ⟨-, hsome⟩ | hfailed := hresult
      · exact hsome
      · cases hcapacity.symm.trans hfailed
  obtain ⟨id, hid⟩ := hc.heap.taken_iff.mp hplace
  obtain ⟨i, hi, rfl⟩ := hid.eq_first hcalls
  refine ⟨i, hi, fun j hj => ?_⟩
  obtain ⟨r, result, hr, hanswer, hresult⟩ := hanswers j hj
  have hfound := result?_of_answers hr hanswer
  rw [answers, List.getElem?_map, hr, Option.map_some, hanswer]
  by_cases hij : j = i
  · subst hij
    rw [if_pos rfl]
    have hsuccess := hid.isSuccess hfound
    cases result with
    | ok size =>
      obtain ⟨rfl, -⟩ := hresult
      rfl
    | error e => cases hsuccess
  · rw [if_neg hij]
    cases result with
    | ok size =>
      -- there would be two winners
      have hcs : calls[j]? = some [.init capacity] := by
        rw [List.getElem?_eq_getElem (hlength ▸ hj), hcalls _ (List.getElem_mem _)]
      have hother : c.HasInstalled calls ⟨j, 0⟩ := by
        refine Succeeded.hasInstalled ⟨.init capacity, _, ?_, rfl, hfound, rfl⟩
        rw [call?, hcs]
        rfl
      exact absurd (congrArg CallId.thread (hc.heap.unique hother hid)) hij
    | error e =>
      obtain ⟨rfl, -⟩ | hfailed := hresult
      · rfl
      · cases hcapacity.symm.trans hfailed

/-! ## The law -/

/-- **The heap is installed once**, whatever the threads of a process call and in whatever order
they act; and of threads that all start with one capacity that can be had, one wins. -/
theorem heap_installed_once (w : Surroundings) (threads : List (Nat × List Call))
    (schedule : List (Nat × Bool)) :
    InstallsOnce w (threads.map Prod.snd) ((ofThreads threads).run w schedule) ∧
      ∀ capacity h, threads ≠ [] → Shared.withCapacity w.host capacity = .ok h →
        (∀ t ∈ threads, t.2 = [.init capacity]) →
        (∃ later, (((ofThreads threads).run w schedule).run w later).isDone = true) ∧
          (((ofThreads threads).run w schedule).isDone = true →
            ((ofThreads threads).run w schedule).OneWins capacity) := by
  have hc := run_sound (sound_ofThreads w threads) schedule
  refine ⟨hc.installsOnce, ?_⟩
  intro capacity h hne hcapacity hinit
  have hcalls : ∀ cs ∈ threads.map Prod.snd, cs = [.init capacity] := by
    intro cs hcs
    obtain ⟨t, ht, rfl⟩ := List.mem_map.mp hcs
    exact hinit t ht
  constructor
  · refine exists_isDone hc ?_
    intro cs hcs call hcall
    rw [hcalls cs hcs, List.mem_singleton] at hcall
    rw [hcall]
    rfl
  · have hlength : ((ofThreads threads).run w schedule).workers.length =
        (threads.map Prod.snd).length := by
      rw [length_workers_run, ofThreads, ofMachine, List.length_map, List.length_map]
    have hne' : threads.map Prod.snd ≠ [] := fun h => hne (List.map_eq_nil_iff.mp h)
    exact oneWins_of_isDone hc hlength hne' hcalls hcapacity

/-- Two threads start with eight bytes; the second meets the first at the lock, and waits. -/
theorem heap_installed_once_contended :
    OneWins 8 ((ofThreads [(1, [.init 8]), (2, [.init 8])]).run .quiet
      ([0, 1, 0, 1, 1, 0, 0, 0, 0, 0, 0, 0, 1, 1, 1, 1, 1, 1, 1].map (·, false))) := by
  obtain ⟨-, hwins⟩ := heap_installed_once .quiet [(1, [.init 8]), (2, [.init 8])]
    ([0, 1, 0, 1, 1, 0, 0, 0, 0, 0, 0, 0, 1, 1, 1, 1, 1, 1, 1].map (·, false))
  refine (hwins 8 _ (List.cons_ne_nil _ _) rfl ?_).2 rfl
  intro t ht
  simp only [List.mem_cons, List.not_mem_nil, or_false] at ht
  obtain rfl | rfl := ht
  · rfl
  · rfl

end Crowd

end VmSupport
