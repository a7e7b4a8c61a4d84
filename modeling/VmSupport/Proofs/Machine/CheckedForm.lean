import VmSupport.Proofs.Machine.SingleInstall

/-!
# The plain call for memory is the checked one without its status

Two calls ask for memory. The checked one answers a status beside the address that it wrote, the
plain one an address alone, where zero stands for any refusal. What a plain call came to can
therefore not be read off its answer. It can be read off its **checked form** (`Call.checkedForm`).

**The law** (`Crowd.run_checkedForms`): whatever threads call what, and in whatever order they act, a
process in which every call is made in its checked form does what the process does in which the calls
are made as they are. The heap, the statuses, the log and the lock are the same after each action, and
every call stands at the same frame, up to the status that a plain call does not answer
(`Frame.unchecked`).

**What this does not say**: anything about a checked call with a null pointer, which asks the heap for
nothing. No plain call has it as its checked form.
-/

namespace VmSupport

open Heap (CallId HeapError)

/-! ## What a call is without its status -/

/-- The call that answers its status: the checked call for memory in the place of the plain one. -/
def Call.checkedForm : Call → Call
  | .allocate size => .allocateChecked false size
  | call => call

namespace Answer

/-- The answer without its status: the address that was written, or zero. -/
def plain : Answer → Answer
  | checked _ written => number (written.getD 0)
  | answer => answer

/-- What a call answers whose checked form answers this. -/
def unchecked (call : Option Call) (answer : Answer) : Answer :=
  match call with
  | some (.allocate _) => answer.plain
  | _ => answer

end Answer

namespace Frame

/-- The frame at which a request stands that is made by the plain call. -/
def plain : Frame → Frame
  | find _ size => find .plain size
  | serve _ stage => serve .plain stage
  | answered answer => answered answer.plain
  | frame => frame

/-- Where a call stands whose checked form stands at this frame. -/
def unchecked (call : Option Call) (frame : Frame) : Frame :=
  match call with
  | some (.allocate _) => frame.plain
  | _ => frame

end Frame

/-- The thread that was given these calls, where this one was given their checked forms. -/
def Worker.unchecked (cs : List Call) (r : Worker) : Worker where
  thread := r.thread
  waiting := cs.drop r.frames.length
  frame := r.frame.map (Frame.unchecked cs[r.answers.length]?)
  answers := r.answers.mapIdx fun k answer => answer.unchecked cs[k]?

namespace Crowd

/-- The crowd whose threads were given these calls, where those of this one were given their checked
forms. -/
def unchecked (calls : List (List Call)) (c : Crowd) : Crowd :=
  { c with workers := c.workers.mapIdx fun i r => r.unchecked (calls[i]?.getD []) }

/-- Threads that are about to make their calls in checked form. -/
def checkedForms (threads : List (Nat × List Call)) : List (Nat × List Call) :=
  threads.map fun t => (t.1, t.2.map Call.checkedForm)

end Crowd

/-! ## Actions of a call -/

namespace Frame

variable (w : Surroundings) (thread : Nat) (spurious : Bool) (m : Machine) (lockedBy : Option Nat)

/-- Both calls for memory record the same status, and the plain one answers less. -/
theorem answerBlock_plain (result : Except HeapError Nat) (caller : BlockCaller) :
    answerBlock thread m result .plain =
      ((answerBlock thread m result caller).1.plain, (answerBlock thread m result caller).2) := by
  cases caller with
  | plain => cases result <;> rfl
  | checked => cases result <;> rfl

/-- A request acts in the same way whoever makes it. -/
theorem step_plain (f : Frame) :
    f.plain.step w thread spurious m lockedBy =
      { f.step w thread spurious m lockedBy with
        frame := (f.step w thread spurious m lockedBy).frame.plain } := by
  cases f with
  | lock caller capacity => cases lockedBy <;> rfl
  | check caller capacity =>
    simp only [plain, step]
    split <;> rfl
  | reserve caller capacity =>
    simp only [plain, step]
    split <;> rfl
  | set caller h =>
    simp only [plain, step]
    split <;> rfl
  | confirm caller h =>
    simp only [plain, step]
    split <;> rfl
  | unlock caller result => rfl
  | finish caller result =>
    cases caller with
    | library => rfl
    | outside => cases result <;> rfl
  | find caller size =>
    simp only [plain, step]
    split
    · rfl
    · rw [answerBlock_plain thread m _ caller]
      rfl
  | serve caller stage =>
    simp only [plain, step]
    split
    · rfl
    split
    · rw [answerBlock_plain thread m _ caller]
      rfl
    · split
      · rfl
      · rw [answerBlock_plain thread m _ caller]
        rfl
    · rfl
    · rfl
  | answered answer => rfl
  | aborted => rfl
  | faulted fault => rfl

/-- **An action of a call** is that of its checked form. -/
theorem step_unchecked (call : Option Call) (f : Frame) :
    (f.unchecked call).step w thread spurious m lockedBy =
      { f.step w thread spurious m lockedBy with
        frame := (f.step w thread spurious m lockedBy).frame.unchecked call } := by
  unfold unchecked
  split
  · exact step_plain w thread spurious m lockedBy f
  · rfl

/-- **The first action of a call** is that of its checked form. -/
theorem begin_unchecked (call : Call) :
    begin w thread m call =
      ((begin w thread m call.checkedForm).1.unchecked (some call),
        (begin w thread m call.checkedForm).2) := by
  cases call with
  | allocate size => rfl
  | _ => rfl

theorem unchecked_answered (call : Option Call) (answer : Answer) :
    (answered answer).unchecked call = answered (answer.unchecked call) := by
  unfold unchecked Answer.unchecked
  split <;> rfl

/-- A call has come to its answer where its checked form has. -/
theorem unchecked_eq_answered {call : Option Call} {f : Frame} {answer : Answer}
    (h : f.unchecked call = .answered answer) :
    ∃ checked, f = .answered checked ∧ checked.unchecked call = answer := by
  unfold unchecked at h
  cases f with
  | answered checked =>
    refine ⟨checked, rfl, ?_⟩
    exact answered.inj ((unchecked_answered call checked).symm.trans h)
  | _ =>
    split at h
    · cases h
    · cases h

end Frame

/-! ## Actions of a thread -/

namespace Worker

variable {w : Surroundings} {spurious : Bool} {m : Machine} {lockedBy : Option Nat}

/-- A thread that makes no call has an answer to each that it has begun. -/
theorem length_frames_of_none {r : Worker} (hframe : r.frame = none) :
    r.frames.length = r.answers.length := by
  rw [length_frames, hframe]
  rfl

/-- The first of the calls that a thread still has to make, and those behind it. -/
theorem next_of_drop {cs rest : List Call} {call : Call} {n : Nat} (h : cs.drop n = call :: rest) :
    cs[n]? = some call ∧ cs.drop (n + 1) = rest := by
  constructor
  · rw [← Nat.add_zero n, ← List.getElem?_drop, h]
    rfl
  · rw [← List.drop_drop, h]
    rfl

/-- A thread that makes no call begins the next one. -/
theorem step_begin {r : Worker} {call : Call} {rest : List Call} (hframe : r.frame = none)
    (hw : r.waiting = call :: rest) :
    r.step w spurious m lockedBy =
      ({ r with waiting := rest, frame := some (Frame.begin w r.thread m call).1 },
        (Frame.begin w r.thread m call).2, lockedBy) := by
  simp only [step, hframe, hw]

/-- A thread whose present call has no answer goes on with it. -/
theorem step_frame {r : Worker} {frame : Frame} (hframe : r.frame = some frame)
    (hne : ∀ answer, frame ≠ .answered answer) :
    r.step w spurious m lockedBy =
      ({ r with frame := some (frame.step w r.thread spurious m lockedBy).frame },
        (frame.step w r.thread spurious m lockedBy).machine,
        (frame.step w r.thread spurious m lockedBy).lockedBy) := by
  cases frame with
  | answered answer => exact absurd rfl (hne answer)
  | _ => simp only [step, hframe]

/-- A thread whose present call has an answer takes it. -/
theorem step_answered {r : Worker} {answer : Answer} (hframe : r.frame = some (.answered answer)) :
    r.step w spurious m lockedBy =
      ({ r with frame := none, answers := r.answers ++ [answer] }, m, lockedBy) := by
  simp only [step, hframe]

/-- Every call of the thread stands where its checked form does. -/
theorem frames_unchecked (cs : List Call) (r : Worker) :
    (r.unchecked cs).frames = r.frames.mapIdx fun k frame => frame.unchecked cs[k]? := by
  have hanswers : (r.answers.map Frame.answered).mapIdx (fun k frame => frame.unchecked cs[k]?) =
      (r.answers.mapIdx fun k answer => answer.unchecked cs[k]?).map Frame.answered := by
    rw [List.mapIdx_eq_iff]
    intro k
    simp only [List.getElem?_map, List.getElem?_mapIdx, Option.map_map]
    exact congrFun (congrArg Option.map (funext fun answer =>
      (Frame.unchecked_answered cs[k]? answer).symm)) _
  show (r.answers.mapIdx _).map Frame.answered ++ (r.frame.map _).toList = _
  rw [← hanswers, frames]
  cases r.frame with
  | none => rw [Option.map_none, Option.toList_none, List.append_nil, List.append_nil]
  | some frame =>
    rw [Option.map_some, Option.toList_some, Option.toList_some, List.mapIdx_concat,
      List.length_map]

/-- A thread that begins a call, or goes on with it, does so in both forms. -/
theorem unchecked_act (cs : List Call) (r : Worker) (waiting : List Call) (frame : Frame) :
    ({ r with waiting, frame := some frame } : Worker).unchecked cs =
      { r.unchecked cs with
        waiting := cs.drop (r.answers.length + 1)
        frame := some (frame.unchecked cs[r.answers.length]?) } := by
  show Worker.mk _ (cs.drop (frames _).length) _ _ = _
  rw [length_frames]
  rfl

/-- A thread that takes an answer does so in both forms. -/
theorem unchecked_collect (cs : List Call) {r : Worker} {answer : Answer}
    (h : r.frame = some (.answered answer)) :
    ({ r with frame := none, answers := r.answers ++ [answer] } : Worker).unchecked cs =
      { r.unchecked cs with
        frame := none
        answers := (r.unchecked cs).answers ++ [answer.unchecked cs[r.answers.length]?] } := by
  show Worker.mk _ (cs.drop (frames _).length) _ (List.mapIdx _ (r.answers ++ [answer])) = _
  rw [frames_collect h, List.mapIdx_concat]
  rfl

/-- **An action of a thread** is that of the thread that was given the checked forms. -/
theorem step_unchecked {cs : List Call} {r : Worker}
    (hwaiting : r.waiting = (cs.map Call.checkedForm).drop r.frames.length) :
    (r.unchecked cs).step w spurious m lockedBy =
      ((r.step w spurious m lockedBy).1.unchecked cs, (r.step w spurious m lockedBy).2) := by
  have hframe' : (r.unchecked cs).frame = r.frame.map (Frame.unchecked cs[r.answers.length]?) := rfl
  cases hframe : r.frame with
  | none =>
    have hlength := length_frames_of_none hframe
    have hdrop : (r.unchecked cs).waiting = cs.drop r.answers.length := by rw [← hlength]; rfl
    rw [hframe] at hframe'
    rw [hlength, ← List.map_drop, ← hdrop] at hwaiting
    cases hw : (r.unchecked cs).waiting with
    | nil =>
      rw [hw] at hwaiting
      simp only [step, hframe', hframe, Option.map_none, hw, hwaiting, List.map_nil]
    | cons call rest =>
      rw [hw] at hwaiting hdrop
      obtain ⟨hcall, hrest⟩ := next_of_drop hdrop.symm
      rw [step_begin hframe' hw, step_begin hframe hwaiting, unchecked_act, hrest, hcall,
        Frame.begin_unchecked]
      rfl
  | some frame =>
    rw [hframe, Option.map_some] at hframe'
    by_cases hanswered : ∃ answer, frame = .answered answer
    · obtain ⟨answer, rfl⟩ := hanswered
      rw [Frame.unchecked_answered] at hframe'
      rw [step_answered hframe', step_answered hframe, unchecked_collect cs hframe]
    · have hne : ∀ answer, frame ≠ .answered answer := fun answer h => hanswered ⟨answer, h⟩
      have hne' : ∀ answer, frame.unchecked cs[r.answers.length]? ≠ .answered answer := by
        intro answer h
        obtain ⟨checked, heq, -⟩ := Frame.unchecked_eq_answered h
        exact hne checked heq
      have hlength : r.frames.length = r.answers.length + 1 := by
        rw [length_frames, hframe]
        rfl
      rw [step_frame hframe' hne', step_frame hframe hne, unchecked_act cs r r.waiting, ← hlength,
        Frame.step_unchecked]
      rfl

end Worker

/-! ## Runs -/

namespace Crowd

variable {w : Surroundings} {calls : List (List Call)} {c : Crowd}

theorem getElem?_workers_unchecked (calls : List (List Call)) (c : Crowd) (i : Nat) :
    (c.unchecked calls).workers[i]? = c.workers[i]?.map (·.unchecked (calls[i]?.getD [])) :=
  List.getElem?_mapIdx

/-- Every call of the crowd stands where its checked form does. -/
theorem frame?_unchecked (calls : List (List Call)) (c : Crowd) (id : CallId) :
    (c.unchecked calls).frame? id = (c.frame? id).map (Frame.unchecked (call? calls id)) := by
  have hcall : call? calls id = (calls[id.thread]?.getD [])[id.index]? := by
    unfold call?
    cases calls[id.thread]? <;> rfl
  rw [frame?, frame?, getElem?_workers_unchecked, hcall]
  cases c.workers[id.thread]? with
  | none => rfl
  | some r =>
    show (r.unchecked _).frames[id.index]? = r.frames[id.index]?.map _
    rw [Worker.frames_unchecked, List.getElem?_mapIdx]

/-- A call answers what its checked form answers, less the status if it is a plain one. -/
theorem result?_unchecked (calls : List (List Call)) (c : Crowd) (id : CallId) :
    (c.unchecked calls).result? id = (c.result? id).map (Answer.unchecked (call? calls id)) := by
  apply Option.ext
  intro answer
  rw [result?_eq_some_iff, frame?_unchecked, Option.map_eq_some_iff, Option.map_eq_some_iff]
  constructor
  · rintro ⟨frame, hframe, heq⟩
    obtain ⟨checked, rfl, hanswer⟩ := Frame.unchecked_eq_answered heq
    exact ⟨checked, result?_eq_some_iff.mpr hframe, hanswer⟩
  · rintro ⟨checked, hchecked, rfl⟩
    exact ⟨_, result?_eq_some_iff.mp hchecked, Frame.unchecked_answered _ _⟩

/-- An action of a crowd is that of the crowd that was given the checked forms. -/
theorem step_unchecked (hc : c.Sound w (calls.map (·.map Call.checkedForm))) (i : Nat)
    (spurious : Bool) :
    (c.step w i spurious).unchecked calls = (c.unchecked calls).step w i spurious := by
  have hworker := getElem?_workers_unchecked calls c i
  cases hi : c.workers[i]? with
  | none =>
    rw [hi] at hworker
    simp only [step, hi, hworker, Option.map_none]
  | some r =>
    obtain ⟨cs', hcs', hwaiting⟩ := hc.waiting hi
    rw [List.getElem?_map, Option.map_eq_some_iff] at hcs'
    obtain ⟨cs, hcs, rfl⟩ := hcs'
    rw [hi, Option.map_some, hcs, Option.getD_some] at hworker
    have hstep := @Worker.step_unchecked w spurious c.machine c.lockedBy cs r hwaiting
    have hmachine : (c.unchecked calls).machine = c.machine := rfl
    have hlocked : (c.unchecked calls).lockedBy = c.lockedBy := rfl
    simp only [step, hi, hworker, hmachine, hlocked, hstep]
    simp only [unchecked, List.mapIdx_set, hcs, Option.getD_some]

/-- **The crowd does what it does in checked form**, up to the statuses that plain calls do not
answer. -/
theorem run_unchecked (hc : c.Sound w (calls.map (·.map Call.checkedForm)))
    (schedule : List (Nat × Bool)) :
    (c.run w schedule).unchecked calls = (c.unchecked calls).run w schedule := by
  induction schedule generalizing c with
  | nil => rfl
  | cons s schedule ih =>
    rw [run_cons, run_cons, ← step_unchecked hc, ih (step_sound hc s.1 s.2)]

theorem calls_checkedForms (threads : List (Nat × List Call)) :
    (checkedForms threads).map Prod.snd =
      (threads.map Prod.snd).map (·.map Call.checkedForm) := by
  rw [checkedForms, List.map_map, List.map_map]
  rfl

theorem sound_checkedForms (w : Surroundings) (threads : List (Nat × List Call)) :
    (ofThreads (checkedForms threads)).Sound w
      ((threads.map Prod.snd).map (·.map Call.checkedForm)) :=
  calls_checkedForms threads ▸ sound_ofThreads w (checkedForms threads)

theorem unchecked_ofThreads (threads : List (Nat × List Call)) :
    (ofThreads (checkedForms threads)).unchecked (threads.map Prod.snd) = ofThreads threads := by
  have hworkers : ((checkedForms threads).map fun t => Worker.ofCalls t.1 t.2).mapIdx
      (fun i r => r.unchecked ((threads.map Prod.snd)[i]?.getD [])) =
        threads.map fun t => .ofCalls t.1 t.2 := by
    rw [List.mapIdx_eq_iff]
    intro i
    simp only [checkedForms, List.getElem?_map, Option.map_map]
    cases threads[i]? <;> rfl
  simp only [unchecked, ofThreads, ofMachine, hworkers]

/-- **A process does what it does where every call is made in its checked form**, up to the statuses
that plain calls do not answer. -/
theorem run_checkedForms (w : Surroundings) (threads : List (Nat × List Call))
    (schedule : List (Nat × Bool)) :
    (ofThreads threads).run w schedule =
      ((ofThreads (checkedForms threads)).run w schedule).unchecked (threads.map Prod.snd) := by
  rw [run_unchecked (sound_checkedForms w threads), unchecked_ofThreads]

end Crowd

end VmSupport
