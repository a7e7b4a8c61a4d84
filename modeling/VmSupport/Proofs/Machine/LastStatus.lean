import VmSupport.Proofs.Machine.CheckedForm
import VmSupport.Proofs.Machine.HeapLedger

/-!
# The last status of a thread

**The law** (`Crowd.last_status`): whatever threads call what, and in whatever order they act, the
last status of a thread is the one with which its latest call ended that records one, and `ok` as long
as there was none. A call that asks for it is answered so. Other threads have no part in it, and
neither have the thread's own calls that record nothing.

**The status with which a call ends** is what it answers, if it answers one. The plain call for
memory answers none, so its status is the one that the checked call in its place would answer
(`Crowd.ended?` reads it from the crowd of the checked forms); it is `ok` exactly if the address is
not zero.

The invariant is one for each thread (`Worker.Recorded`). An action of a call records the status that
the call has ended with, if it has, and leaves the statuses of the other threads alone
(`Frame.Records`).
-/

namespace VmSupport

open Heap (CallId HeapError)

/-! ## What is claimed -/

/-- The status in an answer. -/
def Answer.status? : Answer → Option Status
  | .status s => some s
  | .checked s _ => some s
  | _ => none

/-- The answer is one of a call that ended with this status: it is the status, or it is an address
exactly if the status is `ok`. -/
def Answer.Tells (call : Call) (s : Status) (answer : Answer) : Prop :=
  match call with
  | .start _ | .startDefault => answer = .status s
  | .allocateChecked _ _ =>
    ∃ written, answer = .checked s written ∧ (s = .ok ↔ written.isSome = true)
  | .allocate _ => ∃ address, answer = .number address ∧ (s = .ok ↔ address ≠ 0)
  | _ => False

/-- The answer that a call has come to. -/
def Frame.answer? : Frame → Option Answer
  | .answered answer => some answer
  | _ => none

/-- The status that a call has ended with, as far as its answer has one. -/
def Frame.ended? (call : Call) (frame : Frame) : Option Status :=
  if call.records then frame.answer?.bind Answer.status? else none

/-- The status with which the latest of so many calls ended that recorded one. -/
def lastEnded (ended : Nat → Option Status) : Nat → Status
  | 0 => .ok
  | k + 1 => (ended k).getD (lastEnded ended k)

namespace Crowd

/-- The status that a call has ended with, as far as its answer has one. -/
def ended? (calls : List (List Call)) (c : Crowd) (id : CallId) : Option Status :=
  (call? calls id).bind fun call => (c.frame? id).bind (Frame.ended? call)

/-- **What the last status means** for a crowd whose threads were given these calls, and in which
calls have ended with these statuses. -/
structure LastStatus (w : Surroundings) (calls : List (List Call)) (c : Crowd)
    (ended : CallId → Option Status) : Prop where
  /-- A call that records a status has ended with one as soon as it is answered, and tells it. -/
  tells : ∀ {id call answer}, call? calls id = some call → call.records = true →
    c.result? id = some answer → ∃ s, ended id = some s ∧ answer.Tells call s
  /-- A call that is not answered has not ended. -/
  pending : ∀ {id}, c.result? id = none → ended id = none
  /-- Other calls end without a status. -/
  silent : ∀ {id call}, call? calls id = some call → call.records = false → ended id = none
  /-- The last status is that of the latest call of the thread before. -/
  asked : ∀ {id answer}, call? calls id = some .lastStatus → c.result? id = some answer →
    answer = .status (lastEnded (fun k => ended ⟨id.thread, k⟩) id.index)
  /-- At any time it is that of the latest call of the thread so far. -/
  current : ∀ {i r}, c.workers[i]? = some r →
    c.machine.statuses r.thread = lastEnded (fun k => ended ⟨i, k⟩) r.frames.length
  /-- Only the thread itself changes it, in a call that records a status. -/
  kept : ∀ i spurious thread,
    (c.step w i spurious).machine.statuses thread ≠ c.machine.statuses thread →
    ∃ r call, c.workers[i]? = some r ∧ r.thread = thread ∧
      call? calls ⟨i, r.answers.length⟩ = some call ∧ call.records = true

end Crowd

/-! ## The latest status -/

theorem lastEnded_congr {ended ended' : Nat → Option Status} {n : Nat}
    (h : ∀ k < n, ended' k = ended k) : lastEnded ended' n = lastEnded ended n := by
  induction n with
  | zero => rfl
  | succ n ih =>
    rw [lastEnded, lastEnded, h n (Nat.lt_succ_self n), ih fun k hk => h k (Nat.lt_succ_of_lt hk)]

/-! ## Actions of a call -/

theorem Status.ofHeapError_ne_ok (e : HeapError) : Status.ofHeapError e ≠ .ok := by
  cases e <;> exact fun h => by cases h

theorem Call.records_checkedForm (call : Call) : call.checkedForm.records = call.records := by
  cases call <;> rfl

theorem Call.checkedForm_checkedForm (call : Call) :
    call.checkedForm.checkedForm = call.checkedForm := by
  cases call <;> rfl

/-- An answer that tells a status has it, unless it is that of a plain call. -/
theorem Answer.Tells.status?_eq {call : Call} {s : Status} {answer : Answer}
    (h : answer.Tells call.checkedForm s) : answer.status? = some s := by
  cases call with
  | start _ | startDefault =>
    obtain rfl := h
    rfl
  | allocate _ | allocateChecked _ _ =>
    obtain ⟨written, rfl, -⟩ := h
    rfl
  | _ => exact h.elim

namespace Frame

/-- **What an action of a call does to the statuses**: it records the status that the call has ended
with, if it has, for its thread. -/
structure Records (thread : Nat) (call : Call) (m : Machine) (new : Frame) (m' : Machine) :
    Prop where
  own : m'.statuses thread = (new.ended? call).getD (m.statuses thread)
  others : ∀ other, other ≠ thread → m'.statuses other = m.statuses other
  tells : ∀ answer, call.records = true → new.answer? = some answer → ∃ s, answer.Tells call s
  asked : ∀ answer, call = .lastStatus → new.answer? = some answer →
    answer = .status (m.statuses thread)

section

variable {w : Surroundings} {thread : Nat} {call : Call} {m m' : Machine} {new : Frame}

/-- A call that goes on records nothing. -/
theorem records_going (hm : m'.statuses = m.statuses) (hnew : new.answer? = none) :
    Records thread call m new m' where
  own := by
    rw [hm, ended?, hnew, Option.bind_none, ite_self, Option.getD_none]
  others := fun other _ => congrFun hm other
  tells := by
    intro answer _ h
    rw [hnew] at h
    cases h
  asked := by
    intro answer _ h
    rw [hnew] at h
    cases h

/-- A call that records no status has recorded nothing when it comes to its end. -/
theorem records_silent (hm : m'.statuses = m.statuses) (hcall : call.records = false)
    (hasked : ∀ answer, call = .lastStatus → new.answer? = some answer →
      answer = .status (m.statuses thread)) : Records thread call m new m' where
  own := by
    rw [hm, ended?, hcall, if_neg Bool.false_ne_true, Option.getD_none]
  others := fun other _ => congrFun hm other
  tells := by
    intro answer h
    rw [hcall] at h
    cases h
  asked := hasked

/-- A call that has come to its end with a status records it. -/
theorem records_ended {s : Status} {answer : Answer} (hcall : call.checkedForm = call)
    (hm : m'.statuses = (m.record thread s).statuses) (htells : answer.Tells call s)
    (hrecords : call.records = true) : Records thread call m (.answered answer) m' where
  own := by
    have hstatus : (answered answer).answer?.bind Answer.status? = some s :=
      (hcall.symm ▸ htells).status?_eq
    rw [hm, Machine.record_statuses_same, ended?, if_pos hrecords, hstatus, Option.getD_some]
  others := by
    intro other hne
    rw [hm, Machine.record_statuses_other m s hne]
  tells := by
    intro answer' _ h
    cases h
    exact ⟨s, htells⟩
  asked := by
    rintro answer' rfl
    cases hrecords

/-- A start that begins with the log records nothing yet. -/
theorem records_afterLog {caller : InitCaller} {held : Bool} {log : LogSettings} {capacity : Nat}
    (hm : m'.statuses = m.statuses) :
    Records thread call m (afterLog caller capacity m' (Machine.installLog w held log m')).1
      (afterLog caller capacity m' (Machine.installLog w held log m')).2 := by
  cases hlog : Machine.installLog w held log m' with
  | error fault =>
    cases caller with
    | library => exact records_going hm rfl
    | outside => exact records_going hm rfl
  | ok result =>
    exact records_going ((Machine.installLog_statuses hlog).trans hm) rfl

/-- A call of one action that records no status. -/
theorem records_call (w : Surroundings) (thread : Nat) (m : Machine) {call : Call}
    (hcall : call.records = false) :
    let s : Frame × Machine := match m.call w thread call with
      | (.returned a, m) => (.answered a, m)
      | (.aborted, m) => (.aborted, m)
      | (.faulted f, m) => (.faulted f, m)
    Records thread call m s.1 s.2 := by
  have hstatuses : (m.call w thread call).2.statuses = m.statuses := Machine.call_statuses hcall
  have hasked : call = .lastStatus → m.call w thread call =
      (.returned (.status (m.statuses thread)), m) := by
    rintro rfl
    rfl
  generalize m.call w thread call = s at hstatuses hasked
  obtain ⟨outcome, m'⟩ := s
  cases outcome with
  | returned answer =>
    refine records_silent hstatuses hcall ?_
    intro answer' hlast h
    cases h
    cases hasked hlast
    rfl
  | aborted => exact records_silent hstatuses hcall fun _ _ h => by cases h
  | faulted fault => exact records_silent hstatuses hcall fun _ _ h => by cases h

/-- **The first action of a call** records the status that the call has ended with, if it has. -/
theorem begin_records (w : Surroundings) (thread : Nat) (m : Machine) {call : Call}
    (hcall : call.checkedForm = call) :
    Records thread call m (begin w thread m call).1 (begin w thread m call).2 := by
  cases call with
  | init capacity => exact records_going rfl rfl
  | bootstrap s => exact records_afterLog rfl
  | start capacity =>
    simp only [begin]
    split
    · exact records_ended rfl rfl rfl rfl
    · exact records_afterLog rfl
  | startDefault => exact records_afterLog (Machine.reportAll_statuses m _)
  | allocate size => cases hcall
  | allocateChecked isNull size =>
    cases isNull with
    | false => exact records_going rfl rfl
    | true => exact records_ended rfl rfl ⟨none, rfl, by decide⟩ rfl
  | _ => exact records_call w thread m rfl

/-- The answer to a call that wanted a heap in place. -/
theorem answerInit_records (thread : Nat) (m : Machine) {caller : InitCaller} {capacity : Nat}
    (result : Except HeapError Nat) (hwants : call.Wants caller capacity) :
    Records thread call m (answerInit thread m result caller).1
      (answerInit thread m result caller).2 := by
  cases call with
  | init _ | bootstrap _ =>
    obtain ⟨rfl, -⟩ := hwants
    exact records_silent rfl rfl fun _ h => by cases h
  | start _ | startDefault =>
    obtain rfl := hwants
    cases result with
    | ok size => exact records_ended rfl rfl rfl rfl
    | error e => exact records_ended rfl rfl rfl rfl
  | _ => exact hwants.elim

/-- The answer to a call that asked for memory. -/
theorem answerBlock_records (thread : Nat) (m : Machine) {caller : BlockCaller} {size : Int32}
    (result : Except HeapError Nat) (hasks : call.Asks caller size)
    (hcall : call.checkedForm = call) :
    Records thread call m (answerBlock thread m result caller).1
      (answerBlock thread m result caller).2 := by
  cases call with
  | allocate _ => cases hcall
  | allocateChecked isNull _ =>
    obtain ⟨rfl, rfl, rfl⟩ := hasks
    cases result with
    | ok address => exact records_ended rfl rfl ⟨some address, rfl, fun _ => rfl, fun _ => rfl⟩ rfl
    | error e =>
      have hstatus : Status.ofHeapError e = .ok ↔ (none : Option Nat).isSome = true :=
        iff_of_false (Status.ofHeapError_ne_ok e) Bool.false_ne_true
      exact records_ended rfl rfl ⟨none, rfl, hstatus⟩ rfl
  | _ => exact hasks.elim

/-- **An action of a call at a sound frame** records the status that the call has ended with, if it
has. -/
theorem step_records {f : Frame} (hf : f.Sound w m.heap call) (hcall : call.checkedForm = call)
    (hne : ∀ answer, f ≠ .answered answer) (thread : Nat) (spurious : Bool)
    (lockedBy : Option Nat) :
    let s := f.step w thread spurious m lockedBy
    Records thread call m s.frame s.machine := by
  cases f with
  | lock caller capacity =>
    cases lockedBy <;> exact records_going rfl rfl
  | check caller capacity =>
    simp only [step]
    split <;> exact records_going rfl rfl
  | reserve caller capacity =>
    simp only [step]
    split <;> exact records_going rfl rfl
  | set caller h =>
    simp only [step]
    split <;> exact records_going rfl rfl
  | confirm caller h =>
    simp only [step]
    split <;> exact records_going rfl rfl
  | unlock caller result => exact records_going rfl rfl
  | finish caller result =>
    obtain ⟨capacity, hwants, -⟩ := hf
    exact answerInit_records thread m result hwants
  | find caller size =>
    simp only [step]
    split
    · exact records_going rfl rfl
    · exact answerBlock_records thread m _ hf hcall
  | serve caller stage =>
    obtain ⟨size, heap, hasks, hheap, -⟩ := hf
    simp only [step, hheap]
    split
    · exact answerBlock_records thread m _ hasks hcall
    · split
      · exact records_going rfl rfl
      · exact answerBlock_records thread m _ hasks hcall
    · exact records_going rfl rfl
    · exact records_going (Machine.reportAll_statuses _ _) rfl
  | answered answer => exact absurd rfl (hne answer)
  | aborted => exact records_going rfl rfl
  | faulted fault => exact records_going rfl rfl

end

theorem answer?_of_ne {f : Frame} (hne : ∀ answer, f ≠ .answered answer) : f.answer? = none := by
  cases f with
  | answered answer => exact absurd rfl (hne answer)
  | _ => rfl

end Frame

/-! ## Actions of a thread -/

namespace Worker

/-- The status that the call with this number has ended with, as far as its answer has one. -/
def ended? (cs : List Call) (r : Worker) (k : Nat) : Option Status :=
  cs[k]?.bind fun call => r.frames[k]?.bind (Frame.ended? call)

/-- **What is invariably true of the last status** of a thread that was given these calls. -/
structure Recorded (cs : List Call) (statuses : Nat → Status) (r : Worker) : Prop where
  current : statuses r.thread = lastEnded (r.ended? cs) r.frames.length
  asked : ∀ {k : Nat} {answer : Answer}, cs[k]? = some .lastStatus →
    r.frames[k]? = some (.answered answer) → answer = .status (lastEnded (r.ended? cs) k)
  tells : ∀ {k : Nat} {call : Call} {answer : Answer}, cs[k]? = some call →
    call.records = true → r.frames[k]? = some (.answered answer) → ∃ s, answer.Tells call s

/-- What one action of a thread can do to its calls and to the statuses: nothing, or it records what
an action of its present call does. -/
inductive Steps (cs : List Call) (m : Machine) (r : Worker) : Worker → Machine → Prop
  | still {r' : Worker} {m' : Machine} (hframes : r'.frames = r.frames)
    (hthread : r'.thread = r.thread) (hm : m'.statuses = m.statuses) : Steps cs m r r' m'
  | act {call : Call} {new : Frame} {m' : Machine} (waiting : List Call)
    (hcall : cs[r.answers.length]? = some call)
    (hopen : ∀ frame, r.frame = some frame → frame.answer? = none)
    (hm : Frame.Records r.thread call m new m') :
    Steps cs m r { r with waiting, frame := some new } m'

variable {w : Surroundings} {cs : List Call} {m m' : Machine} {r r' : Worker}

/-- An action of a thread at sound frames, each call in its checked form. -/
theorem step_steps (hform : ∀ call ∈ cs, call.checkedForm = call)
    (hwaiting : r.waiting = cs.drop r.frames.length)
    (hframes : ∀ {k : Nat} {frame : Frame}, r.frames[k]? = some frame →
      ∃ call, cs[k]? = some call ∧ frame.Sound w m.heap call)
    (spurious : Bool) (lockedBy : Option Nat) :
    Steps cs m r (r.step w spurious m lockedBy).1 (r.step w spurious m lockedBy).2.1 := by
  cases hframe : r.frame with
  | none =>
    have hopen : ∀ frame, r.frame = some frame → frame.answer? = none := by
      intro frame h
      rw [hframe] at h
      cases h
    cases hw : r.waiting with
    | nil =>
      simp only [step, hframe, hw]
      exact .still rfl rfl rfl
    | cons call rest =>
      rw [length_frames_of_none hframe, hw] at hwaiting
      obtain ⟨hcall, -⟩ := next_of_drop hwaiting.symm
      rw [step_begin hframe hw]
      exact .act rest hcall hopen
        (Frame.begin_records w r.thread m (hform call (List.mem_of_getElem? hcall)))
  | some frame =>
    by_cases hanswered : ∃ answer, frame = .answered answer
    · obtain ⟨answer, rfl⟩ := hanswered
      rw [step_answered hframe]
      exact .still (frames_collect hframe) rfl rfl
    · have hne : ∀ answer, frame ≠ .answered answer := fun answer h => hanswered ⟨answer, h⟩
      have hopen : ∀ frame, r.frame = some frame → frame.answer? = none := by
        intro frame' h
        rw [hframe] at h
        cases h
        exact Frame.answer?_of_ne hne
      obtain ⟨call, hcall, hsound⟩ := hframes (r.getElem?_frames_present.trans hframe)
      rw [step_frame hframe hne]
      exact .act r.waiting hcall hopen
        (Frame.step_records hsound (hform call (List.mem_of_getElem? hcall)) hne _ _ _)

/-- A call of a thread that begins or goes on with its present call is that one, or one before. -/
theorem frames_act_cases {waiting : List Call} {new frame : Frame} {k : Nat}
    (h : ({ r with waiting, frame := some new } : Worker).frames[k]? = some frame) :
    (k = r.answers.length ∧ frame = new) ∨
      (k < r.answers.length ∧ r.frames[k]? = some frame) := by
  have hlt : k < r.answers.length + 1 := by
    have hlength := length_frames { r with waiting, frame := some new }
    exact hlength ▸ (List.getElem?_eq_some_iff.mp h).1
  rw [getElem?_frames_act] at h
  by_cases hk : k = r.answers.length
  · rw [if_pos hk] at h
    exact .inl ⟨hk, (Option.some.inj h).symm⟩
  · rw [if_neg hk] at h
    exact .inr ⟨Nat.lt_of_le_of_ne (Nat.le_of_lt_succ hlt) hk, h⟩

/-- The calls before the present one have ended as they had. -/
theorem lastEnded_act (cs waiting : List Call) (new : Frame) {k : Nat}
    (hk : k ≤ r.answers.length) :
    lastEnded (({ r with waiting, frame := some new } : Worker).ended? cs) k =
      lastEnded (r.ended? cs) k := by
  refine lastEnded_congr fun j hj => ?_
  rw [ended?, getElem?_frames_act, if_neg (Nat.ne_of_lt (Nat.lt_of_lt_of_le hj hk))]
  rfl

/-- A call that is not answered has not ended. -/
theorem lastEnded_open (cs : List Call)
    (hopen : ∀ frame, r.frame = some frame → frame.answer? = none) :
    lastEnded (r.ended? cs) r.frames.length = lastEnded (r.ended? cs) r.answers.length := by
  rw [length_frames]
  cases hframe : r.frame with
  | none => rfl
  | some frame =>
    have hnone : r.ended? cs r.answers.length = none := by
      rw [ended?, getElem?_frames_present, hframe]
      cases cs[r.answers.length]? with
      | none => rfl
      | some call =>
        rw [Option.bind_some, Option.bind_some, Frame.ended?, hopen frame hframe,
          Option.bind_none, ite_self]
    show (r.ended? cs r.answers.length).getD _ = _
    rw [hnone, Option.getD_none]

namespace Steps

theorem thread_eq (hs : Steps cs m r r' m') : r'.thread = r.thread := by
  cases hs with
  | still hframes hthread hm => exact hthread
  | act waiting hcall hopen hm => rfl

/-- An action of a thread leaves the statuses of the others alone. -/
theorem others (hs : Steps cs m r r' m') {other : Nat} (hne : other ≠ r.thread) :
    m'.statuses other = m.statuses other := by
  cases hs with
  | still hframes hthread hm => exact congrFun hm other
  | act waiting hcall hopen hm => exact hm.others other hne

/-- Only a call that records a status changes that of its thread. -/
theorem records_of_ne (hs : Steps cs m r r' m')
    (hne : m'.statuses r.thread ≠ m.statuses r.thread) :
    ∃ call, cs[r.answers.length]? = some call ∧ call.records = true := by
  cases hs with
  | still hframes hthread hm => exact absurd (congrFun hm _) hne
  | @act call new _ waiting hcall hopen hm =>
    refine ⟨call, hcall, ?_⟩
    rw [← Bool.not_eq_false]
    intro hsilent
    refine hne ?_
    rw [hm.own, Frame.ended?, hsilent, if_neg Bool.false_ne_true, Option.getD_none]

/-- An action of a thread keeps what is true of its last status. -/
theorem recorded (hs : Steps cs m r r' m') (h : r.Recorded cs m.statuses) :
    r'.Recorded cs m'.statuses := by
  cases hs with
  | still hframes hthread hm =>
    have hended : r'.ended? cs = r.ended? cs := by
      funext k
      rw [ended?, hframes]
      rfl
    constructor
    · rw [hm, hthread, hended, hframes]
      exact h.current
    · rw [hended, hframes]
      exact h.asked
    · rw [hframes]
      exact h.tells
  | @act call new _ waiting hcall hopen hm =>
    have hlast : m.statuses r.thread = lastEnded (r.ended? cs) r.answers.length :=
      h.current.trans (lastEnded_open cs hopen)
    constructor
    · rw [length_frames]
      show m'.statuses r.thread = Option.getD (ended? cs _ r.answers.length) (lastEnded _ _)
      rw [lastEnded_act cs waiting new (Nat.le_refl _), ← hlast, hm.own, ended?, hcall,
        getElem?_frames_act, if_pos rfl]
      rfl
    · intro k answer hask hframe
      obtain ⟨rfl, hnew⟩ | ⟨hk, hold⟩ := frames_act_cases hframe
      · rw [lastEnded_act cs waiting new (Nat.le_refl _), ← hlast]
        exact hm.asked answer (Option.some.inj (hcall.symm.trans hask)) (hnew ▸ rfl)
      · rw [lastEnded_act cs waiting new (Nat.le_of_lt hk)]
        exact h.asked hask hold
    · intro k call' answer hcall' hrecords hframe
      obtain ⟨rfl, hnew⟩ | ⟨hk, hold⟩ := frames_act_cases hframe
      · cases hcall.symm.trans hcall'
        exact hm.tells answer hrecords (hnew ▸ rfl)
      · exact h.tells hcall' hrecords hold

end Steps

/-- What is true of the last status of a thread stays so while others act. -/
theorem Recorded.of_eq {statuses statuses' : Nat → Status} (h : r.Recorded cs statuses)
    (hsame : statuses' r.thread = statuses r.thread) : r.Recorded cs statuses' where
  current := hsame.trans h.current
  asked := h.asked
  tells := h.tells

end Worker

/-! ## Runs -/

namespace Crowd

variable {w : Surroundings} {calls : List (List Call)} {c : Crowd}

/-- **The invariant**: no two threads have one number, and of each thread is recorded what should
be. -/
structure Recorded (calls : List (List Call)) (c : Crowd) : Prop where
  apart : (c.workers.map Worker.thread).Nodup
  each : ∀ {i : Nat} {r : Worker}, c.workers[i]? = some r →
    ∃ cs, calls[i]? = some cs ∧ r.Recorded cs c.machine.statuses

/-- An action of a sound crowd, seen from the thread that acts. -/
theorem step_steps (hc : c.Sound w calls)
    (hform : ∀ cs ∈ calls, ∀ call ∈ cs, call.checkedForm = call) {i : Nat} {r : Worker}
    {cs : List Call} (hr : c.workers[i]? = some r) (hcs : calls[i]? = some cs) (spurious : Bool) :
    ∃ r', Worker.Steps cs c.machine r r' (c.step w i spurious).machine ∧
      (c.step w i spurious).workers = c.workers.set i r' := by
  obtain ⟨cs', hcs', hwaiting⟩ := hc.waiting hr
  cases hcs.symm.trans hcs'
  have hframes : ∀ {k : Nat} {frame : Frame}, r.frames[k]? = some frame →
      ∃ call, cs[k]? = some call ∧ frame.Sound w c.machine.heap call := by
    intro k frame hk
    have hframe : c.frame? ⟨i, k⟩ = some frame := by
      rw [frame?, hr]
      exact hk
    obtain ⟨call, hcall, hsound⟩ := hc.frames hframe
    rw [call?, hcs] at hcall
    exact ⟨call, hcall, hsound⟩
  have hsteps := Worker.step_steps (hform cs (List.mem_of_getElem? hcs)) hwaiting hframes spurious
    c.lockedBy
  simp only [step, hr]
  exact ⟨_, hsteps, rfl⟩

/-- An action keeps the invariant. -/
theorem step_recorded (hc : c.Sound w calls)
    (hform : ∀ cs ∈ calls, ∀ call ∈ cs, call.checkedForm = call) (h : c.Recorded calls) (i : Nat)
    (spurious : Bool) : (c.step w i spurious).Recorded calls := by
  cases hi : c.workers[i]? with
  | none =>
    simp only [step, hi]
    exact h
  | some r =>
    obtain ⟨cs, hcs, hr⟩ := h.each hi
    obtain ⟨r', hsteps, hworkers⟩ := step_steps hc hform hi hcs spurious
    obtain ⟨hlt, hget⟩ := List.getElem?_eq_some_iff.mp hi
    have hlt' : i < (c.workers.map Worker.thread).length := by rwa [List.length_map]
    constructor
    · have hthread : (c.workers.map Worker.thread)[i] = r'.thread := by
        rw [List.getElem_map, hget, hsteps.thread_eq]
      have hsame : (c.workers.set i r').map Worker.thread = c.workers.map Worker.thread := by
        rw [List.map_set, ← hthread, List.set_getElem_self]
      rw [hworkers, hsame]
      exact h.apart
    · intro j q hj
      rw [hworkers, List.getElem?_set] at hj
      by_cases hij : i = j
      · subst hij
        rw [if_pos rfl, if_pos hlt] at hj
        cases hj
        exact ⟨cs, hcs, hsteps.recorded hr⟩
      · rw [if_neg hij] at hj
        obtain ⟨cs', hcs', hq⟩ := h.each hj
        have hne : q.thread ≠ r.thread := by
          intro heq
          refine hij ((List.getElem?_inj hlt' h.apart).mp ?_)
          rw [List.getElem?_map, List.getElem?_map, hi, hj, Option.map_some, Option.map_some, heq]
        exact ⟨cs', hcs', hq.of_eq (hsteps.others hne)⟩

/-- An action changes the last status of its own thread only, in a call that records one. -/
theorem exists_of_changed (hc : c.Sound w calls)
    (hform : ∀ cs ∈ calls, ∀ call ∈ cs, call.checkedForm = call) (h : c.Recorded calls) {i : Nat}
    {spurious : Bool} {thread : Nat}
    (hne : (c.step w i spurious).machine.statuses thread ≠ c.machine.statuses thread) :
    ∃ r call, c.workers[i]? = some r ∧ r.thread = thread ∧
      call? calls ⟨i, r.answers.length⟩ = some call ∧ call.records = true := by
  cases hr : c.workers[i]? with
  | none =>
    refine absurd ?_ hne
    simp only [step, hr]
  | some r =>
    obtain ⟨cs, hcs, -⟩ := h.each hr
    obtain ⟨r', hsteps, -⟩ := step_steps hc hform hr hcs spurious
    have hthread : thread = r.thread := by
      apply Classical.byContradiction
      exact fun hother => hne (hsteps.others hother)
    subst hthread
    obtain ⟨call, hget, hrecords⟩ := hsteps.records_of_ne hne
    refine ⟨r, call, rfl, rfl, ?_, hrecords⟩
    rw [call?, hcs]
    exact hget

/-- **Every schedule keeps the invariant.** -/
theorem run_recorded (hc : c.Sound w calls)
    (hform : ∀ cs ∈ calls, ∀ call ∈ cs, call.checkedForm = call) (h : c.Recorded calls)
    (schedule : List (Nat × Bool)) : (c.run w schedule).Recorded calls := by
  induction schedule generalizing c with
  | nil => exact h
  | cons s schedule ih =>
    exact ih (step_sound hc s.1 s.2) (step_recorded hc hform h s.1 s.2)

/-- Threads with numbers of their own, on a fresh process. -/
theorem recorded_ofThreads {threads : List (Nat × List Call)}
    (hapart : (threads.map Prod.fst).Nodup) :
    (ofThreads threads).Recorded (threads.map Prod.snd) where
  apart := by
    rw [ofThreads, ofMachine, List.map_map]
    exact hapart
  each := by
    intro i r hr
    simp only [ofThreads, ofMachine, List.getElem?_map, Option.map_eq_some_iff] at hr
    obtain ⟨t, ht, rfl⟩ := hr
    refine ⟨t.2, by rw [List.getElem?_map, ht]; rfl, rfl, ?_, ?_⟩
    · intro k answer _ h
      cases h
    · intro k call answer _ _ h
      cases h

/-! ## The law -/

theorem call?_checkedForms (calls : List (List Call)) (id : CallId) :
    call? (calls.map (·.map Call.checkedForm)) id = (call? calls id).map Call.checkedForm := by
  rw [call?, call?, List.getElem?_map]
  cases calls[id.thread]? with
  | none => rfl
  | some cs => exact List.getElem?_map

theorem isChecked_checkedForms {calls : List (List Call)} :
    ∀ cs ∈ calls.map (·.map Call.checkedForm), ∀ call ∈ cs, call.checkedForm = call := by
  intro cs hcs call hcall
  obtain ⟨cs, -, rfl⟩ := List.mem_map.mp hcs
  obtain ⟨call, -, rfl⟩ := List.mem_map.mp hcall
  exact call.checkedForm_checkedForm

/-- The statuses with which the calls of one thread have ended. -/
theorem ended?_of_worker {i : Nat} {r : Worker} {cs : List Call} (hr : c.workers[i]? = some r)
    (hcs : calls[i]? = some cs) : (fun k => c.ended? calls ⟨i, k⟩) = r.ended? cs := by
  funext k
  rw [ended?, frame?, call?, hr, hcs]
  rfl

theorem ended?_of_open {id : CallId} (h : c.result? id = none) : c.ended? calls id = none := by
  rw [ended?]
  cases call? calls id with
  | none => rfl
  | some call =>
    cases hframe : c.frame? id with
    | none => rfl
    | some frame =>
      have hne : ∀ answer, frame ≠ .answered answer := by
        rintro answer rfl
        cases h.symm.trans (result?_eq_some_iff.mpr hframe)
      show Frame.ended? call frame = none
      rw [Frame.ended?, Frame.answer?_of_ne hne, Option.bind_none, ite_self]

theorem ended?_of_silent {id : CallId} {call : Call} (hcall : call? calls id = some call)
    (h : call.records = false) : c.ended? calls id = none := by
  rw [ended?, hcall, Option.bind_some]
  cases c.frame? id with
  | none => rfl
  | some frame =>
    show Frame.ended? call frame = none
    rw [Frame.ended?, h, if_neg Bool.false_ne_true]

/-- A call that is answered, on its thread. -/
theorem exists_worker (h : c.Recorded calls) {id : CallId} {call : Call} {answer : Answer}
    (hcall : call? calls id = some call) (hresult : c.result? id = some answer) :
    ∃ r cs, c.workers[id.thread]? = some r ∧ calls[id.thread]? = some cs ∧
      r.Recorded cs c.machine.statuses ∧ cs[id.index]? = some call ∧
      r.frames[id.index]? = some (.answered answer) := by
  obtain ⟨r, hr, hframe⟩ := Option.bind_eq_some_iff.mp (result?_eq_some_iff.mp hresult)
  obtain ⟨cs, hcs, hrecorded⟩ := h.each hr
  rw [call?, hcs] at hcall
  exact ⟨r, cs, hr, hcs, hrecorded, hcall, hframe⟩

/-- A plain call that ended with this status answers an address exactly if the status is `ok`: no
address that the checked form writes is zero. -/
theorem tells_unchecked {call : Call} {s : Status} {answer : Answer}
    (htells : answer.Tells call.checkedForm s)
    (hholds : answer.Holds w c.machine.heap call.checkedForm) :
    (answer.unchecked (some call)).Tells call s := by
  cases call with
  | allocate size =>
    obtain ⟨written, rfl, hiff⟩ := htells
    refine ⟨written.getD 0, rfl, hiff.trans ?_⟩
    cases written with
    | none => exact iff_of_false Bool.false_ne_true fun h => h rfl
    | some address =>
      obtain ⟨h, -, hle, -⟩ := hholds.inside address (Heap.roundUp size) rfl
      exact iff_of_true rfl (Nat.ne_of_gt (Nat.lt_of_lt_of_le h.region.base_pos hle))
  | _ => exact htells

/-- **The last statuses of a crowd**, where each status is that of the checked form of the call. -/
theorem Recorded.lastStatus (hc : c.Sound w (calls.map (·.map Call.checkedForm)))
    (h : c.Recorded (calls.map (·.map Call.checkedForm))) :
    LastStatus w calls (c.unchecked calls) (c.ended? (calls.map (·.map Call.checkedForm))) where
  tells := by
    intro id call answer hcall hrecords hresult
    rw [result?_unchecked, hcall, Option.map_eq_some_iff] at hresult
    obtain ⟨checked, hchecked, rfl⟩ := hresult
    have hcall' := (call?_checkedForms calls id).trans (congrArg _ hcall)
    have hframe := result?_eq_some_iff.mp hchecked
    obtain ⟨call', hcall'', hholds⟩ := hc.frames hframe
    cases hcall'.symm.trans hcall''
    obtain ⟨r, cs, -, -, hrecorded, hget, hanswered⟩ := exists_worker h hcall' hchecked
    have hrecords' := call.records_checkedForm.trans hrecords
    obtain ⟨s, htells⟩ := hrecorded.tells hget hrecords' hanswered
    refine ⟨s, ?_, tells_unchecked htells hholds⟩
    rw [ended?, hcall', hframe]
    show (if call.checkedForm.records then checked.status? else none) = some s
    rw [if_pos hrecords', htells.status?_eq]
  pending := by
    intro id hresult
    rw [result?_unchecked, Option.map_eq_none_iff] at hresult
    exact ended?_of_open hresult
  silent := by
    intro id call hcall hrecords
    have hcall' := (call?_checkedForms calls id).trans (congrArg _ hcall)
    exact ended?_of_silent hcall' (call.records_checkedForm.trans hrecords)
  asked := by
    intro id answer hcall hresult
    rw [result?_unchecked, hcall, Option.map_eq_some_iff] at hresult
    obtain ⟨checked, hchecked, rfl⟩ := hresult
    have hcall' := (call?_checkedForms calls id).trans (congrArg _ hcall)
    obtain ⟨r, cs, hr, hcs, hrecorded, hget, hanswered⟩ := exists_worker h hcall' hchecked
    rw [ended?_of_worker hr hcs]
    exact hrecorded.asked hget hanswered
  current := by
    intro i r hr
    rw [getElem?_workers_unchecked, Option.map_eq_some_iff] at hr
    obtain ⟨r', hr', rfl⟩ := hr
    obtain ⟨cs, hcs, hrecorded⟩ := h.each hr'
    rw [ended?_of_worker hr' hcs, Worker.frames_unchecked, List.length_mapIdx]
    exact hrecorded.current
  kept := by
    intro i spurious thread hne
    rw [← step_unchecked hc] at hne
    obtain ⟨r, checked, hr, hthread, hchecked, hrecords⟩ :=
      exists_of_changed hc isChecked_checkedForms h hne
    rw [call?_checkedForms, Option.map_eq_some_iff] at hchecked
    obtain ⟨call, hcall, rfl⟩ := hchecked
    refine ⟨r.unchecked (calls[i]?.getD []), call, ?_, hthread, ?_, ?_⟩
    · rw [getElem?_workers_unchecked, hr, Option.map_some]
    · show call? calls ⟨i, (r.answers.mapIdx _).length⟩ = some call
      rw [List.length_mapIdx]
      exact hcall
    · exact call.records_checkedForm.symm.trans hrecords

/-- **The last status of a thread is that of its latest call**, whatever threads with numbers of
their own call what, and in whatever order they act. -/
theorem last_status (w : Surroundings) (threads : List (Nat × List Call))
    (hapart : (threads.map Prod.fst).Nodup) (schedule : List (Nat × Bool)) :
    LastStatus w (threads.map Prod.snd) ((ofThreads threads).run w schedule)
      (((ofThreads (checkedForms threads)).run w schedule).ended?
        ((checkedForms threads).map Prod.snd)) := by
  have hsound := sound_checkedForms w threads
  have happart' : ((checkedForms threads).map Prod.fst).Nodup := by
    rw [checkedForms, List.map_map]
    exact hapart
  have hrecorded := calls_checkedForms threads ▸ recorded_ofThreads happart'
  rw [run_checkedForms, calls_checkedForms]
  exact (run_recorded hsound isChecked_checkedForms hrecorded schedule).lastStatus
    (run_sound hsound schedule)

/-- A thread that is refused memory and asks for the cause, and one that passes a null pointer and
asks for the status. -/
def askers : List (Nat × List Call) :=
  [(1, [.allocate 8, .lastStatus]), (2, [.allocateChecked true 8, .lastStatus])]

/-- The first thread is refused, then the second, and then both ask: each is answered its own. -/
theorem last_status_crossing :
    let c := (ofThreads askers).run .quiet ([0, 0, 0, 1, 1, 0, 1].map (·, false))
    c.result? ⟨0, 1⟩ = some (.status .notInitialized) ∧
      c.result? ⟨1, 1⟩ = some (.status .invalidArgument) := by
  have hlast := last_status .quiet askers (by decide) ([0, 0, 0, 1, 1, 0, 1].map (·, false))
  intro c
  obtain ⟨first, hfirst⟩ : ∃ answer, c.result? ⟨0, 1⟩ = some answer := ⟨_, rfl⟩
  obtain ⟨second, hsecond⟩ : ∃ answer, c.result? ⟨1, 1⟩ = some answer := ⟨_, rfl⟩
  rw [hfirst, hsecond, hlast.asked rfl hfirst, hlast.asked rfl hsecond]
  exact ⟨congrArg (fun s => some (Answer.status s)) (by decide +kernel),
    congrArg (fun s => some (Answer.status s)) (by decide +kernel)⟩

end Crowd

end VmSupport
