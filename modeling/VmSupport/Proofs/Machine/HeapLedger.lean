import VmSupport.Machine.Call
import VmSupport.Proofs.Heap.Alone
import VmSupport.Proofs.Log.DirectiveParts
import VmSupport.Proofs.Machine.CrowdSteps

/-!
# The heap of a process is a bump heap

A caller who makes all calls of a process from one thread can foretell them with a **ledger**: no
heap at first, a bump heap from the first start on that succeeds, and the status that was recorded
last. What the calls for memory and the queries answer is read off the ledger (`Ledger.Answers`),
and the ledger is brought up to date from the calls and their answers alone (`Ledger.after`).

**One call** (`Machine.call_agrees`): a process that agrees with a ledger answers as the ledger
says, and agrees with the ledger after that. The calls for memory, the queries and the end from
outside have to return (`Machine.exists_returned`), and a start does unless its log cannot be
installed (`Machine.start_returned_or_logFaults`).
-/

namespace VmSupport

open Heap (Bump HeapError Region Shared)

/-- The status of a call that came to this result. -/
def Status.ofResult {α : Type} : Except HeapError α → Status
  | .ok _ => .ok
  | .error e => .ofHeapError e

namespace Call

/-- The capacity that a start wants: its own, or that of the settings that it finds. -/
def wanted? (w : Surroundings) : Call → Option Nat
  | init capacity => some capacity
  | bootstrap s => some s.capacity
  | start capacity =>
    if capacity = 0 then (Settings.override w.environment {}).toOption.map (·.capacity)
    else some capacity
  | startDefault => some (Settings.discover w.current w.environment).1.capacity
  | _ => none

/-- The fresh heap that a start puts in place, if it can. -/
def opened? (w : Surroundings) (c : Call) : Option Bump :=
  (c.wanted? w).bind fun capacity => (Bump.withCapacity w.host capacity).toOption

/-- The call neither starts the log nor ends the process, so it has to return. -/
def returns : Call → Bool
  | allocate _ | allocateChecked .. | heapBase | heapUsed | heapCapacity | lastStatus | stats
  | init _ | shutdown => true
  | _ => false

/-- The call records the status in which it ended. -/
def records : Call → Bool
  | start _ | startDefault | allocate _ | allocateChecked .. => true
  | _ => false

end Call

/-! ## Ledgers -/

/-- What a caller knows of the heap of a process and of the last status. -/
structure Ledger where
  heap : Option Bump
  last : Status

namespace Ledger

/-- The ledger of a fresh process. -/
def fresh : Ledger :=
  { heap := none, last := .ok }

/-- The address that a request comes to, or the cause of its refusal. -/
def result (l : Ledger) (size : Int32) : Except HeapError Nat :=
  match l.heap with
  | none => .error .notInitialized
  | some b => (b.allocate size).answer.map b.region.addressOf

/-- The ledger after a request. -/
def request (l : Ledger) (size : Int32) : Ledger :=
  { heap := l.heap.map fun b => (b.allocate size).heap, last := .ofResult (l.result size) }

/-- The heap after a start: the fresh one if the start succeeded. -/
def started (w : Surroundings) (l : Ledger) (c : Call) (answer : Answer) : Option Bump :=
  if answer.isSuccess then c.opened? w else l.heap

/-- The ledger after a call that was answered. -/
def after (w : Surroundings) (l : Ledger) (c : Call) (answer : Answer) : Ledger :=
  match c, answer with
  | .allocate size, _ => l.request size
  | .allocateChecked true _, _ => { l with last := .invalidArgument }
  | .allocateChecked false size, _ => l.request size
  | .init _, a => { l with heap := l.started w c a }
  | .bootstrap _, a => { l with heap := l.started w c a }
  | .start _, .status s => { heap := l.started w c (.status s), last := s }
  | .startDefault, .status s => { heap := l.started w c (.status s), last := s }
  | _, _ => l

/-- The answers that a ledger allows. -/
def Answers (w : Surroundings) (l : Ledger) (c : Call) (answer : Answer) : Prop :=
  match c with
  | .allocate size => answer = .number ((l.result size).toOption.getD 0)
  | .allocateChecked true _ => answer = .checked .invalidArgument none
  | .allocateChecked false size =>
    answer = .checked (.ofResult (l.result size)) (l.result size).toOption
  | .heapBase => answer = .number (l.heap.elim 0 (·.region.base))
  | .heapUsed => answer = .number (l.heap.elim 0 Bump.used)
  | .heapCapacity => answer = .number (l.heap.elim 0 (·.region.size))
  | .lastStatus => answer = .status l.last
  | .stats => answer = .stats (l.heap.map Bump.stats)
  | .shutdown => answer = .done
  | .init _ | .bootstrap _ => ∃ r, answer = .started r ∧
      ∀ size, r = .ok size → l.heap = none ∧ c.wanted? w = some size ∧ (c.opened? w).isSome = true
  | .start _ | .startDefault => ∃ s, answer = .status s ∧
      (s = .ok → l.heap = none ∧ (c.opened? w).isSome = true)
  | _ => True

/-- What is invariably true of a ledger. -/
def Sound (l : Ledger) : Prop :=
  ∀ b, l.heap = some b → b.Sound

/-- The process has the heap of the ledger, and the thread its last status. -/
structure Agrees (thread : Nat) (m : Machine) (l : Ledger) : Prop where
  heap : m.heap = l.heap.map Bump.shared
  last : m.statuses thread = l.last
  sound : l.Sound

theorem agrees_fresh (thread : Nat) : Agrees thread .fresh fresh where
  heap := rfl
  last := rfl
  sound := fun _ h => by cases h

end Ledger

/-- The heap that a start puts in place is the shared form of a fresh heap. -/
theorem Call.opened?_eq {w : Surroundings} {c : Call} {capacity : Nat} {h : Shared}
    (hwanted : c.wanted? w = some capacity) (hh : Shared.withCapacity w.host capacity = .ok h) :
    ∃ b, c.opened? w = some b ∧ h = b.shared ∧ b.Sound ∧ b.region.size = capacity := by
  rw [Bump.shared_withCapacity] at hh
  cases hb : Bump.withCapacity w.host capacity with
  | error e =>
    rw [hb] at hh
    cases hh
  | ok b =>
    rw [hb] at hh
    cases hh
    refine ⟨b, ?_, rfl, ?_, ?_⟩
    · rw [opened?, hwanted, Option.bind_some, hb]
      rfl
    · obtain ⟨r, -, rfl⟩ := Bump.withCapacity_eq_ok hb
      exact Bump.sound_ofRegion r
    · obtain ⟨r, hsize, rfl⟩ := Bump.withCapacity_eq_ok hb
      exact hsize

/-- A call that returned with another value had returned. -/
theorem Outcome.map_eq_returned {α β : Type} {f : α → β} {b : β} {m' : Machine}
    {r : Outcome α × Machine} (h : (r.1.map f, r.2) = (.returned b, m')) :
    ∃ a, r = (.returned a, m') ∧ f a = b := by
  obtain ⟨o, m⟩ := r
  cases o with
  | returned a =>
    cases h
    exact ⟨a, rfl, rfl⟩
  | aborted | faulted _ => cases h

/-! ## What the parts of a process do -/

namespace Machine

open Ledger (Agrees)

variable {w : Surroundings} {thread : Nat} {m : Machine} {l : Ledger}

/-- A request for a block comes to what the ledger says. -/
theorem takeBlock_agrees (hm : Agrees thread m l) (size : Int32) :
    ∃ m', m.takeBlock size = .ok (l.result size, m') ∧
      m'.heap = (l.request size).heap.map Bump.shared ∧ m'.statuses = m.statuses := by
  obtain ⟨hheap, -, hsound⟩ := hm
  unfold takeBlock
  cases hl : l.heap with
  | none =>
    rw [hl] at hheap
    refine ⟨m, ?_, ?_, rfl⟩
    · rw [hheap, Ledger.result, hl]
      rfl
    · rw [hheap, Ledger.request, hl]
      rfl
  | some b =>
    rw [hl] at hheap
    have hb := hsound b hl
    let m' := (m.withHeap (b.allocate size).heap.shared).reportAll (b.allocate size).events
    refine ⟨m', ?_, ?_, ?_⟩
    · rw [hheap, Ledger.result, hl]
      simp only [Option.map_some, Bump.shared_allocate hb]
      cases hanswer : (b.allocate size).answer with
      | error e => rfl
      | ok handle =>
        have haddress : Fault.addWords b.shared.region.base handle.offset =
            .ok (b.region.base + handle.offset) := by
          have hregion := b.region.fits
          have hcursor := hb.2
          rw [Bump.handle_eq hanswer]
          exact Fault.addWords_of_lt (show b.region.base + b.cursor < _ by omega)
        simp only [haddress]
        rfl
    · show (reportAll _ _).heap = _
      rw [reportAll_heap, Ledger.request, hl]
      rfl
    · show (reportAll _ _).statuses = _
      rw [reportAll_statuses]
      rfl

/-- **Putting a heap in place**: nothing happens, or the place was empty and holds a fresh heap. -/
theorem init_cases (w : Surroundings) (capacity : Nat) (m : Machine) :
    (∃ e, init w capacity m = (.error e, m)) ∨
    ∃ h m', m.heap = none ∧ Shared.withCapacity w.host capacity = .ok h ∧
      init w capacity m = (.ok h.region.size, m') ∧ m'.heap = some h ∧
      m'.statuses = m.statuses := by
  unfold init
  cases hm : m.heap with
  | some h => exact .inl ⟨_, rfl⟩
  | none =>
    cases hh : Shared.withCapacity w.host capacity with
    | error e => exact .inl ⟨e, rfl⟩
    | ok h => exact .inr ⟨h, _, rfl, rfl, rfl, rfl, rfl⟩

theorem installLog_statuses {held : Bool} {log : LogSettings} {b : Bool} {m' : Machine}
    (h : installLog w held log m = .ok (b, m')) : m'.statuses = m.statuses := by
  unfold installLog at h
  split at h
  · cases h
    rfl
  split at h
  · cases h
  · cases h
    exact reportAll_statuses m _

/-- The log cannot be installed: the filter in the environment faults as it is read. -/
def LogFaults (w : Surroundings) : Prop :=
  ∃ text fault, w.environment filterVariable = some text ∧
    Log.Filter.read w.patterns text = .error fault

/-- Installing the log faults only as the filter in the environment does. -/
theorem read_of_installLog {held : Bool} {log : LogSettings} {fault : Fault}
    (h : installLog w held log m = .error fault) :
    ∃ text, w.environment filterVariable = some text ∧
      Log.Filter.read w.patterns text = .error fault := by
  unfold installLog at h
  split at h
  · cases h
  split at h
  · next hbuild =>
    cases h
    rw [Log.Filter.build_eq] at hbuild
    have hread := eq_error_of_map hbuild
    cases hv : w.environment filterVariable with
    | none =>
      rw [hv] at hread
      cases hread
    | some text =>
      rw [hv] at hread
      exact ⟨text, rfl, hread⟩
  · cases h

theorem logFaults_of_installLog {held : Bool} {log : LogSettings} {fault : Fault}
    (h : installLog w held log m = .error fault) : LogFaults w := by
  obtain ⟨text, hv, hread⟩ := read_of_installLog h
  exact ⟨text, fault, hv, hread⟩

/-- What a start did that came to this result: it failed and left the place of the heap alone, or
it put a fresh heap into the empty place. -/
def Started (w : Surroundings) (m : Machine) (capacity : Nat) (result : Except HeapError Nat)
    (m' : Machine) : Prop :=
  (result.isOk = false ∧ m'.heap = m.heap) ∨
  ∃ h, m.heap = none ∧ Shared.withCapacity w.host capacity = .ok h ∧
    result = .ok h.region.size ∧ m'.heap = some h

/-- Putting a heap in place comes to a result, and records no status. -/
theorem exists_init (w : Surroundings) (capacity : Nat) (m : Machine) :
    ∃ result m', init w capacity m = (result, m') ∧ Started w m capacity result m' ∧
      m'.statuses = m.statuses := by
  obtain ⟨e, heq⟩ | ⟨h, m', hnone, hh, heq, hheap, hstatuses⟩ := init_cases w capacity m
  · exact ⟨_, _, heq, .inl ⟨rfl, rfl⟩, rfl⟩
  · exact ⟨_, _, heq, .inr ⟨h, hnone, hh, rfl, hheap⟩, hstatuses⟩

/-- Starting the log and putting a heap in place. -/
theorem bootstrap_cases (w : Surroundings) (s : Settings) (m : Machine) :
    (∃ fault, bootstrap w s m = .error fault ∧ LogFaults w) ∨
    ∃ result m', bootstrap w s m = .ok (result, m') ∧ Started w m s.capacity result m' ∧
      m'.statuses = m.statuses := by
  unfold bootstrap
  cases hlog : installLog w true s.log m with
  | error fault => exact .inl ⟨fault, rfl, logFaults_of_installLog hlog⟩
  | ok r =>
    obtain ⟨b, m₁⟩ := r
    have hheap : m₁.heap = m.heap := Frame.installLog_heap hlog
    have hstatuses : m₁.statuses = m.statuses := installLog_statuses hlog
    obtain ⟨result, m', heq, hstarted, hs⟩ := exists_init w s.capacity m₁
    refine .inr ⟨result, m', congrArg Except.ok heq, ?_, hs.trans hstatuses⟩
    rwa [Started, hheap] at hstarted

/-- A start from outside with settings records how it went. -/
theorem start_cases (w : Surroundings) (thread : Nat) (s : Settings) (m : Machine) :
    (start w thread s m = (.aborted, m) ∧ LogFaults w) ∨
    ∃ result m', start w thread s m = (.returned (.ofResult result), m') ∧
      Started w m s.capacity result m' ∧ m'.statuses thread = .ofResult result := by
  unfold start
  obtain ⟨fault, heq, hfaults⟩ | ⟨result, m', heq, hstarted, -⟩ := bootstrap_cases w s m
  · exact .inl ⟨by rw [heq], hfaults⟩
  · refine .inr ⟨result, ?_⟩
    rw [heq]
    cases result with
    | error e => exact ⟨_, rfl, hstarted, record_statuses_same _ _ _⟩
    | ok size => exact ⟨_, rfl, hstarted, record_statuses_same _ _ _⟩

/-- The settings of a start have the capacity that it wants. -/
theorem wanted?_start {capacity : Nat} {s : Settings} (h : startSettings w capacity = .ok s) :
    (Call.start capacity).wanted? w = some s.capacity := by
  unfold startSettings at h
  cases hs : Settings.override w.environment {} with
  | error r =>
    rw [hs] at h
    cases h
  | ok s₁ =>
    rw [hs] at h
    simp only at h
    by_cases hzero : capacity = 0
    · rw [if_pos hzero] at h
      cases h
      rw [Call.wanted?, if_pos hzero, hs]
      rfl
    · rw [if_neg hzero] at h
      split at h
      · cases h
      · cases h
        exact if_neg hzero

/-! ## One call -/

/-- **A call for memory**, in either form: both do the same to the process, and what they answer
says the same. -/
theorem allocate_agrees (hm : Agrees thread m l) (size : Int32) :
    ∃ m', m.allocate thread size = (.returned ((l.result size).toOption.getD 0), m') ∧
      m.allocateChecked thread false size =
        (.returned (.ofResult (l.result size), (l.result size).toOption), m') ∧
      Agrees thread m' (l.request size) := by
  obtain ⟨m₁, htake, hheap, -⟩ := takeBlock_agrees hm size
  have hsound : (l.request size).Sound := by
    intro b hb
    obtain ⟨b₀, hb₀, rfl⟩ := Option.map_eq_some_iff.mp hb
    exact (hm.sound b₀ hb₀).allocate size
  refine ⟨m₁.record thread (.ofResult (l.result size)), ?_, ?_, ?_⟩
  · rw [allocate, htake]
    cases l.result size <;> rfl
  · rw [allocateChecked, htake]
    cases l.result size <;> rfl
  · exact ⟨hheap, record_statuses_same _ _ _, hsound⟩

/-- The statistics are those of the ledger. -/
theorem stats_agrees (hm : Agrees thread m l) : m.stats = .returned (l.heap.map Bump.stats) := by
  rw [stats, hm.heap]
  cases hl : l.heap with
  | none => rfl
  | some b =>
    simp only [Option.map_some, Bump.shared_stats (hm.sound b hl)]

/-- The end from outside does nothing but report. -/
theorem shutdown_agrees (hm : Agrees thread m l) :
    ∃ m', m.shutdown = (.returned (), m') ∧ m'.heap = m.heap ∧ m'.statuses = m.statuses := by
  unfold shutdown
  cases hh : m.heap with
  | none => exact ⟨_, rfl, hh, rfl⟩
  | some h =>
    obtain ⟨b, hb, rfl⟩ : ∃ b, l.heap = some b ∧ b.shared = h := by
      rw [hm.heap] at hh
      exact Option.map_eq_some_iff.mp hh
    simp only [Bump.shared_stats (hm.sound b hb)]
    exact ⟨_, rfl, hh, rfl⟩

/-- A call that records no status leaves the statuses alone. -/
theorem call_statuses {c : Call} (h : c.records = false) :
    (m.call w thread c).2.statuses = m.statuses := by
  cases c with
  | start _ | startDefault | allocate _ | allocateChecked _ _ => cases h
  | init capacity =>
    obtain ⟨e, heq⟩ | ⟨_, _, -, -, heq, -, hstatuses⟩ := init_cases w capacity m
    · simp only [call, heq]
    · simp only [call, heq, hstatuses]
  | bootstrap s =>
    obtain ⟨_, heq, -⟩ | ⟨_, _, heq, -, hstatuses⟩ := bootstrap_cases w s m
    · simp only [call, heq]
    · simp only [call, heq, hstatuses]
  | shutdown =>
    simp only [call, shutdown]
    split
    · rfl
    · split <;> rfl
  | long memory c =>
    simp only [call, long]
    split <;> rfl
  | discover => exact reportAll_statuses m _
  | installLog log =>
    simp only [call]
    split
    · next heq => exact installLog_statuses heq
    · rfl
  | _ => rfl

/-- A call that neither starts, nor asks for memory, nor records a status changes nothing that the
ledger holds. -/
theorem agrees_of_quiet (hm : Agrees thread m l) {c : Call} (hstart : c.isStart = false)
    (hrequest : c.isRequest = false) (hrecords : c.records = false) :
    Agrees thread (m.call w thread c).2 l where
  heap := (Frame.call_heap thread hstart hrequest).trans hm.heap
  last := (congrFun (call_statuses hrecords) thread).trans hm.last
  sound := hm.sound

/-- A start that came to a result agrees with the ledger in which the heap is the one it put in
place. -/
theorem agrees_of_started (hm : Agrees thread m l) {c : Call} {capacity : Nat}
    {result : Except HeapError Nat} {m' : Machine} {answer : Answer} {last : Status}
    (hwanted : c.wanted? w = some capacity) (hstarted : Started w m capacity result m')
    (hsuccess : answer.isSuccess = result.isOk) (hlast : m'.statuses thread = last) :
    Agrees thread m' { heap := l.started w c answer, last } ∧
      ∀ size, result = .ok size →
        l.heap = none ∧ c.wanted? w = some size ∧ (c.opened? w).isSome = true := by
  obtain ⟨hfailed, hheap⟩ | ⟨h, hnone, hh, rfl, hheap⟩ := hstarted
  · rw [Ledger.started, hsuccess, hfailed]
    refine ⟨⟨hheap.trans hm.heap, hlast, hm.sound⟩, ?_⟩
    rintro size rfl
    cases hfailed
  · obtain ⟨b, hopened, rfl, hb, hsize⟩ := Call.opened?_eq hwanted hh
    have hok : answer.isSuccess = true := hsuccess
    rw [Ledger.started, hok, if_pos rfl, hopened]
    refine ⟨⟨hheap, hlast, ?_⟩, ?_⟩
    · intro b' hb'
      cases hb'
      exact hb
    · rintro size heq
      cases heq
      refine ⟨?_, hsize ▸ hwanted, rfl⟩
      rw [hm.heap] at hnone
      exact Option.map_eq_none_iff.mp hnone

/-- A start from outside agrees with the ledger. -/
theorem start_agrees (hm : Agrees thread m l) {c : Call} {s : Settings}
    (hwanted : c.wanted? w = some s.capacity) {status : Status} {m' : Machine}
    (h : start w thread s m = (.returned status, m')) :
    Agrees thread m' { heap := l.started w c (.status status), last := status } ∧
      (status = .ok → l.heap = none ∧ (c.opened? w).isSome = true) := by
  obtain ⟨heq, -⟩ | ⟨result, m₁, heq, hstarted, hlast⟩ := start_cases w thread s m
  · rw [heq] at h
    cases h
  · rw [heq] at h
    cases h
    have hsuccess : (Answer.status (.ofResult result)).isSuccess = result.isOk := by
      cases result with
      | ok size => rfl
      | error e => cases e <;> rfl
    obtain ⟨hagrees, hok⟩ := agrees_of_started hm hwanted hstarted hsuccess hlast
    refine ⟨hagrees, fun hstatus => ?_⟩
    cases result with
    | ok size =>
      obtain ⟨hnone, -, hopened⟩ := hok size rfl
      exact ⟨hnone, hopened⟩
    | error e => cases e <;> cases hstatus

/-- A start from outside that refuses at once agrees with the ledger. -/
theorem refuseStart_agrees (hm : Agrees thread m l) {c : Call} {status : Status}
    (hne : status ≠ .ok) (cause : String) :
    Agrees thread (m.refuseStart thread status cause).2
      { heap := l.started w c (.status status), last := status } := by
  rw [Ledger.started, Answer.isSuccess_status_of_ne hne]
  exact ⟨hm.heap, record_statuses_same _ _ _, hm.sound⟩

/-- Putting a heap in place answers as the ledger says. -/
theorem call_init_agrees (hm : Agrees thread m l) {capacity : Nat} {answer : Answer} {m' : Machine}
    (h : m.call w thread (.init capacity) = (.returned answer, m')) :
    l.Answers w (.init capacity) answer ∧
      Agrees thread m' (l.after w (.init capacity) answer) := by
  obtain ⟨result, m₁, heq, hstarted, hstatuses⟩ := exists_init w capacity m
  simp only [call, heq] at h
  cases h
  obtain ⟨hagrees, hok⟩ := agrees_of_started (c := .init capacity) hm rfl hstarted
    (Answer.isSuccess_started result) ((congrFun hstatuses thread).trans hm.last)
  exact ⟨⟨_, rfl, hok⟩, hagrees⟩

/-- So does starting the log and then putting a heap in place. -/
theorem call_bootstrap_agrees (hm : Agrees thread m l) {s : Settings} {answer : Answer}
    {m' : Machine} (h : m.call w thread (.bootstrap s) = (.returned answer, m')) :
    l.Answers w (.bootstrap s) answer ∧ Agrees thread m' (l.after w (.bootstrap s) answer) := by
  obtain ⟨fault, heq, -⟩ | ⟨result, m₁, heq, hstarted, hstatuses⟩ := bootstrap_cases w s m
  · simp only [call, heq] at h
    cases h
  · simp only [call, heq] at h
    cases h
    obtain ⟨hagrees, hok⟩ := agrees_of_started (c := .bootstrap s) hm rfl hstarted
      (Answer.isSuccess_started result) ((congrFun hstatuses thread).trans hm.last)
    exact ⟨⟨_, rfl, hok⟩, hagrees⟩

/-- So does the start from outside with a capacity. -/
theorem call_start_agrees (hm : Agrees thread m l) {capacity : Nat} {answer : Answer}
    {m' : Machine} (h : m.call w thread (.start capacity) = (.returned answer, m')) :
    l.Answers w (.start capacity) answer ∧
      Agrees thread m' (l.after w (.start capacity) answer) := by
  simp only [call, startWith] at h
  cases hs : startSettings w capacity with
  | error r =>
    obtain ⟨status, cause⟩ := r
    have hne := Frame.startSettings_ne_ok hs
    simp only [hs] at h
    cases h
    exact ⟨⟨_, rfl, fun hok => absurd hok hne⟩, refuseStart_agrees hm hne cause⟩
  | ok s =>
    simp only [hs] at h
    obtain ⟨status, hstart, rfl⟩ := Outcome.map_eq_returned h
    obtain ⟨hagrees, hok⟩ := start_agrees hm (wanted?_start hs) hstart
    exact ⟨⟨_, rfl, hok⟩, hagrees⟩

/-- So does the start from outside with the settings that are found. -/
theorem call_startDefault_agrees (hm : Agrees thread m l) {answer : Answer} {m' : Machine}
    (h : m.call w thread .startDefault = (.returned answer, m')) :
    l.Answers w .startDefault answer ∧ Agrees thread m' (l.after w .startDefault answer) := by
  have hm₁ : Agrees thread (discover w m).2 l :=
    agrees_of_quiet (w := w) (c := .discover) hm rfl rfl rfl
  obtain ⟨status, hstart, rfl⟩ := Outcome.map_eq_returned h
  obtain ⟨hagrees, hok⟩ := start_agrees (c := .startDefault) hm₁ rfl hstart
  exact ⟨⟨_, rfl, hok⟩, hagrees⟩

/-- **One call**: it answers as the ledger says, and agrees with the ledger after that. -/
theorem call_agrees (hm : Agrees thread m l) {c : Call} {answer : Answer} {m' : Machine}
    (h : m.call w thread c = (.returned answer, m')) :
    l.Answers w c answer ∧ Agrees thread m' (l.after w c answer) := by
  have hquiet := fun hstart hrequest hrecords =>
    congrArg Prod.snd h ▸ @agrees_of_quiet w thread m l hm c hstart hrequest hrecords
  cases c with
  | init capacity => exact call_init_agrees hm h
  | bootstrap s => exact call_bootstrap_agrees hm h
  | start capacity => exact call_start_agrees hm h
  | startDefault => exact call_startDefault_agrees hm h
  | allocate size =>
    obtain ⟨m₁, hplain, -, hagrees⟩ := allocate_agrees hm size
    simp only [call, hplain] at h
    cases h
    exact ⟨rfl, hagrees⟩
  | allocateChecked isNull size =>
    cases isNull with
    | true =>
      cases h
      exact ⟨rfl, hm.heap, record_statuses_same _ _ _, hm.sound⟩
    | false =>
      obtain ⟨m₁, -, hchecked, hagrees⟩ := allocate_agrees hm size
      simp only [call, hchecked] at h
      cases h
      exact ⟨rfl, hagrees⟩
  | shutdown =>
    obtain ⟨m₁, heq, hheap, hstatuses⟩ := shutdown_agrees hm
    simp only [call, heq] at h
    cases h
    exact ⟨rfl, hheap.trans hm.heap, (congrFun hstatuses thread).trans hm.last, hm.sound⟩
  | heapBase =>
    cases h
    refine ⟨?_, hm⟩
    rw [Ledger.Answers, heapBase, hm.heap]
    cases l.heap <;> rfl
  | heapUsed =>
    cases h
    refine ⟨?_, hm⟩
    rw [Ledger.Answers, heapUsed, hm.heap]
    cases l.heap <;> rfl
  | heapCapacity =>
    cases h
    refine ⟨?_, hm⟩
    rw [Ledger.Answers, heapCapacity, hm.heap]
    cases l.heap <;> rfl
  | lastStatus =>
    cases h
    exact ⟨congrArg Answer.status hm.last, hm⟩
  | stats =>
    simp only [call, stats_agrees hm] at h
    cases h
    exact ⟨rfl, hm⟩
  | _ => exact ⟨trivial, hquiet rfl rfl rfl⟩

/-- A call that has to return does. -/
theorem exists_returned (hm : Agrees thread m l) {c : Call} (hc : c.returns = true) :
    ∃ answer m', m.call w thread c = (.returned answer, m') := by
  cases c with
  | allocate size =>
    obtain ⟨m', hplain, -, -⟩ := allocate_agrees hm size
    exact ⟨_, m', by simp only [call, hplain]; rfl⟩
  | allocateChecked isNull size =>
    cases isNull with
    | true => exact ⟨_, _, rfl⟩
    | false =>
      obtain ⟨m', -, hchecked, -⟩ := allocate_agrees hm size
      exact ⟨_, m', by simp only [call, hchecked]; rfl⟩
  | shutdown =>
    obtain ⟨m', heq, -, -⟩ := shutdown_agrees hm
    exact ⟨_, m', by simp only [call, heq]; rfl⟩
  | stats => exact ⟨_, m, by simp only [call, stats_agrees hm]; rfl⟩
  | init _ | heapBase | heapUsed | heapCapacity | lastStatus => exact ⟨_, _, rfl⟩
  | _ => cases hc

/-- A start returns unless the log cannot be installed. -/
theorem start_returned_or_logFaults (w : Surroundings) (thread : Nat) (m : Machine) {c : Call}
    (hc : c.isStart = true) :
    (∃ answer m', m.call w thread c = (.returned answer, m')) ∨ LogFaults w := by
  cases c with
  | init capacity => exact .inl ⟨_, _, rfl⟩
  | bootstrap s =>
    obtain ⟨fault, -, hfaults⟩ | ⟨result, m', heq, -⟩ := bootstrap_cases w s m
    · exact .inr hfaults
    · exact .inl ⟨.started result, m', by simp only [call, heq]⟩
  | start capacity =>
    simp only [call, startWith]
    split
    · exact .inl ⟨_, _, rfl⟩
    · next s _ =>
      obtain ⟨-, hfaults⟩ | ⟨result, m', heq, -⟩ := start_cases w thread s m
      · exact .inr hfaults
      · exact .inl ⟨_, m', by rw [heq]; rfl⟩
  | startDefault =>
    obtain ⟨-, hfaults⟩ | ⟨result, m', heq, -⟩ :=
      start_cases w thread (discover w m).1 (discover w m).2
    · exact .inr hfaults
    · exact .inl ⟨_, m', by simp only [call, startDefault, heq]; rfl⟩
  | _ => cases hc

end Machine

end VmSupport
