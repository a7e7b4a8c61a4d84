import VmSupport.Proofs.Machine.CallEnds
import VmSupport.Proofs.Settings.LogOverrides

/-!
# Calls that differ in the log alone

Two processes may differ in the log and in the place of the heap (`Machine.SameButLog`), and so may
the surroundings that they run in and the calls that are made: in the filter of the environment, in
what settings say about the log, and in where the host places blocks.

**The law** (`Machine.call_alike`): such calls come to the same (`Call.Alike`), unless they start the
log and the filter faults in one of the environments and not in the other. They end alike, with
answers that are the same but for addresses, for settings of the log, and for whether the library's
logger is in its place; and they leave processes that again differ in the log and in the place of the
heap alone. So no call that reports something looks at the logger.

**Addresses** are compared by what they are relative to the heaps (`Heap.SameAddress`). A heap serves
its requests alike wherever it lies (`Heap.Shared.allocate_moveTo`).
-/

namespace VmSupport

open Heap (HeapError Region Shared)

/-! ## What differs -/

/-- Two surroundings differ in nothing but the log, and in where the host places blocks. The variable
for the filter may be anything, and anything may count as a pattern in it. -/
structure Surroundings.SameButLog (w w' : Surroundings) : Prop where
  places : ∀ capacity, (w'.host.place capacity).isSome = (w.host.place capacity).isSome
  current : w'.current = w.current
  environment : Settings.SameButLog w.environment w'.environment

/-- Two calls differ in nothing but the settings of the log that they hand over. -/
inductive Call.SameButLog : Call → Call → Prop
  | same (c : Call) : SameButLog c c
  | bootstrap {s s' : Settings} (h : s'.capacity = s.capacity) :
    SameButLog (.bootstrap s) (.bootstrap s')
  | installLog (log log' : LogSettings) : SameButLog (.installLog log) (.installLog log')

namespace Heap

/-- The same heap in another place. -/
def Shared.moveTo (h : Shared) (r : Region) : Shared :=
  { h with region := r }

/-- There is no heap, or there are two that differ in their place alone. -/
inductive SameButPlace : Option Shared → Option Shared → Prop
  | none : SameButPlace none none
  | some {h : Shared} {r : Region} (hsize : r.size = h.region.size) :
    SameButPlace (some h) (some (h.moveTo r))

theorem SameButPlace.cases {place place' : Option Shared} (h : SameButPlace place place') :
    (place = .none ∧ place' = .none) ∨
    ∃ h r, r.size = h.region.size ∧ place = .some h ∧ place' = .some (h.moveTo r) := by
  cases h with
  | none => exact .inl ⟨rfl, rfl⟩
  | some hsize => exact .inr ⟨_, _, hsize, rfl, rfl⟩

variable {h : Shared} {r : Region}

theorem Shared.remaining_moveTo (hsize : r.size = h.region.size) :
    (h.moveTo r).remaining = h.remaining := by
  unfold remaining moveTo
  rw [hsize]

/-- A request leaves the region as it is, and the cursor does not move back. -/
theorem Shared.grows_of_allocate {size : Int32} {reply : Reply Shared}
    (hreply : h.allocate size = .ok reply) :
    reply.heap.region = h.region ∧ h.cursor ≤ reply.heap.cursor := by
  unfold allocate at hreply
  split at hreply
  · cases hreply
    exact ⟨rfl, Nat.le_refl _⟩
  split at hreply
  · cases hreply
  split at hreply
  · cases hreply
    exact ⟨rfl, Nat.le_refl _⟩
  split at hreply
  · cases hreply
  · next hnext =>
    cases hreply
    unfold Fault.addWords at hnext
    split at hnext
    · cases hnext
      exact ⟨rfl, Nat.le_add_right _ _⟩
    · cases hnext

/-- A request is served alike in another place. -/
theorem Shared.allocate_moveTo (hsize : r.size = h.region.size) (size : Int32) :
    (h.moveTo r).allocate size =
      (h.allocate size).map fun reply => { reply with heap := reply.heap.moveTo r } := by
  unfold allocate
  rw [remaining_moveTo hsize]
  cases roundedSize size with
  | error cause => rfl
  | ok rounded =>
    cases h.remaining with
    | error f => rfl
    | ok remaining =>
      by_cases hfull : remaining < rounded
      · simp only [if_pos hfull]
        rfl
      · have hcursor : (h.moveTo r).cursor = h.cursor := rfl
        simp only [if_neg hfull, hcursor]
        cases Fault.addWords h.cursor rounded <;> rfl

theorem Shared.stats_moveTo (hsize : r.size = h.region.size) :
    (h.moveTo r).stats = h.stats := by
  unfold stats
  rw [remaining_moveTo hsize]
  show Except.map _ h.remaining = _
  rw [← hsize]
  rfl

/-- Hosts that have blocks of the same capacities make heaps that differ in their place alone. -/
theorem withCapacity_cases {host host' : Host}
    (hplaces : ∀ capacity, (host'.place capacity).isSome = (host.place capacity).isSome)
    (capacity : Nat) :
    (∃ e, Shared.withCapacity host capacity = .error e ∧
      Shared.withCapacity host' capacity = .error e) ∨
    ∃ h r, r.size = h.region.size ∧ Shared.withCapacity host capacity = .ok h ∧
      Shared.withCapacity host' capacity = .ok (h.moveTo r) := by
  have hplace := hplaces capacity
  unfold Shared.withCapacity Region.reserve
  by_cases hc : capacity = 0 ∨ maxCapacity < capacity
  · simp only [dif_pos hc]
    exact .inl ⟨_, rfl, rfl⟩
  simp only [dif_neg hc]
  split
  · next hnone =>
    rw [hnone] at hplace
    split
    · exact .inl ⟨_, rfl, rfl⟩
    · next hsome =>
      rw [hsome] at hplace
      cases hplace
  · next base hbase =>
    rw [hbase] at hplace
    split
    · next hnone =>
      rw [hnone] at hplace
      cases hplace
    · refine .inr ⟨_, _, ?_, rfl, rfl⟩
      rfl

/-- Two addresses are both null, or they are at the same distance from the bases of the heaps. -/
def SameAddress (place place' : Option Shared) (address address' : Nat) : Prop :=
  (address = 0 ∧ address' = 0) ∨
  ∃ h h' offset, place = .some h ∧ place' = .some h' ∧ address = h.region.base + offset ∧
    address' = h'.region.base + offset

theorem SameAddress.grows {place place' later later' : Option Shared} {address address' : Nat}
    (h : SameAddress place place' address address') (hg : Grows place later)
    (hg' : Grows place' later') : SameAddress later later' address address' := by
  obtain hnull | ⟨b, b', offset, hb, hb', haddress, haddress'⟩ := h
  · exact .inl hnull
  · obtain ⟨d, hd, hregion, -⟩ := hg b hb
    obtain ⟨d', hd', hregion', -⟩ := hg' b' hb'
    exact .inr ⟨d, d', offset, hd, hd', hregion ▸ haddress, hregion' ▸ haddress'⟩

end Heap

open Heap (SameAddress SameButPlace)

/-! ## What stays the same -/

/-- **Two answers to a call are alike**, for heaps in these places. -/
def Answer.Alike (place place' : Option Shared) (c : Call) (a a' : Answer) : Prop :=
  match c with
  | .allocate _ | .heapBase => ∃ address address', a = .number address ∧ a' = .number address' ∧
      SameAddress place place' address address'
  | .allocateChecked .. => (∃ s, a = .checked s none ∧ a' = .checked s none) ∨
      ∃ s address address', a = .checked s (some address) ∧ a' = .checked s (some address') ∧
        SameAddress place place' address address'
  | .discover => ∃ s s', a = .settings s ∧ a' = .settings s' ∧ s'.capacity = s.capacity
  | .override _ => ∃ s s' complaint, a = .overridden s complaint ∧ a' = .overridden s' complaint ∧
      s'.capacity = s.capacity
  | .installLog _ | .occupyLog | .isLogInstalled => ∃ b b', a = .flag b ∧ a' = .flag b'
  | _ => a' = a

theorem Answer.Alike.grows {place place' later later' : Option Shared} {c : Call} {a a' : Answer}
    (h : a.Alike place place' c a') (hg : Grows place later) (hg' : Grows place' later') :
    a.Alike later later' c a' := by
  cases c with
  | allocate size =>
    obtain ⟨x, x', hx, hx', hsame⟩ := h
    exact ⟨x, x', hx, hx', hsame.grows hg hg'⟩
  | heapBase =>
    obtain ⟨x, x', hx, hx', hsame⟩ := h
    exact ⟨x, x', hx, hx', hsame.grows hg hg'⟩
  | allocateChecked isNull size =>
    obtain hnone | ⟨s, x, x', hx, hx', hsame⟩ := h
    · exact .inl hnone
    · exact .inr ⟨s, x, x', hx, hx', hsame.grows hg hg'⟩
  | _ => exact h

/-- Two calls end alike. Which fault it is depends on the text that faults. -/
inductive Outcome.Alike (place place' : Option Shared) (c : Call) :
    Outcome Answer → Outcome Answer → Prop
  | returned {a a' : Answer} (h : a.Alike place place' c a') :
    Alike place place' c (.returned a) (.returned a')
  | aborted : Alike place place' c .aborted .aborted
  | faulted (f f' : Fault) : Alike place place' c (.faulted f) (.faulted f')

/-- Two processes differ in the log and in the place of the heap alone. -/
structure Machine.SameButLog (m m' : Machine) : Prop where
  heap : SameButPlace m.heap m'.heap
  statuses : m'.statuses = m.statuses

/-- **Two calls come to the same**: they end alike, and leave processes that differ in the log and in
the place of the heap alone. -/
structure Call.Alike (c : Call) (s s' : Outcome Answer × Machine) : Prop where
  outcome : s.1.Alike s.2.heap s'.2.heap c s'.1
  machine : s.2.SameButLog s'.2

namespace Machine

variable {w w' : Surroundings} {m m' : Machine} {thread : Nat}

theorem SameButLog.act (h : m.SameButLog m') (acts acts' : Log.Act) :
    (m.act acts).SameButLog (m'.act acts') :=
  ⟨h.heap, h.statuses⟩

theorem SameButLog.record (h : m.SameButLog m') (thread : Nat) (s : Status) :
    (m.record thread s).SameButLog (m'.record thread s) where
  heap := h.heap
  statuses := by
    unfold Machine.record
    rw [h.statuses]

/-- What was done to the log makes no difference. -/
theorem SameButLog.logged (h : m.SameButLog m') {n n' : Machine} (hheap : n.heap = m.heap)
    (hstatuses : n.statuses = m.statuses) (hheap' : n'.heap = m'.heap)
    (hstatuses' : n'.statuses = m'.statuses) : n.SameButLog n' where
  heap := by
    rw [hheap, hheap']
    exact h.heap
  statuses := by rw [hstatuses, hstatuses', h.statuses]

/-! ## The parts of a call -/

/-- Putting a heap in place comes to the same. -/
theorem init_alike (hw : w.SameButLog w') (h : m.SameButLog m') (capacity : Nat) :
    (init w' capacity m').1 = (init w capacity m).1 ∧
      (init w capacity m).2.SameButLog (init w' capacity m').2 := by
  unfold init
  obtain ⟨hm, hm'⟩ | ⟨b, r, hsize, hm, hm'⟩ := h.heap.cases
  · obtain ⟨e, hb, hb'⟩ | ⟨b, r, hsize, hb, hb'⟩ := Heap.withCapacity_cases hw.places capacity
    · simp only [hm, hm', hb, hb', true_and]
      exact h
    · simp only [hm, hm', hb, hb']
      exact ⟨congrArg Except.ok hsize, .some hsize, h.statuses⟩
  · simp only [hm, hm', true_and]
    exact h

section

variable (hm : LogFaults w → m.logger.isInstalled = false)
  (hm' : LogFaults w' → m'.logger.isInstalled = false) (h : m.SameButLog m')
  (hfaults : LogFaults w ↔ LogFaults w')

include hm hm' h hfaults

/-- Starting the log faults in both processes or in neither. -/
theorem installLog_alike (held : Bool) (log log' : LogSettings) :
    (∃ f f', installLog w held log m = .error f ∧ installLog w' held log' m' = .error f') ∨
    ∃ b b' n n', installLog w held log m = .ok (b, n) ∧ installLog w' held log' m' = .ok (b', n') ∧
      n.SameButLog n' := by
  obtain ⟨hlog, f, hf⟩ | ⟨hlog, b, n, hn⟩ := installLog_cases hm held log
  · obtain ⟨-, f', hf'⟩ | ⟨hlog', -⟩ := installLog_cases hm' held log'
    · exact .inl ⟨f, f', hf, hf'⟩
    · exact absurd (hfaults.mp hlog) hlog'
  · obtain ⟨hlog', -⟩ | ⟨-, b', n', hn'⟩ := installLog_cases hm' held log'
    · exact absurd (hfaults.mpr hlog') hlog
    · exact .inr ⟨b, b', n, n', hn, hn', h.logged (Frame.installLog_heap hn)
        (installLog_statuses hn) (Frame.installLog_heap hn') (installLog_statuses hn')⟩

/-- Starting the log and putting a heap in place comes to the same. -/
theorem bootstrap_alike (hw : w.SameButLog w') {s s' : Settings}
    (hs : s'.capacity = s.capacity) :
    (∃ f f', bootstrap w s m = .error f ∧ bootstrap w' s' m' = .error f') ∨
    ∃ result n n', bootstrap w s m = .ok (result, n) ∧ bootstrap w' s' m' = .ok (result, n') ∧
      n.SameButLog n' := by
  unfold bootstrap
  obtain ⟨f, f', hf, hf'⟩ | ⟨_, _, n, n', hn, hn', hsame⟩ :=
    installLog_alike hm hm' h hfaults true s.log s'.log
  · exact .inl ⟨f, f', by rw [hf], by rw [hf']⟩
  · obtain ⟨hresult, hinit⟩ := init_alike hw hsame s.capacity
    refine .inr ⟨_, _, _, by rw [hn], ?_, hinit⟩
    simp only [hn', hs]
    rw [← hresult]

/-- So does a start from outside with settings. -/
theorem start_alike (hw : w.SameButLog w') (thread : Nat) {s s' : Settings}
    (hs : s'.capacity = s.capacity) :
    (start w thread s m = (.aborted, m) ∧ start w' thread s' m' = (.aborted, m')) ∨
    ∃ status n n', start w thread s m = (.returned status, n) ∧
      start w' thread s' m' = (.returned status, n') ∧ n.SameButLog n' := by
  unfold start
  obtain ⟨f, f', hf, hf'⟩ | ⟨result, n, n', hn, hn', hsame⟩ :=
    bootstrap_alike hm hm' h hfaults hw hs
  · exact .inl ⟨by rw [hf], by rw [hf']⟩
  · refine .inr ?_
    rw [hn, hn']
    cases result with
    | ok size => exact ⟨_, _, _, rfl, rfl, hsame.record thread .ok⟩
    | error e => exact ⟨_, _, _, rfl, rfl, (hsame.act _ _).record thread _⟩

end

/-- Two requests come to the same: a refusal, or an address at the same distance from the base. -/
inductive SameBlock (place place' : Option Shared) :
    Except HeapError Nat → Except HeapError Nat → Prop
  | refused (e : HeapError) : SameBlock place place' (.error e) (.error e)
  | granted {address address' : Nat} (h : SameAddress place place' address address') :
    SameBlock place place' (.ok address) (.ok address')

/-- A request that comes to an answer leaves the reply of the heap behind. -/
theorem takeBlock_reply {b : Shared} {size : Int32} {result : Except HeapError Nat} {n : Machine}
    (hb : m.heap = some b) (h : m.takeBlock size = .ok (result, n)) :
    ∃ reply, b.allocate size = .ok reply ∧ n.heap = some reply.heap ∧ n.statuses = m.statuses ∧
      result = reply.answer.map b.region.addressOf := by
  unfold takeBlock at h
  simp only [hb] at h
  cases hreply : b.allocate size with
  | error f =>
    simp only [hreply] at h
    cases h
  | ok reply =>
    simp only [hreply] at h
    refine ⟨reply, rfl, ?_⟩
    cases hanswer : reply.answer with
    | error e =>
      simp only [hanswer] at h
      cases h
      exact ⟨reportAll_heap _ _, reportAll_statuses _ _, rfl⟩
    | ok handle =>
      simp only [hanswer] at h
      unfold Fault.addWords at h
      split at h
      · cases h
      · next haddress =>
        cases h
        split at haddress
        · cases haddress
          exact ⟨reportAll_heap _ _, reportAll_statuses _ _, rfl⟩
        · cases haddress

/-- Asking for memory comes to the same. -/
theorem takeBlock_alike (hm : m.Sound) (hm' : m'.Sound) (h : m.SameButLog m') (size : Int32) :
    ∃ result result' n n', m.takeBlock size = .ok (result, n) ∧
      m'.takeBlock size = .ok (result', n') ∧ SameBlock n.heap n'.heap result result' ∧
      n.SameButLog n' := by
  obtain ⟨l, hl⟩ := hm.agrees 0
  obtain ⟨l', hl'⟩ := hm'.agrees 0
  obtain ⟨n, htake, -⟩ := takeBlock_agrees hl size
  obtain ⟨n', htake', -⟩ := takeBlock_agrees hl' size
  refine ⟨_, _, n, n', htake, htake', ?_⟩
  obtain ⟨hb, hb'⟩ | ⟨b, r, hsize, hb, hb'⟩ := h.heap.cases
  · have hnone : m.takeBlock size = .ok (.error .notInitialized, m) := by rw [takeBlock, hb]
    have hnone' : m'.takeBlock size = .ok (.error .notInitialized, m') := by rw [takeBlock, hb']
    obtain ⟨hresult, rfl⟩ := Prod.mk.inj (Except.ok.inj (htake.symm.trans hnone))
    obtain ⟨hresult', rfl⟩ := Prod.mk.inj (Except.ok.inj (htake'.symm.trans hnone'))
    rw [hresult, hresult']
    exact ⟨.refused .notInitialized, h⟩
  · obtain ⟨reply, hreply, hn, hstatuses, hresult⟩ := takeBlock_reply hb htake
    obtain ⟨reply', hreply', hn', hstatuses', hresult'⟩ := takeBlock_reply hb' htake'
    rw [Heap.Shared.allocate_moveTo hsize, hreply] at hreply'
    cases hreply'
    obtain ⟨hregion, -⟩ := Heap.Shared.grows_of_allocate hreply
    have hsame : n.SameButLog n' := by
      refine ⟨?_, by rw [hstatuses, hstatuses', h.statuses]⟩
      rw [hn, hn']
      exact .some (hregion ▸ hsize)
    refine ⟨?_, hsame⟩
    rw [hresult, hresult']
    cases reply.answer with
    | error e => exact .refused e
    | ok handle =>
      exact .granted (.inr ⟨_, _, handle.offset, hn, hn', by rw [hregion]; rfl, rfl⟩)

/-- The settings of a start from outside are refused alike, or have the same capacity. -/
theorem startSettings_alike (hw : w.SameButLog w') (capacity : Nat) :
    (∃ refusal, startSettings w capacity = .error refusal ∧
      startSettings w' capacity = .error refusal) ∨
    ∃ s s', startSettings w capacity = .ok s ∧ startSettings w' capacity = .ok s' ∧
      s'.capacity = s.capacity := by
  have hover : (Settings.override w'.environment {}).map (·.capacity) =
      (Settings.override w.environment {}).map (·.capacity) :=
    Settings.override_capacity hw.environment rfl
  unfold startSettings
  cases ho : Settings.override w.environment {} with
  | error r =>
    cases ho' : Settings.override w'.environment {} with
    | error r' =>
      rw [ho, ho'] at hover
      cases hover
      exact .inl ⟨_, rfl, rfl⟩
    | ok s' =>
      rw [ho, ho'] at hover
      cases hover
  | ok s =>
    cases ho' : Settings.override w'.environment {} with
    | error r' =>
      rw [ho, ho'] at hover
      cases hover
    | ok s' =>
      rw [ho, ho'] at hover
      have hcapacity : s'.capacity = s.capacity := Except.ok.inj hover
      by_cases hzero : capacity = 0
      · simp only [if_pos hzero]
        exact .inr ⟨s, s', rfl, rfl, hcapacity⟩
      · have hsame : ({ s' with capacity } : Settings).rejection? =
            ({ s with capacity } : Settings).rejection? := Settings.rejection?_eq rfl
        simp only [if_neg hzero, hsame]
        cases ({ s with capacity } : Settings).rejection? with
        | some r => exact .inl ⟨_, rfl, rfl⟩
        | none => exact .inr ⟨_, _, rfl, rfl, rfl⟩

/-! ## One call -/

/-- A call starts the log in both surroundings or in neither. -/
theorem opensLog_eq (hw : w.SameButLog w') {c c' : Call} (hc : c.SameButLog c') :
    c'.opensLog w' = c.opensLog w := by
  cases hc with
  | same c =>
    cases c with
    | start capacity =>
      obtain ⟨_, hs, hs'⟩ | ⟨_, _, hs, hs', -⟩ := startSettings_alike hw capacity
      · simp only [Call.opensLog, Call.logSettings?, hs, hs']
      · simp only [Call.opensLog, Call.logSettings?, hs, hs']
        rfl
    | _ => rfl
  | bootstrap h => rfl
  | installLog log log' => rfl

/-- The settings that are found have the same capacity. -/
theorem discover_alike (hw : w.SameButLog w') (h : m.SameButLog m') :
    (discover w' m').1.capacity = (discover w m).1.capacity ∧
      (discover w m).2.SameButLog (discover w' m').2 := by
  constructor
  · show (Settings.discover _ _).1.capacity = (Settings.discover _ _).1.capacity
    rw [hw.current]
    exact Settings.discover_capacity hw.environment w.current
  · exact h.logged (reportAll_heap _ _) (reportAll_statuses _ _) (reportAll_heap _ _)
      (reportAll_statuses _ _)

section

variable (hw : w.SameButLog w') (hm : m.Steady w) (hm' : m'.Steady w') (h : m.SameButLog m')

include hw hm hm' h

/-- A start from outside with a capacity comes to the same. -/
theorem startWith_alike (thread capacity : Nat)
    (hfaults : (Call.start capacity).opensLog w = true → (LogFaults w ↔ LogFaults w')) :
    (Call.start capacity).Alike (m.call w thread (.start capacity))
      (m'.call w' thread (.start capacity)) := by
  obtain ⟨refusal, hs, hs'⟩ | ⟨s, s', hs, hs', hcapacity⟩ := startSettings_alike hw capacity
  · simp only [call, startWith, hs, hs']
    exact ⟨.returned rfl, (h.act _ _).record thread _⟩
  · have hopens : (Call.start capacity).opensLog w = true := by
      rw [Call.opensLog, Call.logSettings?, hs]
      rfl
    obtain ⟨hstart, hstart'⟩ | ⟨status, n, n', hstart, hstart', hsame⟩ :=
      start_alike hm.unlogged hm'.unlogged h (hfaults hopens) hw thread hcapacity
    · simp only [call, startWith, hs, hs', hstart, hstart']
      exact ⟨.aborted, h⟩
    · simp only [call, startWith, hs, hs', hstart, hstart']
      exact ⟨.returned rfl, hsame⟩

/-- A start from outside with the settings that are found comes to the same. -/
theorem startDefault_alike (thread : Nat) (hfaults : LogFaults w ↔ LogFaults w') :
    Call.startDefault.Alike (m.call w thread .startDefault) (m'.call w' thread .startDefault) := by
  obtain ⟨hcapacity, hsame⟩ := discover_alike hw h
  obtain ⟨hstart, hstart'⟩ | ⟨status, n, n', hstart, hstart', hlast⟩ :=
    start_alike (unlogged_discover hm.unlogged) (unlogged_discover hm'.unlogged) hsame hfaults hw
      thread hcapacity
  · simp only [call, startDefault, hstart, hstart']
    exact ⟨.aborted, hsame⟩
  · simp only [call, startDefault, hstart, hstart']
    exact ⟨.returned rfl, hlast⟩

theorem bootstrapCall_alike (thread : Nat) {s s' : Settings} (hs : s'.capacity = s.capacity)
    (hfaults : LogFaults w ↔ LogFaults w') :
    (Call.bootstrap s).Alike (m.call w thread (.bootstrap s)) (m'.call w' thread (.bootstrap s')) := by
  obtain ⟨f, f', hf, hf'⟩ | ⟨result, n, n', hn, hn', hsame⟩ :=
    bootstrap_alike hm.unlogged hm'.unlogged h hfaults hw hs
  · simp only [call, hf, hf']
    exact ⟨.faulted f f', h⟩
  · simp only [call, hn, hn']
    exact ⟨.returned rfl, hsame⟩

omit hw in
theorem installLogCall_alike (thread : Nat) (log log' : LogSettings)
    (hfaults : LogFaults w ↔ LogFaults w') :
    (Call.installLog log).Alike (m.call w thread (.installLog log))
      (m'.call w' thread (.installLog log')) := by
  obtain ⟨f, f', hf, hf'⟩ | ⟨b, b', n, n', hn, hn', hsame⟩ :=
    installLog_alike hm.unlogged hm'.unlogged h hfaults false log log'
  · simp only [call, hf, hf']
    exact ⟨.faulted f f', h⟩
  · simp only [call, hn, hn']
    exact ⟨.returned ⟨b, b', rfl, rfl⟩, hsame⟩

omit hw in
/-- A request for memory comes to the same, in either form. -/
theorem request_alike (thread : Nat) {c : Call} (hc : c.isRequest = true) :
    c.Alike (m.call w thread c) (m'.call w' thread c) := by
  cases c with
  | allocate size =>
    obtain ⟨result, result', n, n', htake, htake', hblock, hsame⟩ :=
      takeBlock_alike hm.sound hm'.sound h size
    cases hblock with
    | refused e =>
      simp only [call, allocate, htake, htake']
      exact ⟨.returned ⟨0, 0, rfl, rfl, .inl ⟨rfl, rfl⟩⟩, hsame.record thread _⟩
    | granted haddress =>
      simp only [call, allocate, htake, htake']
      exact ⟨.returned ⟨_, _, rfl, rfl, haddress⟩, hsame.record thread _⟩
  | allocateChecked isNull size =>
    cases isNull with
    | true => exact ⟨.returned (.inl ⟨_, rfl, rfl⟩), (h.act _ _).record thread _⟩
    | false =>
      obtain ⟨result, result', n, n', htake, htake', hblock, hsame⟩ :=
        takeBlock_alike hm.sound hm'.sound h size
      cases hblock with
      | refused e =>
        simp only [call, allocateChecked, htake, htake', Bool.false_eq_true, if_false]
        exact ⟨.returned (.inl ⟨_, rfl, rfl⟩), hsame.record thread _⟩
      | granted haddress =>
        simp only [call, allocateChecked, htake, htake', Bool.false_eq_true, if_false]
        exact ⟨.returned (.inr ⟨_, _, _, rfl, rfl, haddress⟩), hsame.record thread _⟩
  | _ => cases hc

omit hw hm' in
/-- The queries about the heap come to the same. -/
theorem query_alike :
    Call.heapBase.Alike (.returned (.number m.heapBase), m) (.returned (.number m'.heapBase), m') ∧
    m'.heapUsed = m.heapUsed ∧ m'.heapCapacity = m.heapCapacity ∧
    ∃ s, m.stats = .returned s ∧ m'.stats = .returned s := by
  obtain ⟨l, hl⟩ := hm.sound.agrees 0
  have hstats := stats_agrees hl
  obtain ⟨hb, hb'⟩ | ⟨b, r, hsize, hb, hb'⟩ := h.heap.cases
  · simp only [heapBase, heapUsed, heapCapacity, stats, hb, hb']
    exact ⟨⟨.returned ⟨0, 0, rfl, rfl, .inl ⟨rfl, rfl⟩⟩, h⟩, trivial, trivial, none, rfl, rfl⟩
  · simp only [stats, hb] at hstats
    simp only [heapBase, heapUsed, heapCapacity, stats, hb, hb',
      Heap.Shared.stats_moveTo hsize]
    exact ⟨⟨.returned ⟨_, _, rfl, rfl, .inr ⟨_, _, 0, hb, hb', rfl, rfl⟩⟩, h⟩, rfl, hsize,
      _, hstats, hstats⟩

omit hw in
theorem shutdown_alike (thread : Nat) :
    Call.shutdown.Alike (m.call w thread .shutdown) (m'.call w' thread .shutdown) := by
  obtain ⟨l, hl⟩ := hm.sound.agrees thread
  obtain ⟨l', hl'⟩ := hm'.sound.agrees thread
  obtain ⟨n, hn, hheap, hstatuses⟩ := shutdown_agrees hl
  obtain ⟨n', hn', hheap', hstatuses'⟩ := shutdown_agrees hl'
  simp only [call, hn, hn']
  exact ⟨.returned rfl, h.logged hheap hstatuses hheap' hstatuses'⟩

omit hw hm hm' in
/-- Long arithmetic looks at its memory alone. -/
theorem long_alike (thread : Nat) (memory : Long.Memory) (c : Long.Call) :
    (Call.long memory c).Alike (m.call w thread (.long memory c))
      (m'.call w' thread (.long memory c)) := by
  simp only [call, long]
  cases c.run memory with
  | wrote after => exact ⟨.returned rfl, h⟩
  | rejected => exact ⟨.returned rfl, h.act _ _⟩
  | zeroDivisor => exact ⟨.aborted, (h.act _ _).act _ _⟩
  | faulted f => exact ⟨.faulted f f, h⟩

/-- **Calls that differ in the log come to the same**, unless they start the log and the filter
faults in one of the environments and not in the other. -/
theorem call_alike (thread : Nat) {c c' : Call} (hc : c.SameButLog c')
    (hfaults : c.opensLog w = true → (LogFaults w ↔ LogFaults w')) :
    c.Alike (m.call w thread c) (m'.call w' thread c') := by
  cases hc with
  | bootstrap hs => exact bootstrapCall_alike hw hm hm' h thread hs (hfaults rfl)
  | installLog log log' => exact installLogCall_alike hm hm' h thread log log' (hfaults rfl)
  | same c =>
    obtain ⟨hbase, hused, hcapacity, s, hs, hs'⟩ := query_alike hm h
    cases c with
    | start capacity => exact startWith_alike hw hm hm' h thread capacity hfaults
    | startDefault => exact startDefault_alike hw hm hm' h thread (hfaults rfl)
    | shutdown => exact shutdown_alike hm hm' h thread
    | flushLog => exact ⟨.returned rfl, h.act _ _⟩
    | init capacity =>
      obtain ⟨hresult, hsame⟩ := init_alike hw h capacity
      exact ⟨.returned (congrArg Answer.started hresult), hsame⟩
    | bootstrap s => exact bootstrapCall_alike hw hm hm' h thread rfl (hfaults rfl)
    | allocate size => exact request_alike hm hm' h thread rfl
    | allocateChecked isNull size => exact request_alike hm hm' h thread rfl
    | heapBase => exact hbase
    | heapUsed => exact ⟨.returned (congrArg Answer.number hused), h⟩
    | heapCapacity => exact ⟨.returned (congrArg Answer.number hcapacity), h⟩
    | lastStatus => exact ⟨.returned (congrArg Answer.status (congrFun h.statuses thread)), h⟩
    | stats =>
      simp only [call, hs, hs']
      exact ⟨.returned rfl, h⟩
    | long memory c => exact long_alike h thread memory c
    | discover =>
      obtain ⟨hfound, hsame⟩ := discover_alike hw h
      exact ⟨.returned ⟨_, _, rfl, rfl, hfound⟩, hsame⟩
    | load path =>
      simp only [call, hw.current]
      exact ⟨.returned rfl, h⟩
    | override s =>
      obtain ⟨hcapacity, hcomplaint⟩ :=
        Settings.tryOverride_capacity hw.environment (rfl : s.capacity = s.capacity)
      have hanswer := congrArg (Answer.overridden (s.tryOverride w'.environment).1) hcomplaint
      exact ⟨.returned ⟨_, _, _, rfl, hanswer, hcapacity⟩, h⟩
    | installLog log => exact installLogCall_alike hm hm' h thread log log (hfaults rfl)
    | occupyLog => exact ⟨.returned ⟨_, _, rfl, rfl⟩, h.act _ _⟩
    | isLogInstalled => exact ⟨.returned ⟨_, _, rfl, rfl⟩, h⟩
    | report e => exact ⟨.returned rfl, h.act _ _⟩

end

end Machine

end VmSupport
