import VmSupport.Proofs.Machine.CallEnds

/-!
# Calls from generated code do not fault

Generated code has nobody who could go on after a fault, so none may reach it. A call that it makes
is safe if it returns, or divides by zero and ends the process for that.

**The law** (`exported_calls_safe`): the calls of a run from generated code are all safe exactly if
no call that the run comes to starts the log while the filter in the environment faults. What happens
otherwise is that the process is ended; a fault never gets out.

**Arithmetic is not to blame.** In no state that a run comes to can an operation on words leave the
words, nor is there a division by zero that was not asked for (`Machine.StaysInWords`). The one thing
that faults is a filter that is cut inside a character (`Log.Filter.read_fault`).
-/

namespace VmSupport

open Heap (Bump)

namespace Machine

variable {w : Surroundings} {m : Machine}

theorem installLog_fault {held : Bool} {log : LogSettings} {fault : Fault}
    (h : installLog w held log m = .error fault) : fault.IsCut := by
  obtain ⟨_, -, hread⟩ := read_of_installLog h
  exact Log.Filter.read_fault hread

theorem bootstrap_fault {s : Settings} {fault : Fault} (h : bootstrap w s m = .error fault) :
    fault.IsCut := by
  unfold bootstrap at h
  split at h
  · next hlog =>
    cases h
    exact installLog_fault hlog
  · cases h

/-! ## Words -/

/-- **No operation leaves the words** in this state, and no division goes wrong by itself. -/
structure StaysInWords (w : Surroundings) (m : Machine) : Prop where
  /-- Rounding a request does not wrap. -/
  rounding : ∀ size bytes, Heap.roundedSize size = .ok bytes →
    size.toInt ≤ bytes ∧ bytes < size.toInt + Heap.granuleBytes
  /-- A capacity that is read is a word. -/
  capacity : ∀ text bytes, Settings.readSize? text = some bytes → bytes < Fault.wordLimit
  /-- The heap ends inside the words, and the cursor stays inside the heap. -/
  heap : ∀ h, m.heap = some h → h.cursor ≤ h.region.size ∧ h.region.limit < Fault.wordLimit
  /-- A request for memory comes to an answer. -/
  block : ∀ size, ∃ result m', m.takeBlock size = .ok (result, m')
  stats : ∃ s, m.stats = .returned s
  /-- Long arithmetic divides by zero only where it ends the process for that. -/
  long : ∀ memory c fault, Long.Call.run memory c ≠ .faulted fault
  /-- What is left is the filter. -/
  start : ∀ s fault, bootstrap w s m = .error fault → fault.IsCut

/-- What is read as a byte size was checked for being a word. -/
theorem lt_wordLimit_of_readSize? {text : String} {bytes : Nat}
    (h : Settings.readSize? text = some bytes) : bytes < Fault.wordLimit := by
  have hscaled {count unit : Nat} (hscale : Settings.scale? count unit = some bytes) :
      bytes < Fault.wordLimit := by
    unfold Settings.scale? at hscale
    split at hscale
    · next hlt =>
      cases hscale
      exact hlt
    · cases hscale
  obtain ⟨count, -, hscale⟩ := Option.bind_eq_some_iff.mp h
  exact hscaled hscale

theorem roundedSize_bounds {size : Int32} {bytes : Nat} (h : Heap.roundedSize size = .ok bytes) :
    size.toInt ≤ bytes ∧ bytes < size.toInt + Heap.granuleBytes := by
  rw [Heap.roundedSize_eq] at h
  split at h
  · cases h
  · next hneg =>
    cases h
    have hpos : 0 ≤ size.toInt := Int32.le_iff_toInt_le.mp (Int32.not_lt.mp hneg)
    simp only [Heap.roundUp, Heap.granuleBytes_eq]
    omega

theorem long_ne_faulted (memory : Long.Memory) (c : Long.Call) (fault : Fault) :
    c.run memory ≠ .faulted fault := by
  unfold Long.Call.run
  split
  · exact fun h => by cases h
  · next hzero =>
    rw [Long.hasZeroDivisor_iff] at hzero
    by_cases hnull : none ∈ c.pointers
    · rw [Long.perform_of_null hnull]
      exact fun h => by cases h
    · obtain ⟨cell, content, -, -, hperform⟩ := Long.perform_of_present hzero hnull
      rw [hperform]
      exact fun h => by cases h

theorem Steady.staysInWords (hm : m.Steady w) : m.StaysInWords w where
  rounding _ _ := roundedSize_bounds
  capacity _ _ := lt_wordLimit_of_readSize?
  heap h hh := by
    obtain ⟨l, hl, hheap⟩ := hm.sound
    rw [hheap] at hh
    obtain ⟨b, hb, rfl⟩ := Option.map_eq_some_iff.mp hh
    exact ⟨(hl b hb).2, b.region.fits⟩
  block size := by
    obtain ⟨l, hl⟩ := hm.sound.agrees 0
    obtain ⟨m', htake, -, -⟩ := takeBlock_agrees hl size
    exact ⟨_, m', htake⟩
  stats := by
    obtain ⟨l, hl⟩ := hm.sound.agrees 0
    exact ⟨_, stats_agrees hl⟩
  long := long_ne_faulted
  start _ _ := bootstrap_fault

/-! ## Safe calls -/

/-- Each call that a run comes to returns, or it divides by zero and ends the process. -/
def AllSafe (w : Surroundings) (calls : List (Nat × Call)) : Prop :=
  ∀ {k thread c before}, Makes w .fresh calls k thread c before →
    (∃ answer after, before.call w thread c = (.returned answer, after)) ∨
    (c.dividesByZero = true ∧ ∃ after, before.call w thread c = (.aborted, after))

/-- No call that a run comes to starts the log where that faults. -/
def LogStarts (w : Surroundings) (calls : List (Nat × Call)) : Prop :=
  ∀ {k thread c before}, Makes w .fresh calls k thread c before → c.opensLog w = true →
    ¬ LogFaults w

theorem allSafe_iff_logStarts {calls : List (Nat × Call)} : AllSafe w calls ↔ LogStarts w calls := by
  constructor
  · intro hsafe k thread c before hmakes hopens hfaults
    have hends := call_ends (hmakes.steady (steady_fresh w)) thread c
    have hdivisor := dividesByZero_of_opensLog hopens
    obtain ⟨answer, after, hcall⟩ | ⟨hzero, -⟩ := hsafe hmakes
    · rw [hcall] at hends
      cases hends with
      | returned hlog _ => exact hlog hopens hfaults
    · rw [hdivisor] at hzero
      cases hzero
  · intro hstarts k thread c before hmakes
    have hends := call_ends (hmakes.steady (steady_fresh w)) thread c
    rcases hcall : before.call w thread c with ⟨outcome, after⟩
    rw [hcall] at hends
    cases hends with
    | returned _ _ => exact .inl ⟨_, after, rfl⟩
    | zeroDivisor hdivisor => exact .inr ⟨hdivisor, after, rfl⟩
    | logAborts hopens hfaults _ => exact absurd hfaults (hstarts hmakes hopens)
    | logFaults hopens hfaults _ => exact absurd hfaults (hstarts hmakes hopens)

/-- A run of calls from generated code does not fault. -/
theorem run_ne_faulted {calls : List (Nat × Call)} (hm : m.Steady w)
    (hexported : (calls.all fun x => x.2.isExported) = true) (fault : Fault) :
    (m.run w calls).2.1 ≠ .faulted fault := by
  induction calls generalizing m with
  | nil => exact fun h => by cases h
  | cons first rest ih =>
    obtain ⟨thread, c⟩ := first
    obtain ⟨hfirst, hrest⟩ := Bool.and_eq_true_iff.mp hexported
    have hends := call_ends hm thread c
    unfold run
    rcases hcall : m.call w thread c with ⟨outcome, after⟩
    rw [hcall] at hends
    cases hends with
    | returned _ _ => exact ih (hm.call hcall) hrest
    | zeroDivisor _ => exact fun h => by cases h
    | logAborts _ _ _ => exact fun h => by cases h
    | logFaults _ _ hinside => cases hinside.symm.trans hfirst

/-- The calls from generated code that start the log are the starts. -/
theorem notice?_of_opensLog {c : Call} (hexported : c.isExported = true)
    (hopens : c.opensLog w = true) : c.notice? = some faultNotice := by
  cases c with
  | start _ | startDefault => rfl
  | bootstrap _ | installLog _ => cases hexported
  | _ => cases hopens

end Machine

/-! ## The law -/

open Machine (Makes AllSafe LogStarts)

/-- **What is said about calls from generated code**, made one after another on a fresh process. -/
structure SafeCalls (w : Surroundings) (calls : List (Nat × Call)) : Prop where
  /-- They are safe exactly if none of them starts the log where that faults. -/
  safe_iff : AllSafe w calls ↔ LogStarts w calls
  /-- No fault gets out. -/
  noFault : ∀ fault, (Machine.run w .fresh calls).2.1 ≠ .faulted fault
  /-- A call that is not safe ends the process, which says so past the logger. -/
  otherwise : ∀ {k thread c before}, Makes w .fresh calls k thread c before →
    c.opensLog w = true → Machine.LogFaults w →
    (∃ after, before.call w thread c = (.aborted, after)) ∧ c.notice? = some Machine.faultNotice
  /-- Nothing but the filter can fault. -/
  words : ∀ {k thread c before}, Makes w .fresh calls k thread c before → before.StaysInWords w

/-- **Calls from generated code** are safe unless the filter in the environment faults. -/
theorem exported_calls_safe (w : Surroundings) {calls : List (Nat × Call)}
    (hexported : (calls.all fun x => x.2.isExported) = true) : SafeCalls w calls where
  safe_iff := Machine.allSafe_iff_logStarts
  noFault := Machine.run_ne_faulted (Machine.steady_fresh w) hexported
  otherwise {k thread c before} hmakes hopens hfaults := by
    have hends := Machine.call_ends (hmakes.steady (Machine.steady_fresh w)) thread c
    have hfrom : c.isExported = true :=
      List.all_eq_true.mp hexported _ (List.mem_of_getElem? hmakes.getElem?)
    refine ⟨?_, Machine.notice?_of_opensLog hfrom hopens⟩
    rcases hcall : before.call w thread c with ⟨outcome, after⟩
    rw [hcall] at hends
    cases hends with
    | returned hlog _ => exact absurd hfaults (hlog hopens)
    | zeroDivisor _ => exact ⟨after, rfl⟩
    | logAborts _ _ _ => exact ⟨after, rfl⟩
    | logFaults _ _ hinside => cases hinside.symm.trans hfrom
  words hmakes := (hmakes.steady (Machine.steady_fresh w)).staysInWords

/-- In surroundings where nothing is set all calls are safe, to the one that divides by zero. -/
theorem exported_calls_safe_quiet :
    AllSafe .quiet [(0, .start 64), (1, .allocate 8), (0, .startDefault),
      (1, .long ⟨fun _ => 0, fun _ => 0⟩ (.binary .div none none (some 0)))] := by
  refine (exported_calls_safe .quiet rfl).safe_iff.mpr ?_
  exact fun _ _ => Machine.not_logFaults_quiet

/-- With a blank of two bytes in front of the filter the first call is not. -/
theorem not_allSafe_indented : ¬ AllSafe .indented [(0, .startDefault)] := by
  rw [Machine.allSafe_iff_logStarts]
  exact fun hstarts => hstarts .first rfl Machine.logFaults_indented

end VmSupport
