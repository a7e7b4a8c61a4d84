import VmSupport.Proofs.Log.EffectiveFilter
import VmSupport.Proofs.Long.PureProgram
import VmSupport.Proofs.Machine.CallActs
import VmSupport.Proofs.Machine.HeapForetold

/-!
# How calls end, and how far runs come

**The law** (`Machine.call_ends`): a call of a process returns, but for two cases. It divides by a
zero, which ends the process; or it starts the log where the filter in the environment faults, and
then a start from outside ends the process while a call of the library faults. A start that is
refused before it comes to the log returns all the same.

The law is about every process that a run can come to (`Machine.Steady`). Where the filter faults,
nobody ever brings the library's logger to its place; so the next start of the log reads the filter
again, and faults again.

**How far a run comes** is said call by call: `Machine.Makes` says that a run comes to the call with
this number, and in which state of the process it makes it.
-/

namespace VmSupport

open Heap (HeapError)
open Log (Act)

/-- Surroundings in which the filter begins with a blank of two bytes. It is one piece with an equals
sign, and the cut for its target falls inside the blank. -/
def Surroundings.indented : Surroundings :=
  { quiet with
    environment := fun key => if key = filterVariable then some "\u00a0a=" else none }

namespace Call

/-- The call divides by a cell that holds zero. -/
def dividesByZero : Call → Bool
  | long memory c => c.hasZeroDivisor memory
  | _ => false

/-- The call is one of those that generated code can make. -/
def isExported : Call → Bool
  | start _ | startDefault | shutdown | allocate _ | allocateChecked .. | heapBase | heapUsed
  | heapCapacity | lastStatus | long .. => true
  | _ => false

/-- The call comes to start the log. -/
def opensLog (w : Surroundings) (c : Call) : Bool :=
  (c.logSettings? w).isSome

/-- **How a call ends**, and what that says about the call. -/
inductive Ends (w : Surroundings) (c : Call) : Outcome Answer × Machine → Prop
  | returned {answer : Answer} {m : Machine} (hlog : c.opensLog w = true → ¬ Machine.LogFaults w)
    (hdivisor : c.dividesByZero = false) : Ends w c (.returned answer, m)
  | zeroDivisor {m : Machine} (hdivisor : c.dividesByZero = true) : Ends w c (.aborted, m)
  | logAborts {m : Machine} (hopens : c.opensLog w = true) (hfaults : Machine.LogFaults w)
    (houtside : c.isExported = true) : Ends w c (.aborted, m)
  | logFaults {fault : Fault} {m : Machine} (hopens : c.opensLog w = true)
    (hfaults : Machine.LogFaults w) (hinside : c.isExported = false) :
    Ends w c (.faulted fault, m)

end Call

namespace Machine

variable {w : Surroundings} {thread : Nat} {m m' : Machine} {c : Call}

/-- No call that starts the log divides. -/
theorem dividesByZero_of_opensLog (hopens : c.opensLog w = true) : c.dividesByZero = false := by
  cases c with
  | long _ _ => cases hopens
  | _ => rfl

/-! ## A filter that faults -/

theorem not_logFaults_quiet : ¬ LogFaults .quiet := by
  rintro ⟨text, _, htext, _⟩
  cases htext

/-- No filter comes out of a variable that faults as it is read. -/
theorem LogFaults.build (h : LogFaults w) (level : Log.Level) (further : Option String) :
    ∃ fault, Log.Filter.build w.patterns (w.environment filterVariable) level further =
      .error fault := by
  obtain ⟨text, fault, htext, hread⟩ := h
  refine ⟨fault, ?_⟩
  rw [Log.Filter.build, htext, Option.elim_some, hread]
  rfl

/-- So the library's logger is never offered the place. -/
theorem LogFaults.not_mem_acts (h : LogFaults w) {acts : List Act} (hacts : c.Acts w m acts)
    (filter : Log.Filter) (layout : Log.Layout) (held : Bool) :
    .install filter layout held ∉ acts := by
  intro hmem
  obtain ⟨log, refused, early, late, -, hbuild, -, -, -⟩ := hacts.opens_of_mem hmem
  obtain ⟨fault, hfault⟩ := h.build log.level log.filter
  cases hfault.symm.trans hbuild

theorem logFaults_indented : LogFaults Surroundings.indented :=
  ⟨_, _, rfl, Log.read_indented _⟩

/-- What is invariably true of a process in its surroundings, while no call is under way. -/
structure Steady (w : Surroundings) (m : Machine) : Prop where
  sound : m.Sound
  unlogged : LogFaults w → m.logger.isInstalled = false

theorem steady_fresh (w : Surroundings) : Steady w fresh :=
  ⟨sound_fresh, fun _ => rfl⟩

theorem Steady.call (hm : m.Steady w) {answer : Answer}
    (h : m.call w thread c = (.returned answer, m')) : m'.Steady w where
  sound := hm.sound.call h
  unlogged hfaults := by
    obtain ⟨acts, hdid, hacts⟩ := call_acts (w := w) hm.sound thread c
    rw [h] at hdid
    rw [hdid.logger, Log.Logger.isInstalled_actAll_of_no_install (hfaults.not_mem_acts hacts)]
    exact hm.unlogged hfaults

/-! ## How a call ends -/

/-- The log is started unless its filter faults. -/
theorem installLog_cases (hm : LogFaults w → m.logger.isInstalled = false) (held : Bool)
    (log : LogSettings) :
    (LogFaults w ∧ ∃ fault, installLog w held log m = .error fault) ∨
    (¬ LogFaults w ∧ ∃ b m', installLog w held log m = .ok (b, m')) := by
  by_cases hfaults : LogFaults w
  · obtain ⟨fault, hbuild⟩ := hfaults.build log.level log.filter
    refine .inl ⟨hfaults, fault, ?_⟩
    rw [installLog, if_neg (Bool.not_eq_true _ ▸ hm hfaults), hbuild]
  · refine .inr ⟨hfaults, ?_⟩
    cases hlog : installLog w held log m with
    | error fault => exact absurd (logFaults_of_installLog hlog) hfaults
    | ok r => exact ⟨r.1, r.2, rfl⟩

theorem bootstrap_ends (hm : LogFaults w → m.logger.isInstalled = false) (s : Settings) :
    (LogFaults w ∧ ∃ fault, bootstrap w s m = .error fault) ∨
    (¬ LogFaults w ∧ ∃ r m', bootstrap w s m = .ok (r, m')) := by
  unfold bootstrap
  obtain ⟨hfaults, fault, hlog⟩ | ⟨hfaults, b, m₁, hlog⟩ := installLog_cases hm true s.log
  · exact .inl ⟨hfaults, fault, by rw [hlog]⟩
  · exact .inr ⟨hfaults, _, _, by rw [hlog]⟩

theorem start_ends (hm : LogFaults w → m.logger.isInstalled = false) (thread : Nat)
    (s : Settings) :
    (LogFaults w ∧ start w thread s m = (.aborted, m)) ∨
    (¬ LogFaults w ∧ ∃ status m', start w thread s m = (.returned status, m')) := by
  unfold start
  obtain ⟨hfaults, fault, hboot⟩ | ⟨hfaults, r, m₁, hboot⟩ := bootstrap_ends hm s
  · exact .inl ⟨hfaults, by rw [hboot]⟩
  · refine .inr ⟨hfaults, ?_⟩
    rw [hboot]
    cases r with
    | ok size => exact ⟨_, _, rfl⟩
    | error e => exact ⟨_, _, rfl⟩

/-- Looking for settings does not bring anybody to the place of the receiver. -/
theorem unlogged_discover (hm : LogFaults w → m.logger.isInstalled = false) :
    LogFaults w → (discover w m).2.logger.isInstalled = false := fun hfaults =>
  (Reports.isInstalled ⟨_, .reportAll m _⟩).trans (hm hfaults)

/-- **How a call ends**: it returns, unless it divides by zero, or starts the log where that
faults. -/
theorem call_ends (hm : m.Steady w) (thread : Nat) (c : Call) : c.Ends w (m.call w thread c) := by
  have of_returns (hreturns : c.returns = true) (hopens : c.opensLog w = false)
      (hdivisor : c.dividesByZero = false) : c.Ends w (m.call w thread c) := by
    obtain ⟨l, hl⟩ := hm.sound.agrees thread
    obtain ⟨answer, m', hcall⟩ := exists_returned (w := w) hl hreturns
    rw [hcall]
    exact .returned (fun h => by rw [hopens] at h; cases h) hdivisor
  cases c with
  | start capacity =>
    simp only [call, startWith]
    cases hs : startSettings w capacity with
    | error refusal =>
      refine .returned (fun h => ?_) rfl
      rw [Call.opensLog, Call.logSettings?, hs] at h
      cases h
    | ok s =>
      have hopens : (Call.start capacity).opensLog w = true := by
        rw [Call.opensLog, Call.logSettings?, hs]
        rfl
      obtain ⟨hfaults, hstart⟩ | ⟨hfaults, status, m', hstart⟩ := start_ends hm.unlogged thread s
      · simp only [hstart]
        exact .logAborts hopens hfaults rfl
      · simp only [hstart]
        exact .returned (fun _ => hfaults) rfl
  | startDefault =>
    simp only [call, startDefault]
    obtain ⟨hfaults, hstart⟩ | ⟨hfaults, status, m', hstart⟩ :=
      start_ends (unlogged_discover hm.unlogged) thread (discover w m).1
    · simp only [hstart]
      exact .logAborts rfl hfaults rfl
    · simp only [hstart]
      exact .returned (fun _ => hfaults) rfl
  | bootstrap s =>
    obtain ⟨hfaults, fault, hboot⟩ | ⟨hfaults, r, m', hboot⟩ := bootstrap_ends hm.unlogged s
    · simp only [call, hboot]
      exact .logFaults rfl hfaults rfl
    · simp only [call, hboot]
      exact .returned (fun _ => hfaults) rfl
  | installLog log =>
    obtain ⟨hfaults, fault, hlog⟩ | ⟨hfaults, b, m', hlog⟩ := installLog_cases hm.unlogged false log
    · simp only [call, hlog]
      exact .logFaults rfl hfaults rfl
    · simp only [call, hlog]
      exact .returned (fun _ => hfaults) rfl
  | long memory c =>
    by_cases hzero : c.divisor.map memory.longs = some 0
    · simp only [call, long_of_zeroDivisor hzero m]
      exact .zeroDivisor (Long.hasZeroDivisor_iff.mpr hzero)
    · have hdivisor : (Call.long memory c).dividesByZero = false :=
        (Bool.not_eq_true _).mp fun h => hzero (Long.hasZeroDivisor_iff.mp h)
      have hreturned : ∃ after, (m.long memory c).1 = .returned after := by
        obtain ⟨-, h⟩ | ⟨-, cell, content, -, -, h⟩ := long_of_divisor_ne_zero hzero m
        · exact ⟨_, h⟩
        · exact ⟨_, h⟩
      obtain ⟨after, hafter⟩ := hreturned
      simp only [call, hafter]
      exact .returned (fun h => by cases h) hdivisor
  | shutdown | init _ | allocate _ | allocateChecked _ _ | heapBase | heapUsed | heapCapacity
  | lastStatus | stats => exact of_returns rfl rfl rfl
  | flushLog | discover | load _ | override _ | occupyLog | isLogInstalled | report _ =>
    exact .returned (fun h => by cases h) rfl

/-! ## How far a run comes -/

/-- **The run comes to a call**: of these calls, made one after another from the first state on, the
one with this number is made, by this thread and in the second state. -/
inductive Makes (w : Surroundings) :
    Machine → List (Nat × Call) → Nat → Nat → Call → Machine → Prop
  | first {m : Machine} {thread : Nat} {c : Call} {rest : List (Nat × Call)} :
    Makes w m ((thread, c) :: rest) 0 thread c m
  | later {m m₁ before : Machine} {thread₀ : Nat} {c₀ : Call} {answer : Answer}
    {rest : List (Nat × Call)} {k thread : Nat} {c : Call}
    (hreturned : m.call w thread₀ c₀ = (.returned answer, m₁))
    (hrest : Makes w m₁ rest k thread c before) :
    Makes w m ((thread₀, c₀) :: rest) (k + 1) thread c before

namespace Makes

variable {before : Machine} {calls : List (Nat × Call)} {k : Nat}

theorem getElem? (h : Makes w m calls k thread c before) : calls[k]? = some (thread, c) := by
  induction h with
  | first => rfl
  | later _ _ ih => exact ih

/-- What is invariably true is true before every call. -/
theorem steady (h : Makes w m calls k thread c before) (hm : m.Steady w) : before.Steady w := by
  induction h with
  | first => exact hm
  | later hreturned _ ih => exact ih (hm.call hreturned)

/-- The calls that a run comes to are those that are answered, and one more. -/
theorem iff_le_length (hc : calls[k]? = some (thread, c)) :
    (∃ before, Makes w m calls k thread c before) ↔ k ≤ (m.run w calls).1.length := by
  induction calls generalizing m k with
  | nil => cases hc
  | cons first rest ih =>
    obtain ⟨thread₀, c₀⟩ := first
    cases k with
    | zero =>
      cases hc
      exact ⟨fun _ => Nat.zero_le _, fun _ => ⟨m, .first⟩⟩
    | succ k =>
      obtain ⟨answer, m₁, hcall, hrun⟩ | ⟨hnot, ending, m₁, -, hrun⟩ :=
        run_cons_cases w m thread₀ c₀ rest
      · rw [hrun, List.length_cons, Nat.add_le_add_iff_right, ← ih hc]
        constructor
        · rintro ⟨before, h⟩
          cases h with
          | later hreturned hrest =>
            cases hcall.symm.trans hreturned
            exact ⟨before, hrest⟩
        · rintro ⟨before, h⟩
          exact ⟨before, .later hcall h⟩
      · rw [hrun]
        constructor
        · rintro ⟨before, h⟩
          cases h with
          | later hreturned _ => exact absurd hreturned (hnot _ _)
        · intro h
          exact absurd h (Nat.not_succ_le_zero k)

end Makes

end Machine

end VmSupport
