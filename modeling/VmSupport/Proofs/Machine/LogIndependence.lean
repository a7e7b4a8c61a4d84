import VmSupport.Proofs.Machine.CallIndependence

/-!
# The log has no influence

Two runs make the same calls, in surroundings and with settings that differ in the log alone, and in
one of them a foreign receiver may have been there first.

**The law** (`log_independent`): the two runs come to the same results exactly if, at every call that
they come to and that starts the log, the filter faults in both environments or in neither. So
nothing but a filter that faults has an influence. What the same results are is said in
`SameResults`: the answers, the ending, and at the end the statuses of all threads and the heap, but
for what may differ between calls (`Machine.call_alike`).

As a heap stays where it is (`Machine.run_grows`), addresses can all be compared relative to the heaps
that are there at the end.
-/

namespace VmSupport

open Heap (HeapError Shared)

namespace Machine

variable {w w' : Surroundings} {m : Machine}

/-! ## The heap stays where it is -/

theorem takeBlock_grows {size : Int32} {result : Except HeapError Nat} {n : Machine}
    (h : m.takeBlock size = .ok (result, n)) : Grows m.heap n.heap := by
  intro b hb
  obtain ⟨reply, hreply, hn, -, -⟩ := takeBlock_reply hb h
  exact ⟨reply.heap, hn, Heap.Shared.grows_of_allocate hreply⟩

theorem init_grows (w : Surroundings) (capacity : Nat) (m : Machine) :
    Grows m.heap (init w capacity m).2.heap := by
  obtain ⟨e, heq⟩ | ⟨_, _, hnone, -⟩ := init_cases w capacity m
  · rw [heq]
    exact .refl _
  · rw [hnone]
    exact .of_none _

theorem Started.grows {capacity : Nat} {result : Except HeapError Nat} {n : Machine}
    (h : Started w m capacity result n) : Grows m.heap n.heap := by
  obtain ⟨-, hheap⟩ | ⟨_, hnone, -⟩ := h
  · rw [hheap]
    exact .refl _
  · rw [hnone]
    exact .of_none _

theorem start_grows (w : Surroundings) (thread : Nat) (s : Settings) (m : Machine) :
    Grows m.heap (start w thread s m).2.heap := by
  obtain ⟨heq, -⟩ | ⟨_, _, heq, hstarted, -⟩ := start_cases w thread s m
  · rw [heq]
    exact .refl _
  · rw [heq]
    exact hstarted.grows

/-- **A call** leaves the heap where it is, and takes nothing back. -/
theorem call_grows (w : Surroundings) (thread : Nat) (m : Machine) (c : Call) :
    Grows m.heap (m.call w thread c).2.heap := by
  cases c with
  | start capacity =>
    simp only [call, startWith]
    split
    · exact .refl _
    · next s _ => exact start_grows w thread s m
  | startDefault =>
    have hheap : (discover w m).2.heap = m.heap := reportAll_heap _ _
    rw [← hheap]
    exact start_grows w thread _ _
  | init capacity => exact init_grows w capacity m
  | bootstrap s =>
    obtain ⟨_, heq, -⟩ | ⟨_, _, heq, hstarted, -⟩ := bootstrap_cases w s m
    · simp only [call, heq]
      exact .refl _
    · simp only [call, heq]
      exact hstarted.grows
  | allocate size =>
    simp only [call, allocate]
    split
    · exact .refl _
    · next htake =>
      have hgrows := takeBlock_grows htake
      exact hgrows
    · next htake =>
      have hgrows := takeBlock_grows htake
      exact hgrows
  | allocateChecked isNull size =>
    simp only [call, allocateChecked]
    split
    · exact .refl _
    split
    · exact .refl _
    · next htake =>
      have hgrows := takeBlock_grows htake
      exact hgrows
    · next htake =>
      have hgrows := takeBlock_grows htake
      exact hgrows
  | _ =>
    rw [Frame.call_heap thread rfl rfl]
    exact .refl _

theorem run_grows (w : Surroundings) (m : Machine) (calls : List (Nat × Call)) :
    Grows m.heap (m.run w calls).2.2.heap := by
  induction calls generalizing m with
  | nil => exact .refl _
  | cons first rest ih =>
    obtain ⟨thread, c⟩ := first
    have hgrows := call_grows w thread m c
    unfold run
    rcases hcall : m.call w thread c with ⟨outcome, n⟩
    rw [hcall] at hgrows
    cases outcome with
    | returned answer => exact hgrows.trans (ih n)
    | aborted => exact hgrows
    | faulted f => exact hgrows

/-! ## Runs -/

/-- Two runs end alike. -/
inductive Ending.Alike : Ending → Ending → Prop
  | finished : Alike .finished .finished
  | aborted : Alike .aborted .aborted
  | faulted (f f' : Fault) : Alike (.faulted f) (.faulted f')

/-- Two lists of calls differ in nothing but the settings of the log that they hand over. -/
def CallsAlike : List (Nat × Call) → List (Nat × Call) → Prop :=
  List.Forall₂ fun x x' => x'.1 = x.1 ∧ x.2.SameButLog x'.2

end Machine

/-- **Two runs of these calls come to the same results.** -/
structure SameResults (calls : List (Nat × Call))
    (run run' : List Answer × Machine.Ending × Machine) : Prop where
  length : run'.1.length = run.1.length
  /-- Addresses are at the same distances from the heaps that are there at the end. -/
  answers : ∀ {k thread : Nat} {c : Call} {a a' : Answer}, calls[k]? = some (thread, c) →
    run.1[k]? = some a → run'.1[k]? = some a' → a.Alike run.2.2.heap run'.2.2.heap c a'
  ending : run.2.1.Alike run'.2.1
  /-- The statuses of all threads are the same, and the heap is, but for its place. -/
  machine : run.2.2.SameButLog run'.2.2

namespace Machine

variable {w w' : Surroundings} {m m' : Machine} {calls calls' : List (Nat × Call)}

/-- **Runs of calls that differ in the log come to the same results**, if no call that starts the log
tells the environments apart. -/
theorem run_alike (hw : w.SameButLog w') (hm : m.Steady w) (hm' : m'.Steady w')
    (h : m.SameButLog m') (hcalls : CallsAlike calls calls')
    (hfaults : ∀ {k thread c before}, Makes w m calls k thread c before → c.opensLog w = true →
      (LogFaults w ↔ LogFaults w')) :
    SameResults calls (m.run w calls) (m'.run w' calls') := by
  induction hcalls generalizing m m' with
  | nil =>
    refine ⟨rfl, ?_, .finished, h⟩
    intro k thread c a a' hc
    cases hc
  | @cons x x' rest rest' hx hrest ih =>
    obtain ⟨thread, c⟩ := x
    obtain ⟨thread', c'⟩ := x'
    obtain ⟨rfl, hc⟩ := hx
    have halike := call_alike hw hm hm' h thread' hc (hfaults .first)
    rcases hcall : m.call w thread' c with ⟨outcome, n⟩
    rcases hcall' : m'.call w' thread' c' with ⟨outcome', n'⟩
    rw [hcall, hcall'] at halike
    obtain ⟨houtcome, hsame⟩ := halike
    simp only [run, hcall, hcall']
    cases houtcome with
    | @returned a a' ha =>
      have hlater := ih (hm.call hcall) (hm'.call hcall') hsame fun hmakes =>
        hfaults (.later hcall hmakes)
      refine ⟨congrArg (· + 1) hlater.length, ?_, hlater.ending, hlater.machine⟩
      intro k thread c₁ a₁ a₁' hc₁ ha₁ ha₁'
      cases k with
      | zero =>
        cases hc₁
        cases ha₁
        cases ha₁'
        exact Answer.Alike.grows ha (run_grows w n rest) (run_grows w' n' rest')
      | succ k => exact hlater.answers hc₁ ha₁ ha₁'
    | aborted =>
      refine ⟨rfl, ?_, .aborted, hsame⟩
      intro k thread c₁ a₁ a₁' hc₁ ha₁
      cases ha₁
    | faulted f f' =>
      refine ⟨rfl, ?_, .faulted f f', hsame⟩
      intro k thread c₁ a₁ a₁' hc₁ ha₁
      cases ha₁

/-- The first call of a run is answered if it returns. -/
theorem run_length_pos_iff {thread : Nat} {c : Call} (rest : List (Nat × Call)) :
    0 < (m.run w ((thread, c) :: rest)).1.length ↔
      ∃ answer n, m.call w thread c = (.returned answer, n) := by
  obtain ⟨answer, n, hcall, hrun⟩ | ⟨hnot, ending, n, -, hrun⟩ := run_cons_cases w m thread c rest
  · rw [hrun]
    exact ⟨fun _ => ⟨answer, n, hcall⟩, fun _ => Nat.succ_pos _⟩
  · rw [hrun]
    exact ⟨fun hpos => absurd hpos (Nat.lt_irrefl 0), fun ⟨answer, n, hcall⟩ =>
      absurd hcall (hnot answer n)⟩

/-- A call that starts the log returns exactly if the filter does not fault. -/
theorem returned_iff_of_opensLog (hm : m.Steady w) (thread : Nat) {c : Call}
    (hopens : c.opensLog w = true) :
    (∃ answer n, m.call w thread c = (.returned answer, n)) ↔ ¬ LogFaults w := by
  have hends := call_ends hm thread c
  have hdivisor := dividesByZero_of_opensLog hopens
  rcases hcall : m.call w thread c with ⟨outcome, n⟩
  rw [hcall] at hends
  cases hends with
  | returned hlog _ => exact ⟨fun _ => hlog hopens, fun _ => ⟨_, n, rfl⟩⟩
  | zeroDivisor hzero => cases hdivisor.symm.trans hzero
  | logAborts _ hfaults _ =>
    refine ⟨?_, fun hnot => absurd hfaults hnot⟩
    rintro ⟨_, _, hreturned⟩
    cases hreturned
  | logFaults _ hfaults _ =>
    refine ⟨?_, fun hnot => absurd hfaults hnot⟩
    rintro ⟨_, _, hreturned⟩
    cases hreturned

/-- **Runs that answer equally many calls** do not come to a start of the log that tells the
environments apart. -/
theorem logFaults_iff_of_length {k thread : Nat} {c : Call} {before : Machine}
    (hmakes : Makes w m calls k thread c before) (hopens : c.opensLog w = true)
    (hw : w.SameButLog w') (hm : m.Steady w) (hm' : m'.Steady w') (h : m.SameButLog m')
    (hcalls : CallsAlike calls calls')
    (hlength : (m'.run w' calls').1.length = (m.run w calls).1.length) :
    LogFaults w ↔ LogFaults w' := by
  induction hmakes generalizing m' calls' with
  | @first m thread c rest =>
    cases hcalls with
    | @cons _ x' _ rest' hx hrest =>
      obtain ⟨thread', c'⟩ := x'
      obtain ⟨-, hc⟩ := hx
      have hopens' : c'.opensLog w' = true := (opensLog_eq hw hc).trans hopens
      rw [← not_iff_not, ← returned_iff_of_opensLog hm thread hopens,
        ← returned_iff_of_opensLog hm' thread' hopens', ← run_length_pos_iff rest,
        ← run_length_pos_iff rest', hlength]
  | @later m n _ thread₀ c₀ answer rest k thread c hreturned _ ih =>
    cases hcalls with
    | @cons _ x' _ rest' hx hrest =>
      obtain ⟨thread', c₀'⟩ := x'
      obtain ⟨rfl, hc⟩ := hx
      obtain ⟨answer', n', hreturned'⟩ : ∃ answer' n', m'.call w' thread' c₀' =
          (.returned answer', n') := by
        rw [← run_length_pos_iff rest', hlength]
        exact (run_length_pos_iff rest).mpr ⟨answer, n, hreturned⟩
      -- a call that starts the log has returned on both sides, so the filter faults on neither
      have hfaults (hopens₀ : c₀.opensLog w = true) : LogFaults w ↔ LogFaults w' := by
        have hopens₀' : c₀'.opensLog w' = true := (opensLog_eq hw hc).trans hopens₀
        have hnot := (returned_iff_of_opensLog hm thread' hopens₀).mp ⟨answer, n, hreturned⟩
        have hnot' := (returned_iff_of_opensLog hm' thread' hopens₀').mp ⟨answer', n', hreturned'⟩
        exact ⟨fun hlog => absurd hlog hnot, fun hlog => absurd hlog hnot'⟩
      have halike := call_alike hw hm hm' h thread' hc hfaults
      rw [hreturned, hreturned'] at halike
      refine ih hopens (hm.call hreturned) (hm'.call hreturned') halike.machine hrest ?_
      simp only [run, hreturned, hreturned', List.length_cons] at hlength
      exact Nat.succ.inj hlength

/-! ## The law -/

/-- A fresh process, in which a foreign receiver may have its place already. -/
def beginning (foreign : Bool) : Machine :=
  if foreign then fresh.occupyLog.2 else fresh

theorem steady_beginning (w : Surroundings) (foreign : Bool) : (beginning foreign).Steady w := by
  cases foreign with
  | false => exact steady_fresh w
  | true => exact ⟨sound_fresh, fun _ => rfl⟩

theorem beginning_sameButLog (foreign foreign' : Bool) :
    (beginning foreign).SameButLog (beginning foreign') := by
  cases foreign <;> cases foreign' <;> exact ⟨.none, rfl⟩

end Machine

open Machine (CallsAlike LogFaults Makes beginning)

/-- **The log has no influence** on a run, but through a filter that faults as it is read. -/
theorem log_independent {w w' : Surroundings} (hw : w.SameButLog w')
    {calls calls' : List (Nat × Call)} (hcalls : CallsAlike calls calls') (foreign foreign' : Bool) :
    SameResults calls ((beginning foreign).run w calls) ((beginning foreign').run w' calls') ↔
      ∀ {k thread c before}, Makes w (beginning foreign) calls k thread c before →
        c.opensLog w = true → (LogFaults w ↔ LogFaults w') := by
  have hm := Machine.steady_beginning w foreign
  have hm' := Machine.steady_beginning w' foreign'
  have h := Machine.beginning_sameButLog foreign foreign'
  constructor
  · intro hsame k thread c before hmakes hopens
    exact Machine.logFaults_iff_of_length hmakes hopens hw hm hm' h hcalls hsame.length
  · intro hfaults
    exact Machine.run_alike hw hm hm' h hcalls hfaults

/-- Surroundings with a filter that shows everything, and with a level. -/
def Surroundings.chatty : Surroundings :=
  { quiet with
    environment := fun key =>
      if key = filterVariable then some "5"
      else if key = Settings.levelVariable then some "warn"
      else none }

theorem quiet_sameButLog_chatty : Surroundings.quiet.SameButLog .chatty := by
  have hread : Log.Level.read "warn" = .ok .warn := rfl
  refine ⟨fun _ => rfl, rfl, by decide +kernel, .inr ⟨Settings.readable_none _, ?_⟩,
    .inl (by decide +kernel)⟩
  exact Settings.readable_some hread

theorem not_logFaults_chatty : ¬ LogFaults .chatty := by
  rintro ⟨text, fault, htext, hread⟩
  obtain rfl : "5" = text := Option.some.inj htext
  rw [Log.Filter.read, Log.Filter.pieces, Text.map_toList_splitOn_comma] at hread
  cases hread

/-- The same calls once in surroundings where nothing is set, and once in others where everything is
shown, behind a foreign receiver and with other settings of the log. -/
theorem log_independent_chatty :
    SameResults [(0, .bootstrap { capacity := 64 }), (0, .allocate 8), (1, .startDefault)]
      ((beginning false).run .quiet
        [(0, .bootstrap { capacity := 64 }), (0, .allocate 8), (1, .startDefault)])
      ((beginning true).run .chatty
        [(0, .bootstrap { capacity := 64, log := { level := .error } }), (0, .allocate 8),
          (1, .startDefault)]) := by
  refine (log_independent quiet_sameButLog_chatty ?_ false true).mpr ?_
  · exact .cons ⟨rfl, .bootstrap rfl⟩ (.cons ⟨rfl, .same _⟩ (.cons ⟨rfl, .same _⟩ .nil))
  · exact fun _ _ => iff_of_false Machine.not_logFaults_quiet not_logFaults_chatty

/-- With a blank of two bytes in front of the filter, a start does not come to what it comes to where
no filter is set. -/
theorem not_sameResults_indented :
    Surroundings.quiet.SameButLog .indented ∧
      ¬ SameResults [(0, .start 64), (0, .allocate 8)]
        ((beginning false).run .quiet [(0, .start 64), (0, .allocate 8)])
        ((beginning false).run .indented [(0, .start 64), (0, .allocate 8)]) := by
  have hw : Surroundings.quiet.SameButLog .indented :=
    ⟨fun _ => rfl, rfl, by decide +kernel, .inl (by decide +kernel), .inl (by decide +kernel)⟩
  refine ⟨hw, fun hsame => ?_⟩
  have hcalls : CallsAlike [(0, .start 64), (0, .allocate 8)] [(0, .start 64), (0, .allocate 8)] :=
    .cons ⟨rfl, .same _⟩ (.cons ⟨rfl, .same _⟩ .nil)
  have hiff := Machine.logFaults_iff_of_length .first rfl hw (Machine.steady_beginning .quiet false)
    (Machine.steady_beginning .indented false) (Machine.beginning_sameButLog false false) hcalls
    hsame.length
  exact Machine.not_logFaults_quiet (hiff.mpr Machine.logFaults_indented)

end VmSupport
