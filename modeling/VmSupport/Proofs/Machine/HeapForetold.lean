import VmSupport.Proofs.Machine.HeapLedger

/-!
# The calls of one thread are foretold by a ledger

**The law** (`ledger_foretells`): in any run of calls from one thread on a fresh process, each call
is answered as the ledger says that the earlier calls and their answers lead to. So the calls for
memory and the queries are those of a bump heap, which is there from the first start on that
succeeds. An answer of zero says that the request was refused, and every address is at a granule.

**How far a run goes.** A run stops short only at a call that has nothing to do with memory, or at a
start whose log cannot be installed because the filter in the environment faults.

**The two forms of a request.** The plain and the checked call for memory differ in nothing but the
form of the answer: where one takes the place of the other, all other answers, the ending and the
process stay the same (`Machine.run_checkedForm`).
-/

namespace VmSupport

open Heap (Bump HeapError Region Shared granuleBytes)

/-! ## Ledgers along a run -/

namespace Ledger

/-- The ledger before the call with this number, when the calls before it were answered so. -/
def before (w : Surroundings) (l : Ledger) (calls : List Call) (answers : List Answer) (k : Nat) :
    Ledger :=
  ((calls.zip answers).take k).foldl (fun l x => l.after w x.1 x.2) l

variable {w : Surroundings} {l : Ledger} {c : Call} {answer : Answer} {calls : List Call}
  {answers : List Answer}

/-- The ledger before the next call is the one after the present call. -/
theorem before_succ {k : Nat} (hc : calls[k]? = some c) (ha : answers[k]? = some answer) :
    l.before w calls answers (k + 1) = (l.before w calls answers k).after w c answer := by
  have hzip : (calls.zip answers)[k]? = some (c, answer) :=
    List.getElem?_zip_eq_some.mpr ⟨hc, ha⟩
  rw [before, List.take_add_one, hzip, List.foldl_append]
  rfl

/-- The base of a region is at a granule. -/
theorem granuleBytes_dvd_base (r : Region) : granuleBytes ∣ r.base :=
  Nat.dvd_trans (by decide : granuleBytes ∣ Heap.regionAlignment)
    (Nat.dvd_of_mod_eq_zero r.base_aligned)

/-- What a request is granted is no null address, and at a granule. -/
theorem result_eq_ok (hl : l.Sound) {size : Int32} {address : Nat}
    (h : l.result size = .ok address) : 0 < address ∧ granuleBytes ∣ address := by
  unfold result at h
  cases hb : l.heap with
  | none =>
    rw [hb] at h
    cases h
  | some b =>
    rw [hb] at h
    cases hanswer : (b.allocate size).answer with
    | error e =>
      simp only [hanswer] at h
      cases h
    | ok handle =>
      simp only [hanswer] at h
      cases h
      rw [Bump.handle_eq hanswer]
      exact ⟨Nat.add_pos_left b.region.base_pos _,
        Nat.dvd_add (granuleBytes_dvd_base b.region) (hl b hb).1⟩

/-- The plain call answers zero exactly when it records a failure. -/
theorem getD_result_eq_zero_iff (hl : l.Sound) (size : Int32) :
    (l.result size).toOption.getD 0 = 0 ↔ (l.request size).last ≠ .ok := by
  show _ ↔ Status.ofResult (l.result size) ≠ .ok
  cases hr : l.result size with
  | ok address =>
    have hpos := (result_eq_ok hl hr).1
    simp only [Except.toOption, Option.getD_some, Status.ofResult, ne_eq, not_true_eq_false,
      iff_false]
    omega
  | error e =>
    refine ⟨fun _ => ?_, fun _ => rfl⟩
    cases e <;> exact fun h => by cases h

/-- The addresses that a ledger allows a call to give away are at granules. -/
theorem granuleBytes_dvd_of_extent? (hl : l.Sound) (h : l.Answers w c answer) {address size : Nat}
    (hextent : answer.extent? c = some (address, size)) : granuleBytes ∣ address := by
  cases c with
  | allocate s =>
    rw [show answer = _ from h] at hextent
    simp only [Answer.extent?] at hextent
    split at hextent
    · cases hextent
    · next hne =>
      cases hextent
      cases hr : l.result s with
      | ok address => exact (result_eq_ok hl hr).2
      | error e => exact absurd (by rw [hr]; rfl) hne
  | allocateChecked isNull s =>
    cases isNull with
    | true =>
      rw [show answer = _ from h] at hextent
      cases hextent
    | false =>
      rw [show answer = _ from h] at hextent
      cases hr : l.result s with
      | ok address =>
        rw [hr] at hextent
        cases hextent
        exact (result_eq_ok hl hr).2
      | error e =>
        rw [hr] at hextent
        cases hextent
  | heapBase =>
    rw [show answer = _ from h] at hextent
    simp only [Answer.extent?] at hextent
    split at hextent
    · cases hextent
    · cases hextent
      cases l.heap with
      | none => exact Nat.dvd_zero _
      | some b => exact granuleBytes_dvd_base b.region
  | _ => cases hextent

end Ledger

/-! ## Runs -/

namespace Machine

open Ledger (Agrees)

variable {w : Surroundings} {thread : Nat} {m : Machine} {l : Ledger}

/-- The run of a first call and others: it goes on if the first call returns. -/
theorem run_cons_cases (w : Surroundings) (m : Machine) (thread : Nat) (c : Call)
    (rest : List (Nat × Call)) :
    (∃ answer m', m.call w thread c = (.returned answer, m') ∧
      m.run w ((thread, c) :: rest) = (answer :: (m'.run w rest).1, (m'.run w rest).2)) ∨
    ((∀ answer m', m.call w thread c ≠ (.returned answer, m')) ∧
      ∃ ending m', ending ≠ .finished ∧ m.run w ((thread, c) :: rest) = ([], ending, m')) := by
  rcases hcall : m.call w thread c with ⟨outcome, m'⟩
  cases outcome with
  | returned answer => exact .inl ⟨answer, m', rfl, by rw [run, hcall]⟩
  | aborted =>
    refine .inr ⟨?_, .aborted, m', ?_, ?_⟩
    · intro _ _ h
      cases h
    · intro h
      cases h
    · rw [run, hcall]
  | faulted fault =>
    refine .inr ⟨?_, .faulted fault, m', ?_, ?_⟩
    · intro _ _ h
      cases h
    · intro h
      cases h
    · rw [run, hcall]

/-- Every answer of a run is one that the ledger before its call allows. -/
theorem run_answers (hm : Agrees thread m l) {calls : List Call} {k : Nat} {c : Call}
    {answer : Answer} (hc : calls[k]? = some c)
    (ha : (m.run w (calls.map (thread, ·))).1[k]? = some answer) :
    (l.before w calls (m.run w (calls.map (thread, ·))).1 k).Sound ∧
      (l.before w calls (m.run w (calls.map (thread, ·))).1 k).Answers w c answer := by
  induction calls generalizing m l k with
  | nil => cases hc
  | cons c₀ calls ih =>
    rw [List.map_cons] at ha ⊢
    obtain ⟨a₀, m₁, hcall, hrun⟩ | ⟨-, ending, m₁, -, hrun⟩ :=
      run_cons_cases w m thread c₀ (calls.map (thread, ·))
    · rw [hrun] at ha ⊢
      obtain ⟨hanswers, hagrees⟩ := call_agrees hm hcall
      cases k with
      | zero =>
        cases hc
        cases ha
        exact ⟨hm.sound, hanswers⟩
      | succ k => exact ih hagrees hc ha
    · rw [hrun] at ha
      cases ha

/-- A run that comes to its end has an answer for each call, and agrees with the last ledger. -/
theorem run_finished (hm : Agrees thread m l) (calls : List Call)
    (h : (m.run w (calls.map (thread, ·))).2.1 = .finished) :
    (m.run w (calls.map (thread, ·))).1.length = calls.length ∧
      Agrees thread (m.run w (calls.map (thread, ·))).2.2
        (l.before w calls (m.run w (calls.map (thread, ·))).1 calls.length) := by
  induction calls generalizing m l with
  | nil => exact ⟨rfl, hm⟩
  | cons c calls ih =>
    rw [List.map_cons] at h ⊢
    obtain ⟨a, m₁, hcall, hrun⟩ | ⟨-, ending, m₁, hending, hrun⟩ :=
      run_cons_cases w m thread c (calls.map (thread, ·))
    · rw [hrun] at h ⊢
      obtain ⟨hlength, hlast⟩ := ih (call_agrees hm hcall).2 h
      exact ⟨congrArg (· + 1) hlength, hlast⟩
    · rw [hrun] at h
      exact absurd h hending

/-- A run stops short at a call that need not return. -/
theorem run_stops (hm : Agrees thread m l) (calls : List Call)
    (h : (m.run w (calls.map (thread, ·))).2.1 ≠ .finished) :
    ∃ c, calls[(m.run w (calls.map (thread, ·))).1.length]? = some c ∧ c.returns = false ∧
      (c.isStart = true → LogFaults w) := by
  induction calls generalizing m l with
  | nil => exact absurd rfl h
  | cons c calls ih =>
    rw [List.map_cons] at h ⊢
    obtain ⟨a, m₁, hcall, hrun⟩ | ⟨hnot, ending, m₁, -, hrun⟩ :=
      run_cons_cases w m thread c (calls.map (thread, ·))
    · rw [hrun] at h ⊢
      exact ih (call_agrees hm hcall).2 h
    · rw [hrun]
      refine ⟨c, rfl, ?_, fun hstart => ?_⟩
      · rw [← Bool.not_eq_true]
        intro hreturns
        obtain ⟨a, m', hreturned⟩ := exists_returned (w := w) hm hreturns
        exact hnot a m' hreturned
      · obtain ⟨a, m', hreturned⟩ | hfaults := start_returned_or_logFaults w thread m hstart
        · exact absurd hreturned (hnot a m')
        · exact hfaults

/-- **The checked call in place of the plain one** changes one answer and nothing else. -/
theorem run_checkedForm (hm : Agrees thread m l) (front back : List Call) (size : Int32) :
    let run := m.run w ((front ++ .allocate size :: back).map (thread, ·))
    let result := (l.before w (front ++ .allocate size :: back) run.1 front.length).result size
    m.run w ((front ++ .allocateChecked false size :: back).map (thread, ·)) =
      (run.1.set front.length (.checked (.ofResult result) result.toOption), run.2) := by
  induction front generalizing m l with
  | nil =>
    obtain ⟨m', hplain, hchecked, -⟩ := allocate_agrees hm size
    simp only [List.nil_append, List.map_cons, run, call, hplain, hchecked, Outcome.map]
    rfl
  | cons c front ih =>
    simp only [List.cons_append, List.map_cons]
    obtain ⟨a, m₁, hcall, -⟩ | ⟨hnot, -⟩ :=
      run_cons_cases w m thread c ((front ++ .allocate size :: back).map (thread, ·))
    · simp only [run, hcall]
      rw [ih (call_agrees hm hcall).2]
      rfl
    · rcases hcall : m.call w thread c with ⟨outcome, m'⟩
      cases outcome with
      | returned answer => exact absurd hcall (hnot answer m')
      | aborted =>
        simp only [run, hcall]
        rfl
      | faulted fault =>
        simp only [run, hcall]
        rfl

end Machine

/-! ## The law -/

/-- **What a ledger foretells** of a run of calls from one thread on a fresh process. -/
structure Foretold (w : Surroundings) (thread : Nat) (calls : List Call) (answers : List Answer)
    (ending : Machine.Ending) (last : Machine) : Prop where
  /-- Each call is answered as the ledger says. -/
  answered : ∀ {k c answer}, calls[k]? = some c → answers[k]? = some answer →
    (Ledger.fresh.before w calls answers k).Answers w c answer
  /-- The plain call answers zero exactly when it records a failure. -/
  zero_iff : ∀ {k size address}, calls[k]? = some (.allocate size) →
    answers[k]? = some (.number address) →
      (address = 0 ↔ (Ledger.fresh.before w calls answers (k + 1)).last ≠ .ok)
  /-- Every address that is given away is at a granule. -/
  aligned : ∀ {k : Nat} {c answer} {address size : Nat}, calls[k]? = some c →
    answers[k]? = some answer → answer.extent? c = some (address, size) → granuleBytes ∣ address
  /-- At the end the process has the heap of the ledger, and the last status. -/
  finished : ending = .finished → answers.length = calls.length ∧
    last.heap = (Ledger.fresh.before w calls answers calls.length).heap.map Bump.shared ∧
    last.statuses thread = (Ledger.fresh.before w calls answers calls.length).last
  /-- Only at calls that have nothing to do with memory does a run stop short, and at starts whose
  log cannot be installed. -/
  stops : ending ≠ .finished → ∃ c, calls[answers.length]? = some c ∧ c.returns = false ∧
    (c.isStart = true → Machine.LogFaults w)
  /-- The checked call with a pointer may take the place of the plain one. -/
  replaced : ∀ front size back, calls = front ++ .allocate size :: back →
    Machine.run w .fresh ((front ++ .allocateChecked false size :: back).map (thread, ·)) =
      let result := (Ledger.fresh.before w calls answers front.length).result size
      (answers.set front.length (.checked (.ofResult result) result.toOption), ending, last)

/-- **The calls of one thread are foretold by the ledger**, whatever they are and wherever
the process runs. -/
theorem ledger_foretells (w : Surroundings) (thread : Nat) (calls : List Call) :
    let run := Machine.run w .fresh (calls.map (thread, ·))
    Foretold w thread calls run.1 run.2.1 run.2.2 := by
  intro run
  have hm := Ledger.agrees_fresh thread
  constructor
  · intro k c answer hc ha
    exact (Machine.run_answers hm hc ha).2
  · intro k size address hc ha
    obtain ⟨hsound, hanswer⟩ := Machine.run_answers hm hc ha
    cases hanswer
    rw [Ledger.before_succ hc ha]
    exact Ledger.getD_result_eq_zero_iff hsound size
  · intro k c answer address size hc ha hextent
    obtain ⟨hsound, hanswer⟩ := Machine.run_answers hm hc ha
    exact Ledger.granuleBytes_dvd_of_extent? hsound hanswer hextent
  · intro hfinished
    obtain ⟨hlength, hagrees⟩ := Machine.run_finished hm calls hfinished
    exact ⟨hlength, hagrees.heap, hagrees.last⟩
  · exact Machine.run_stops hm calls
  · rintro front size back rfl
    exact Machine.run_checkedForm hm front back size

end VmSupport
