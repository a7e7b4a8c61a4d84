import VmSupport.Proofs.Heap.TeamRun

/-!
# Threads on one shared heap come to an end

Nobody has to wait for anybody on a shared heap. A thread that is left alone finishes: an exchange
that it tries can be in vain once, because its cursor value is stale, and not a second time.

**The law** (`Team.exists_isDone`): every run of a team can be carried to its end, by letting the
threads finish one after another. Whether the end comes for certain is another matter: exchanges may
fail without cause for ever.

The proof counts the actions that a thread still makes if it is left alone. How many these are
depends on whether the value that it has read is still the cursor (`Stage.rank`).
-/

namespace VmSupport.Heap

namespace Stage

/-- The number of actions that a request at this stage still makes, if it is left alone. -/
def rank (h : Shared) : Stage → Nat
  | .start _ => 8
  | .load .. => 7
  | .check _ _ current => if current = h.cursor then 4 else 6
  | .exchange _ _ current _ => if current = h.cursor then 3 else 5
  | .countRefusal .. | .countGrant .. => 2
  | .returned _ => 1
  | .faulted _ => 0

/-- The stage is the last of its request. -/
def IsReturned (stage : Stage) : Prop :=
  ∃ answer, stage = .returned answer

/-- A step of a request gets it closer to its end, unless an exchange fails without cause. -/
theorem Moves.rank_lt {h h' : Shared} {size : Int32} {stage stage' : Stage}
    (hm : Moves h size false stage stage' h') (hnot : ¬ stage.IsReturned) :
    stage'.rank h' < stage.rank h := by
  cases hm with
  | refuse hneg | round hpos => simp only [rank]; omega
  | load hpos => simp only [rank, if_true]; omega
  | fits hpos hle hfits => simp only [rank]; split <;> omega
  | full hpos hle hfull => simp only [rank]; split <;> omega
  | claim hpos hfits => simp only [rank, if_true]; omega
  | @retry current hpos hle hcause =>
    have hstale : current ≠ h.cursor := hcause.elim Ne.symm fun hspurious => by cases hspurious
    simp only [rank, if_neg hstale, if_true]
    omega
  | countRefusal hpos | countGrant hpos hle => simp only [rank]; omega
  | rest answer => exact absurd ⟨answer, rfl⟩ hnot

end Stage

namespace Requester

/-- The number of actions that a thread still makes, if it is left alone. -/
def rank (h : Shared) (r : Requester) : Nat :=
  9 * r.waiting.length + (r.stage.map (Stage.rank h)).getD 0

/-- A thread that has something left to do gets closer to its end. -/
theorem step_rank_lt {h : Shared} {r : Requester} {sizes : List Int32} (hh : h.Sound)
    (hr : r.Sound h sizes) (hnot : r.isDone = false) :
    (r.step h false).1.rank (r.step h false).2.1 < r.rank h := by
  cases hs : r.stage with
  | none =>
    cases hw : r.waiting with
    | nil =>
      rw [isDone, hs, hw] at hnot
      cases hnot
    | cons size rest =>
      simp only [step, hs, hw, rank, Option.map_some, Option.map_none, Option.getD_some,
        Option.getD_none, Stage.rank, List.length_cons]
      omega
  | some stage =>
    obtain ⟨size, -, hstage⟩ := hr.stage_sound hs
    have hact : ¬ stage.IsReturned →
        (stage.step h false).stage.rank (stage.step h false).heap < stage.rank h :=
      (Stage.step_moves hh hstage false).rank_lt
    cases stage with
    | returned answer =>
      simp only [step, hs, rank, Option.map_some, Option.map_none, Option.getD_some,
        Option.getD_none, Stage.rank]
      omega
    | _ =>
      have hlt := hact (by
        rintro ⟨_, h⟩
        cases h)
      simp only [step, hs, rank, Option.map_some, Option.getD_some]
      omega

end Requester

namespace Team

variable {requests : List (List Int32)} {t : Team}

theorem run_append (t : Team) (before after : List (Nat × Bool)) :
    t.run (before ++ after) = (t.run before).run after :=
  List.foldl_append

/-- **A thread that is left alone finishes**, and the other threads stay as they are. -/
theorem exists_thread_isDone (ht : t.Sound requests) {i : Nat} {r : Requester}
    (hi : t.threads[i]? = some r) :
    ∃ schedule r', (t.run schedule).threads = t.threads.set i r' ∧ r'.isDone = true := by
  induction hrank : r.rank t.heap using Nat.strongRecOn generalizing t r with
  | ind rank ih =>
    cases hdone : r.isDone with
    | true =>
      obtain ⟨hlt, rfl⟩ := List.getElem?_eq_some_iff.mp hi
      exact ⟨[], _, (List.set_getElem_self hlt).symm, hdone⟩
    | false =>
      obtain ⟨sizes, -, hr⟩ := ht.threads hi
      have hlt := Requester.step_rank_lt ht.heap hr hdone
      have hthreads : (t.step i false).threads = t.threads.set i (r.step t.heap false).1 := by
        simp only [step, hi]
      have hheap : (t.step i false).heap = (r.step t.heap false).2.1 := by
        simp only [step, hi]
      have hnext : (t.step i false).threads[i]? = some (r.step t.heap false).1 := by
        rw [hthreads, List.getElem?_set_self (List.getElem?_eq_some_iff.mp hi).1]
      obtain ⟨schedule, r', hrun, hr'⟩ :=
        ih _ (by rw [hheap, ← hrank]; exact hlt) (step_sound ht i false) hnext rfl
      refine ⟨(i, false) :: schedule, r', ?_, hr'⟩
      rw [run_cons, hrun, hthreads, List.set_set]

theorem length_threads_step (t : Team) (i : Nat) (spurious : Bool) :
    (t.step i spurious).threads.length = t.threads.length := by
  unfold step
  split
  · rfl
  · exact List.length_set

theorem length_threads_run (t : Team) (schedule : List (Nat × Bool)) :
    (t.run schedule).threads.length = t.threads.length := by
  induction schedule generalizing t with
  | nil => rfl
  | cons s schedule ih => rw [run_cons, ih, length_threads_step]

/-- **Every run of a team can be carried to its end.** -/
theorem exists_isDone (ht : t.Sound requests) : ∃ later, (t.run later).isDone = true := by
  have hupto : ∀ n ≤ t.threads.length, ∃ later, ∀ i r, i < n →
      (t.run later).threads[i]? = some r → r.isDone = true := by
    intro n
    induction n with
    | zero => exact fun _ => ⟨[], fun i r hi => absurd hi (Nat.not_lt_zero i)⟩
    | succ n ih =>
      intro hn
      obtain ⟨later, hlater⟩ := ih (Nat.le_of_succ_le hn)
      have hlt : n < (t.run later).threads.length := by rwa [length_threads_run]
      obtain ⟨more, r', hmore, hr'⟩ :=
        exists_thread_isDone (run_sound ht later) (List.getElem?_eq_getElem hlt)
      refine ⟨later ++ more, fun i r hi hget => ?_⟩
      rw [run_append, hmore, List.getElem?_set] at hget
      split at hget
      · cases hget
        exact hr'
      · exact hlater i r (by omega) hget
  obtain ⟨later, hlater⟩ := hupto _ (Nat.le_refl _)
  refine ⟨later, List.all_eq_true.mpr fun r hr => ?_⟩
  obtain ⟨i, hi⟩ := List.mem_iff_getElem?.mp hr
  have hlt := (List.getElem?_eq_some_iff.mp hi).1
  rw [length_threads_run] at hlt
  exact hlater i r hlt hi

end Team

end VmSupport.Heap
