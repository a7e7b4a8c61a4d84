import VmSupport.Proofs.Machine.CrowdRun

/-!
# Starts come to an end

A start that waits for the lock gets on only when another one gives it back, so no thread on its own
is sure to finish. But the one that has the lock never waits, and where the lock is free any thread
can go on; so from every state of threads that only start there is a schedule on which all of them
finish.

**The law** (`Crowd.exists_isDone`): every run of threads that only start can be carried to its end.
The proof counts the actions that are still to be made: some thread can always make one of them
(`Crowd.exists_rank_lt`).
-/

namespace VmSupport

open Heap (CallId Shared exists_sum_map_set)

/-- The number of actions that a start at this frame still makes. -/
def Frame.rank : Frame → Nat
  | lock .. => 8
  | check .. => 7
  | reserve .. => 6
  | set .. => 5
  | confirm .. => 4
  | unlock .. => 3
  | finish .. => 2
  | answered _ => 1
  | _ => 0

/-- The number of actions that a thread still makes, if each of its calls makes at most nine. -/
def Worker.rank (r : Worker) : Nat :=
  10 * r.waiting.length + (r.frame.map Frame.rank).getD 0

namespace Frame

theorem rank_le (f : Frame) : f.rank ≤ 8 := by
  cases f <;> simp only [rank] <;> omega

variable {w : Surroundings} {thread : Nat} {m : Machine} {lockedBy : Option Nat}

/-- A start that has the lock, or finds it free, gets on. -/
theorem step_rank_lt {f : Frame} (hpos : 1 < f.rank)
    (hfree : f.isCritical = true ∨ lockedBy = none) :
    (f.step w thread false m lockedBy).frame.rank < f.rank := by
  cases f with
  | lock caller capacity =>
    obtain hcritical | rfl := hfree
    · cases hcritical
    · exact Nat.lt_succ_self 7
  | check caller capacity =>
    simp only [step]
    split <;> simp only [rank] <;> omega
  | reserve caller capacity =>
    simp only [step]
    split <;> simp only [rank] <;> omega
  | set caller h =>
    simp only [step]
    split <;> simp only [rank] <;> omega
  | confirm caller h =>
    simp only [step]
    split <;> simp only [rank] <;> omega
  | unlock caller result => exact Nat.lt_succ_self 2
  | finish caller result =>
    cases caller with
    | library => exact Nat.lt_succ_self 1
    | outside =>
      cases result with
      | ok size => exact Nat.lt_succ_self 1
      | error e => exact Nat.lt_succ_self 1
  | answered answer => exact absurd hpos (Nat.lt_irrefl 1)
  | _ => exact absurd hpos (Nat.not_lt_zero 1)

/-- A start that is not over has more to do than to take its answer. -/
theorem one_lt_rank {place : Option Shared} {call : Call} {f : Frame} (hf : f.Sound w place call)
    (hstart : call.isStart = true) (hover : f.isOver = false) : 1 < f.rank := by
  cases f with
  | find caller size =>
    rw [Call.isStart_of_isRequest (Call.Asks.isRequest hf)] at hstart
    cases hstart
  | serve caller stage =>
    obtain ⟨size, h, hasks, -⟩ := hf
    rw [Call.isStart_of_isRequest hasks.isRequest] at hstart
    cases hstart
  | answered answer => cases hover
  | aborted => cases hover
  | faulted fault => cases hover
  | _ => simp only [rank]; omega

end Frame

/-- A thread that has something left to do, and does not wait for the lock, gets on. -/
theorem Worker.step_rank_lt {w : Surroundings} {m : Machine} {lockedBy : Option Nat} {r : Worker}
    (hdone : r.isDone = false)
    (hframe : ∀ frame, r.frame = some frame → frame.isOver = false → 1 < frame.rank)
    (hfree : (∃ frame, r.frame = some frame ∧ frame.isCritical = true) ∨ lockedBy = none) :
    (r.step w false m lockedBy).1.rank < r.rank := by
  cases hf : r.frame with
  | none =>
    cases hw : r.waiting with
    | nil =>
      rw [isDone, hf, hw] at hdone
      cases hdone
    | cons call rest =>
      have hrank := (Frame.begin w r.thread m call).1.rank_le
      simp only [step, hf, hw, rank, Option.map_some, Option.map_none, Option.getD_some,
        Option.getD_none, List.length_cons]
      omega
  | some frame =>
    have hact : frame.isOver = false →
        (frame.step w r.thread false m lockedBy).frame.rank < frame.rank := by
      intro hover
      refine Frame.step_rank_lt (hframe frame hf hover) ?_
      obtain ⟨frame', hf', hcritical⟩ | hnone := hfree
      · cases hf.symm.trans hf'
        exact .inl hcritical
      · exact .inr hnone
    cases frame with
    | answered answer =>
      simp only [step, hf, rank, Option.map_some, Option.map_none, Option.getD_some,
        Option.getD_none, Frame.rank]
      omega
    | aborted =>
      rw [isDone, hf] at hdone
      cases hdone
    | faulted fault =>
      rw [isDone, hf] at hdone
      cases hdone
    | _ =>
      have hlt := hact rfl
      simp only [step, hf, rank, Option.map_some, Option.getD_some]
      exact Nat.add_lt_add_left hlt _

namespace Crowd

/-- The number of actions that the threads still make. -/
def rank (c : Crowd) : Nat :=
  (c.workers.map Worker.rank).sum

variable {w : Surroundings} {calls : List (List Call)} {c : Crowd}

/-- A thread whose action brings it nearer to its end brings the crowd nearer. -/
theorem rank_step_lt {i : Nat} {r : Worker} (hr : c.workers[i]? = some r)
    (hlt : (r.step w false c.machine c.lockedBy).1.rank < r.rank) :
    (c.step w i false).rank < c.rank := by
  obtain ⟨rest, hsum, hset⟩ := exists_sum_map_set Worker.rank hr
  simp only [step, hr, rank]
  rw [hset, hsum]
  exact Nat.add_lt_add_left hlt rest

/-- A call that has the lock is the present call of its thread. -/
theorem IsCritical.present {id : CallId} (h : c.IsCritical id) :
    ∃ r frame, c.workers[id.thread]? = some r ∧ r.frame = some frame ∧ frame.isCritical = true := by
  obtain ⟨frame, hframe, hcritical⟩ := h
  obtain ⟨r, hr, hget⟩ := Option.bind_eq_some_iff.mp hframe
  refine ⟨r, frame, hr, ?_, hcritical⟩
  obtain hanswer | hpresent := List.mem_append.mp (List.mem_of_getElem? hget)
  · obtain ⟨answer, -, rfl⟩ := List.mem_map.mp hanswer
    cases hcritical
  · exact Option.mem_toList.mp hpresent

/-- **As long as not all threads are done, one of them can get on.** -/
theorem exists_rank_lt (hc : c.Sound w calls)
    (hstarts : ∀ cs ∈ calls, ∀ call ∈ cs, call.isStart = true) (hdone : c.isDone = false) :
    ∃ i, (c.step w i false).rank < c.rank := by
  have hframe : ∀ {i : Nat} {r : Worker}, c.workers[i]? = some r →
      ∀ frame, r.frame = some frame → frame.isOver = false → 1 < frame.rank := by
    intro i r hr frame hf hover
    have hpresent : c.frame? ⟨i, r.answers.length⟩ = some frame := by
      rw [frame?, hr]
      exact r.getElem?_frames_present.trans hf
    obtain ⟨call, hcall, hsound⟩ := hc.frames hpresent
    obtain ⟨cs, hcs, hget⟩ := Option.bind_eq_some_iff.mp hcall
    exact Frame.one_lt_rank hsound
      (hstarts cs (List.mem_of_getElem? hcs) call (List.mem_of_getElem? hget)) hover
  cases hlock : c.lockedBy with
  | some holder =>
    obtain ⟨id, hid⟩ := hc.lock.taken_iff.mp (by rw [hlock]; rfl)
    obtain ⟨r, frame, hr, hf, hcritical⟩ := hid.present
    refine ⟨id.thread, rank_step_lt hr (Worker.step_rank_lt ?_ (hframe hr) (.inl ?_))⟩
    · rw [Worker.isDone, hf]
      cases frame with
      | aborted => cases hcritical
      | faulted fault => cases hcritical
      | _ => rfl
    · exact ⟨frame, hf, hcritical⟩
  | none =>
    obtain ⟨r, hmem, hnot⟩ := List.all_eq_false.mp hdone
    obtain ⟨i, hr⟩ := List.mem_iff_getElem?.mp hmem
    refine ⟨i, rank_step_lt hr (Worker.step_rank_lt ?_ (hframe hr) (.inr hlock))⟩
    exact Bool.eq_false_iff.mpr hnot

/-- **Threads that only start can be carried to their end** from every state. -/
theorem exists_isDone (hc : c.Sound w calls)
    (hstarts : ∀ cs ∈ calls, ∀ call ∈ cs, call.isStart = true) :
    ∃ later, (c.run w later).isDone = true := by
  generalize hn : c.rank = n
  induction n using Nat.strongRecOn generalizing c with
  | ind n ih =>
    cases hdone : c.isDone with
    | true => exact ⟨[], hdone⟩
    | false =>
      obtain ⟨i, hlt⟩ := exists_rank_lt hc hstarts hdone
      obtain ⟨later, hlater⟩ := ih _ (hn ▸ hlt) (step_sound hc i false) rfl
      exact ⟨(i, false) :: later, hlater⟩

end Crowd

end VmSupport
