import VmSupport.Proofs.Heap.Reservation
import VmSupport.Proofs.Heap.TurnJournal

/-!
# The loop of a request ends

Threads that share a heap overtake each other. A request whose exchange fails was overtaken, or it
fails without cause, and either way it goes through another pass.

**The law** (`loop_ends`) is about every capacity that can be reserved, every request of any threads
and every schedule (`Team.LoopEnds`). A failure that is not without cause makes the value that the
call works with larger by a granule at least, and the value stays inside the capacity. So the call
makes no more passes than there are granules in the capacity, and one, and one for each failure
without cause. It comes out of the loop with the block that it claimed or because the heap was full,
and it does come out of it: it returns once its thread has acted often enough, whatever the other
threads do in the meantime. And where its exchange succeeds, nobody has claimed a byte since it came
to know the value of the cursor. Others may have claimed blocks of no bytes, which the exchange
cannot see.

A run takes the call on a walk (`Team.run_walk`), and what holds of any walk gives every part of the
law but the last. For that the claims of all calls are added up in the journal: when the call came to
know the value it was the cursor, when the exchange succeeds it is the cursor again, and the cursor
moves by what is claimed (`Team.run_cursor`).

**What it does not say.** Nothing bounds the failures without cause. In a schedule that makes every
exchange fail the loop goes on for as long as the schedule does.
-/

namespace VmSupport.Heap

namespace Team

variable {requests : List (List Int32)} {t : Team} {c : CallId} {size : Int32}

/-- **A successful exchange was not overtaken**: from the last time that a call came to know the
value of the cursor to the exchange that moves it from there, nobody claims a byte. -/
theorem undisturbed {h : Shared} (hh : h.Sound) (hsize : request? requests c = some size)
    {schedule : List (Nat × Bool)} {front back : List (CallId × Turn)} {current bytes : Nat}
    (hjournal : (ofRequests h requests).journal schedule =
      front ++ (c, .claimed current bytes) :: back) :
    ∃ before turn between, front = before ++ (c, turn) :: between ∧ turn.found? = some current ∧
      (∀ e ∈ between, e.1 = c → e.2.found? = none) ∧ ∀ e ∈ between, e.2.bytes = 0 := by
  have hstart := sound_ofRequests hh requests
  -- the exchange is an action of the run, and the call walked to it
  obtain ⟨earlier, s, later, rfl, rfl, hentry, -⟩ := exists_of_journal hjournal
  have hwalk := run_walk hstart hsize earlier
  obtain ⟨hturn, hm⟩ := moves_of_turn? (run_sound hstart earlier) hsize hentry
  obtain ⟨hto, next, hstage⟩ := hm.claimed_eq hturn
  rw [hstage, stageOf_ofRequests] at hwalk
  obtain ⟨turns, turn, hturns, hfound⟩ := hwalk.last_read
  obtain ⟨before, between, hsplit, hbetween⟩ := exists_of_turnsOf hturns
  refine ⟨before, turn, between, hsplit, hfound, fun e he hcall => ?_, ?_⟩
  · have hmem := mem_turnsOf he hcall
    rw [hbetween, List.mem_singleton] at hmem
    rw [hmem]
    rfl
  · -- what the call came to know then is the cursor, and it still is
    obtain ⟨first, s', rest, rfl, -, hread, rfl⟩ := exists_of_journal hsplit
    have hfirst := run_sound hstart first
    obtain ⟨hturn', hm'⟩ := moves_of_turn? hfirst hsize hread
    have hfrom := hm'.found_eq hturn' hfound
    have hcursor := run_cursor (step_sound hfirst s'.1 s'.2) rest
    rw [run_append, run_cons] at hto
    have hzero : ((((ofRequests h requests).run first).step s'.1 s'.2).journal rest |>.map
        fun e => e.2.bytes).sum = 0 := by omega
    rw [List.sum_eq_zero_iff_forall_eq_nat] at hzero
    exact fun e he => hzero _ (List.mem_map_of_mem he)

/-- **A call that goes on returns.** -/
theorem returns (ht : t.Sound requests) (hsize : request? requests c = some size)
    (ha : (t.stageOf size c).Aligned t.heap.region.size) (hbegun : t.HasBegun c)
    {schedule : List (Nat × Bool)}
    (hacts : 2 * (t.heap.region.size / granuleBytes + 1 +
      (t.turns schedule c).countP Turn.isSpurious) + 3 ≤
        schedule.countP fun s => s.1 = c.thread) :
    ∃ answer, (t.run schedule).result? c = some answer := by
  cases hresult : (t.run schedule).result? c with
  | some answer => exact ⟨answer, rfl⟩
  | none =>
    have hnot : ¬ ((t.run schedule).stageOf size c).IsReturned := by
      rintro ⟨answer, hreturned⟩
      rw [stageOf_eq_returned_iff.mp hreturned] at hresult
      cases hresult
    have hshort := (run_walk ht hsize schedule).length_lt ha hnot
    rw [length_turns ht hsize hbegun hnot] at hshort
    exact absurd hacts (Nat.not_le.mpr hshort)

end Team

/-! ## The law -/

/-- **How a call goes through its loop**, in the run of a team on a heap of this capacity. -/
structure Team.LoopEnds (start : Team) (schedule : List (Nat × Bool)) (capacity : Nat)
    (size : Int32) (c : CallId) : Prop where
  /-- What the call finds is inside the capacity. -/
  inside : ∀ turn ∈ start.turns schedule c, ∀ found, turn.found? = some found → found ≤ capacity
  /-- An exchange that fails because the cursor has moved finds a larger value. -/
  advances : ∀ {current found}, .failed current found ∈ start.turns schedule c →
    found ≠ current → current + granuleBytes ≤ found
  /-- An exchange fails without cause only where the schedule says so. -/
  spurious : (start.turns schedule c).countP Turn.isSpurious ≤
    schedule.countP fun s => s.1 = c.thread ∧ s.2 = true
  /-- There are no more passes than granules in the capacity, and one, and one for each of these. -/
  passes : (start.turns schedule c).countP Turn.isPass ≤
    capacity / granuleBytes + 1 + (start.turns schedule c).countP Turn.isSpurious
  /-- The call returns with the block that it claimed, or because the heap was full. -/
  leaves : ∀ {answer}, (start.run schedule).result? c = some answer →
    Leaves capacity size (start.turns schedule c) answer
  /-- The call does return, whatever the others do, once its thread has acted so often: twice in each
  pass that it may make, and three times outside of the loop. -/
  returns : (start.run schedule).HasBegun c → ∀ later,
    2 * (capacity / granuleBytes + 1 +
      ((start.run schedule).turns later c).countP Turn.isSpurious) + 3 ≤
        later.countP (fun s => s.1 = c.thread) →
    ∃ answer, (start.run (schedule ++ later)).result? c = some answer
  /-- From the last time that the call came to know the value of the cursor to the exchange that
  moves it from there, nobody claims a byte. -/
  undisturbed : ∀ {front current bytes back},
    start.journal schedule = front ++ (c, .claimed current bytes) :: back →
    ∃ before turn between, front = before ++ (c, turn) :: between ∧ turn.found? = some current ∧
      (∀ e ∈ between, e.1 = c → e.2.found? = none) ∧ ∀ e ∈ between, e.2.bytes = 0

/-- **The loop of a request ends.** -/
theorem loop_ends {host : Host} {capacity : Nat} {h : Shared} {requests : List (List Int32)}
    {c : CallId} {size : Int32} (hh : Shared.withCapacity host capacity = .ok h)
    (hsize : request? requests c = some size) (schedule : List (Nat × Bool)) :
    (Team.ofRequests h requests).LoopEnds schedule capacity size c := by
  obtain ⟨r, rfl, rfl⟩ := Shared.withCapacity_eq_ok hh
  have hstart := Team.sound_ofRequests (Shared.sound_ofRegion r) requests
  have hrun := Team.run_sound hstart schedule
  have hregion := Team.run_region hstart schedule
  have hwalk := Team.run_walk hstart hsize schedule
  rw [Team.stageOf_ofRequests] at hwalk
  have haligned := hwalk.aligned trivial
  exact {
    inside := fun turn hmem found hfound => hwalk.found_le hmem hfound
    advances := fun hmem hmoved => hwalk.advances trivial hmem hmoved
    spurious := Team.spurious_le hstart hsize schedule
    passes := Nat.le_trans (Nat.le_add_right _ _) (hwalk.passes_le trivial)
    leaves := fun hresult => (Team.stageOf_eq_returned_iff.mpr hresult ▸ hwalk).leaves
    returns := fun hbegun later hacts => by
      rw [Team.run_append]
      refine Team.returns hrun hsize ?_ hbegun ?_
      · rw [hregion]
        exact haligned
      · rw [hregion]
        exact hacts
    undisturbed := Team.undisturbed (Shared.sound_ofRegion r) hsize }

/-- Two threads on four bytes: the first one requests nothing, and reads the cursor; the second one
is granted all four bytes; the exchange of the first is in vain, and its next one fails without
cause. The first one makes as many passes as the law allows. -/
theorem loop_ends_overtaken :
    ∃ h, Shared.withCapacity Host.ample 4 = .ok h ∧ request? [[0], [4]] ⟨0, 0⟩ = some 0 ∧
      let start := Team.ofRequests h [[0], [4]]
      let schedule := List.replicate 4 (0, false) ++ List.replicate 6 (1, false) ++
        [(0, false), (0, false), (0, true)] ++ List.replicate 3 (0, false)
      start.turns schedule ⟨0, 0⟩ = [.outside, .read 0, .fits 0, .failed 0 4, .fits 4, .failed 4 4,
        .fits 4, .claimed 4 0, .outside] ∧
      start.LoopEnds schedule 4 0 ⟨0, 0⟩ := by
  refine ⟨_, rfl, rfl, ?_, ?_⟩
  · rfl
  · exact @loop_ends Host.ample 4 _ [[0], [4]] ⟨0, 0⟩ 0 rfl rfl _

end VmSupport.Heap
